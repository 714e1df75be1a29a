import Mathlib.Data.List.Nodup
import RelayDevice.Proofs.Argument.RoundTrip

/-!
# What an argument list can hold

A record has one octet for the length of its payload, a mask bit only if it is among the first
eight, and 32 bits for the seconds of an instant. `ArgumentList.Fits` says what this asks of a value
and its name, `ArgumentList.Sendable` what it asks of a declaration at a position, and
`ArgumentList.encode_isOk_iff` that nothing else is asked for.
-/

namespace RelayDevice

namespace ArgumentList

/-! ### One argument -/

/-- **A value that fits a record** under a name. -/
def Fits (name : String) : ArgumentValue → Prop
  | .string s => (Utf8.encode s).length + (Utf8.encode name).length ≤ 255
  | .timestamp t => (Utf8.encode name).length ≤ 255 ∧ -2147483648 ≤ t.seconds ∧
      t.seconds ≤ 2147483647
  | _ => (Utf8.encode name).length ≤ 255

instance (name : String) : DecidablePred (Fits name)
  | .string s => inferInstanceAs (Decidable ((Utf8.encode s).length + _ ≤ 255))
  | .timestamp t => inferInstanceAs (Decidable (_ ∧ -2147483648 ≤ t.seconds ∧ _))
  | .integer _ | .float _ | .boolean _ =>
    inferInstanceAs (Decidable ((Utf8.encode name).length ≤ 255))

theorem word_isOk_iff {name : String} {value : ArgumentValue} (other : value.kind ≠ .string)
    (short : (Utf8.encode name).length ≤ 255) :
    (∃ octets, word value = .ok octets) ↔ Fits name value := by
  cases value with
  | string s => exact absurd rfl other
  | timestamp t =>
    -- of all values that are written as words only instants can be too large for one
    rw [word, Fits]
    split
    · next near => exact iff_of_true ⟨_, rfl⟩ ⟨short, near⟩
    · next far =>
      refine iff_of_false ?_ fun fits => far fits.2
      rintro ⟨_, written⟩
      cases written
  | _ => exact iff_of_true ⟨_, rfl⟩ short

theorem Fits.length_name_le {name : String} {value : ArgumentValue} (fits : Fits name value) :
    (Utf8.encode name).length ≤ 255 := by
  cases value with
  | string s =>
    rw [Fits] at fits
    omega
  | timestamp t => exact fits.1
  | _ => exact fits

/-- **A record is written** for a value of the declared type that fits, a string among the first
eight. -/
theorem record_isOk_iff {position : Nat} {d : ArgumentDef} {value : ArgumentValue} :
    (∃ r, record position d value = .ok r) ↔
      value.kind = d.kind ∧ (d.kind = .string → position ≤ 7) ∧ Fits d.name value := by
  by_cases same : value.kind = d.kind
  · rw [and_iff_right same]
    by_cases kind : d.kind = .string
    · cases value with
      | string s =>
        rw [record_string position kind, List.length_append, Fits]
        split
        · next late => exact iff_of_false nofun fun h => absurd (h.1 kind) (Nat.not_le.2 late)
        · next early =>
          split
          · next long => exact iff_of_false nofun fun h => absurd h.2 (Nat.not_le.2 long)
          · next short =>
            exact iff_of_true ⟨_, rfl⟩ ⟨fun _ => Nat.le_of_not_lt early, Nat.le_of_not_lt short⟩
      | _ => cases same.trans kind
    · rw [record_of_ne_string position same kind, and_iff_right fun string => absurd string kind]
      split
      · next long =>
        exact iff_of_false nofun fun fits => absurd fits.length_name_le (Nat.not_le.2 long)
      · next short =>
        -- the name fits, so it is all up to the word
        rw [← word_isOk_iff (same.trans_ne kind) (Nat.le_of_not_lt short)]
        simp only [Outcome.map_eq_ok_iff]
        exact ⟨fun ⟨_, octets, h, _⟩ => ⟨octets, h⟩, fun ⟨octets, h⟩ => ⟨_, octets, h, rfl⟩⟩
  · exact iff_of_false (fun ⟨_, h⟩ => same (kind_of_record_eq_ok h)) fun h => same h.1

/-! ### Lists of arguments -/

/-- **A declaration that can be sent** at a position: there is a value for it, of its type, early
enough and not too large. -/
def Sendable (values : Assignment) (position : Nat) (d : ArgumentDef) : Prop :=
  ∃ value, values.get? d.name = some value ∧ value.kind = d.kind ∧
    (d.kind = .string → position ≤ 7) ∧ Fits d.name value

theorem recordsFrom_isOk_iff {values : Assignment} {position : Nat} {defs : List ArgumentDef} :
    (∃ rs, recordsFrom values position defs = .ok rs) ↔
      ∀ entry ∈ defs.zipIdx position, Sendable values entry.2 entry.1 := by
  induction defs generalizing position with
  | nil => exact iff_of_true ⟨[], rfl⟩ nofun
  | cons d defs ih =>
    rw [List.zipIdx_cons, List.forall_mem_cons, ← ih]
    constructor
    · rintro ⟨rs, h⟩
      obtain ⟨value, r, rs, found, written, later, rfl⟩ := recordsFrom_cons_eq_ok h
      exact ⟨⟨value, found, record_isOk_iff.1 ⟨r, written⟩⟩, rs, later⟩
    · rintro ⟨⟨value, found, fits⟩, rs, later⟩
      obtain ⟨r, written⟩ := record_isOk_iff.2 fits
      refine ⟨r :: rs, ?_⟩
      rw [recordsFrom, found]
      dsimp only
      rw [written, later]
      rfl

/-- **Exactly the sendable lists are laid out**, of at most 255 declarations. -/
theorem encode_isOk_iff {defs : List ArgumentDef} {values : Assignment} :
    (∃ bytes, encode defs values = .ok bytes) ↔
      defs.length ≤ 255 ∧ ∀ entry ∈ defs.zipIdx, Sendable values entry.2 entry.1 := by
  rw [← recordsFrom_isOk_iff]
  constructor
  · rintro ⟨bytes, h⟩
    obtain ⟨few, records, written, -⟩ := encode_eq_ok h
    exact ⟨few, records, written⟩
  · rintro ⟨few, records, written⟩
    rw [encode, if_neg (Nat.not_lt.2 few), written]
    exact ⟨_, rfl⟩

end ArgumentList

end RelayDevice
