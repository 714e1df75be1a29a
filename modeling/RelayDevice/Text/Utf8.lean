import RelayDevice.Bytes

/-!
# Text as octets

Names, keys and reasons travel as UTF-8.

* `Utf8.encode`, `Utf8.size` — the octets of a text, and how many characters take;
* `Utf8.decode?` — the text that octets encode, if they encode one;
* `Utf8.repair` — the text of any octets, where each stretch that cannot be read becomes one
  replacement character.

`decode?_eq_some_iff` says that reading accepts exactly what writing produces.
-/

namespace RelayDevice

namespace Utf8

/-- The octets of a text. -/
def encode (s : String) : Bytes :=
  s.toByteArray.data.toList

/-- How many octets characters take. -/
def size : List Char → Nat
  | [] => 0
  | c :: rest => c.utf8Size + size rest

/-- The text that the octets encode. -/
def decode? (bs : Bytes) : Option String :=
  String.fromUTF8? ⟨bs.toArray⟩

theorem decode?_eq_some_iff {bs : Bytes} {s : String} : decode? bs = some s ↔ bs = encode s := by
  simp only [decode?, String.fromUTF8?, encode]
  constructor
  · intro h
    split at h
    · cases h; rfl
    · cases h
  · rintro rfl
    have valid : (ByteArray.mk s.toByteArray.data.toList.toArray).IsValidUTF8 := s.isValidUTF8
    rw [dif_pos valid]
    rfl

@[simp] theorem decode?_encode (s : String) : decode? (encode s) = some s :=
  decode?_eq_some_iff.2 rfl

/-! ### Repairing octets that are no text -/

/-- What a character's first octet promises: how many octets follow it, and the bounds within
which the first of those must lie. -/
structure Lead where
  following : Nat
  low : Nat
  high : Nat
deriving DecidableEq, Repr

/-- The promise of a first octet; `none` for an octet that opens no character of several octets.
The bounds rule out overlong forms, surrogates and values past the last character. -/
def lead? (b : UInt8) : Option Lead :=
  let n := b.toNat
  if n < 0xC2 then none
  else if n < 0xE0 then some ⟨1, 0x80, 0xBF⟩
  else if n = 0xE0 then some ⟨2, 0xA0, 0xBF⟩
  else if n = 0xED then some ⟨2, 0x80, 0x9F⟩
  else if n < 0xF0 then some ⟨2, 0x80, 0xBF⟩
  else if n = 0xF0 then some ⟨3, 0x90, 0xBF⟩
  else if n < 0xF4 then some ⟨3, 0x80, 0xBF⟩
  else if n = 0xF4 then some ⟨3, 0x80, 0x8F⟩
  else none

/-- The octets, out of `n` expected ones, that continue a character; the first lies in the given
bounds and the others are any continuation octets. -/
def continuation : Nat → Nat → Nat → Bytes → Bytes
  | 0, _, _, _ => []
  | _, _, _, [] => []
  | n + 1, low, high, b :: rest =>
    if low ≤ b.toNat ∧ b.toNat ≤ high then b :: continuation n 0x80 0xBF rest else []

/-- The mark that stands for octets that cannot be read. -/
def replacement : Char := '\uFFFD'

/-- The code point of a first octet and the octets that continue it. -/
def codePoint (first : UInt8) (following : Bytes) : Nat :=
  let kept := match following.length with
    | 1 => first.toNat % 32
    | 2 => first.toNat % 16
    | _ => first.toNat % 8
  following.foldl (fun n b => n * 64 + b.toNat % 64) kept

/-- Reads characters one after the other. A stretch that opens a character without completing it
becomes one replacement mark, as does any other octet out of place. -/
def repairChars : Bytes → List Char
  | [] => []
  | b :: rest =>
    if b.toNat < 0x80 then Char.ofNat b.toNat :: repairChars rest
    else
      match lead? b with
      | none => replacement :: repairChars rest
      | some l =>
        let run := continuation l.following l.low l.high rest
        let shown := if run.length = l.following then Char.ofNat (codePoint b run) else replacement
        shown :: repairChars (rest.drop run.length)
termination_by bs => bs.length
decreasing_by all_goals simp only [List.length_cons, List.length_drop]; omega

/-- The text of any octets: unchanged if they encode one, else with replacement marks. -/
def repair (bs : Bytes) : String :=
  match decode? bs with
  | some s => s
  | none => String.ofList (repairChars bs)

@[simp] theorem repair_encode (s : String) : repair (encode s) = s := by
  simp [repair]

end Utf8

end RelayDevice
