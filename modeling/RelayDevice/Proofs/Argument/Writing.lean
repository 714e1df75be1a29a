import RelayDevice.Proofs.Argument.Limits

/-!
# What is written, and what is refused

The writer has one octet for each length and one for the mask, and asks at several places whether a
number still fits. Together its questions come to `ArgumentList.Sendable`: whoever passes them all
can be laid out, and what is laid out passes them all. So no length is cut down to its octet, which
shows in the octets themselves: each length there is that of the payload (`payloadSize`), and the
list is as long as the payloads make it (`length_of_encode`).

A list that is refused is refused for a reason that is true of it. It has too many declarations, or
the writer names the first declaration that it cannot serve and says what is wrong with it
(`ArgumentList.Complaint`).

The argument turns on one declaration. `complaint_of_record_eq_error` goes through the questions in
the order in which the writer asks them, and `length_payload_of_record` through what it answers; the
lists are then inductions along `recordsFrom`. `encode_exactly_sendable` puts the parts together.
-/

namespace RelayDevice

namespace ArgumentList

variable {values : Assignment} {position : Nat} {d : ArgumentDef} {value : ArgumentValue}
  {defs : List ArgumentDef} {cause : ArgumentError}

/-! ### Sizes -/

/-- What the length of a record counts: the octets of the name and, before them, those of a
string. -/
def payloadSize (values : Assignment) (d : ArgumentDef) : Nat :=
  match values.get? d.name with
  | some (.string s) => (Utf8.encode s).length + (Utf8.encode d.name).length
  | _ => (Utf8.encode d.name).length

theorem payloadSize_of_string {s : String} (found : values.get? d.name = some (.string s)) :
    payloadSize values d = (Utf8.encode s).length + (Utf8.encode d.name).length := by
  rw [payloadSize, found]

theorem payloadSize_of_ne_string (found : values.get? d.name = some value)
    (other : value.kind ≠ .string) : payloadSize values d = (Utf8.encode d.name).length := by
  rw [payloadSize, found]
  cases value with
  | string s => exact absurd rfl other
  | _ => rfl

/-- The payload of a record has the size that its value and its name call for. -/
theorem length_payload_of_record {r : Record} (found : values.get? d.name = some value)
    (written : record position d value = .ok r) : r.payload.length = payloadSize values d := by
  have same : value.kind = d.kind := kind_of_record_eq_ok written
  by_cases kind : d.kind = .string
  · cases value with
    | string s =>
      rw [record_string position kind] at written
      -- neither of the two questions about a string was answered with a refusal
      split at written
      · cases written
      · split at written
        · cases written
        · cases written
          rw [payloadSize_of_string found, List.length_append]
    | _ => cases same.trans kind
  · have other : value.kind ≠ .string := fun string => kind (same.symm.trans string)
    rw [record_of_ne_string position same kind] at written
    split at written
    · cases written
    · obtain ⟨octets, -, h⟩ := Outcome.map_eq_ok_iff.1 written
      cases h
      rw [payloadSize_of_ne_string found other]

/-- The lengths in front of the records, none of which is cut down to its octet. -/
theorem map_toNat_lengths {records : List Record}
    (written : recordsFrom values position defs = .ok records) :
    (records.map fun r => (UInt8.ofNat r.payload.length).toNat)
      = defs.map (payloadSize values) := by
  induction defs generalizing position records with
  | nil =>
    cases written
    rfl
  | cons d defs ih =>
    obtain ⟨value, r, rs, found, first, later, rfl⟩ := recordsFrom_cons_eq_ok written
    obtain ⟨-, -, -, -, -, short, -⟩ := record_eq_ok first
    have whole : (UInt8.ofNat r.payload.length).toNat = r.payload.length :=
      UInt8.toNat_ofNat_of_lt' (Nat.lt_succ_of_le short)
    rw [List.map_cons, List.map_cons, whole, length_payload_of_record found first, ih later]

/-- Each record takes four octets besides its payload. -/
theorem length_flatMap_records {records : List Record}
    (written : recordsFrom values position defs = .ok records) :
    (records.flatMap Record.toBytes).length
      = (defs.map fun d => 4 + payloadSize values d).sum := by
  induction defs generalizing position records with
  | nil =>
    cases written
    rfl
  | cons d defs ih =>
    obtain ⟨value, r, rs, found, first, later, rfl⟩ := recordsFrom_cons_eq_ok written
    obtain ⟨a, b, c, e, word, -⟩ := record_eq_ok first
    have length : r.toBytes.length = 4 + payloadSize values d := by
      rw [Record.length_toBytes word, length_payload_of_record found first]
    rw [List.flatMap_cons, List.length_append, length, ih later, List.map_cons, List.sum_cons]

/-- **The octets of a list** that count something: the first holds the number of arguments, the next
ones hold the sizes of the payloads, and none of them has lost anything. -/
theorem length_of_encode {bytes : Bytes} (written : encode defs values = .ok bytes) :
    bytes.length = defs.length + 2 + (defs.map fun d => 4 + payloadSize values d).sum ∧
      bytes[0]?.map UInt8.toNat = some defs.length ∧
      ∀ j d, defs[j]? = some d → bytes[j + 1]?.map UInt8.toNat = some (payloadSize values d) := by
  obtain ⟨few, records, each, rfl⟩ := encode_eq_ok written
  have count : records.length = defs.length := length_recordsFrom each
  refine ⟨?_, ?_, ?_⟩
  · rw [List.length_cons, List.length_append, List.length_map, List.length_cons, count,
      length_flatMap_records each]
    omega
  · have small : (UInt8.ofNat defs.length).toNat = defs.length :=
      UInt8.toNat_ofNat_of_lt' (Nat.lt_succ_of_le few)
    rw [List.getElem?_cons_zero, Option.map_some, small]
  · intro j d there
    have early : j < defs.length := (List.getElem?_eq_some_iff.1 there).1
    -- the octet stands among the lengths, in front of the mask
    have within : j < (records.map fun r => UInt8.ofNat r.payload.length).length := by
      rw [List.length_map, count]
      exact early
    have sizes := congrArg (·[j]?) (map_toNat_lengths each)
    simp only [List.getElem?_map, there, Option.map_some] at sizes
    rw [List.getElem?_cons_succ, List.getElem?_append_left within, List.getElem?_map,
      Option.map_map]
    exact sizes

/-! ### Complaints -/

/-- **What is wrong with a declaration** at a position: there is no value for it, or one of another
type; a string comes too late for the mask, or is too long with its name; any other name is too long,
or the instant too far away for its word. The first that applies is complained of, and no other. -/
inductive Complaint (values : Assignment) (position : Nat) (d : ArgumentDef) :
    ArgumentError → Prop
  | noValue (absent : values.get? d.name = none) : Complaint values position d (.noValue d.name)
  | wrongValue {value : ArgumentValue} (found : values.get? d.name = some value)
      (another : value.kind ≠ d.kind) :
      Complaint values position d (.wrongValue d.name d.kind value.kind)
  | lateString {s : String} (found : values.get? d.name = some (.string s))
      (kind : d.kind = .string) (late : 7 < position) :
      Complaint values position d (.lateString d.name position)
  | longString {s : String} (found : values.get? d.name = some (.string s))
      (kind : d.kind = .string) (early : position ≤ 7) (long : 255 < payloadSize values d) :
      Complaint values position d (.longString d.name (payloadSize values d))
  | longName {value : ArgumentValue} (found : values.get? d.name = some value)
      (same : value.kind = d.kind) (kind : d.kind ≠ .string)
      (long : 255 < (Utf8.encode d.name).length) : Complaint values position d (.longName d.name)
  | instantOutOfRange {t : Instant} (found : values.get? d.name = some (.timestamp t))
      (kind : d.kind = .timestamp) (short : (Utf8.encode d.name).length ≤ 255)
      (far : t.seconds < -2147483648 ∨ 2147483647 < t.seconds) :
      Complaint values position d (.instantOutOfRange t)

/-- Of all values that are no strings only instants can be too large for a word. -/
theorem word_eq_error_iff (other : value.kind ≠ .string) :
    word value = .error cause ↔
      ∃ t, value = .timestamp t ∧ (t.seconds < -2147483648 ∨ 2147483647 < t.seconds) ∧
        cause = .instantOutOfRange t := by
  constructor
  · intro failed
    cases value with
    | timestamp t =>
      rw [word] at failed
      split at failed
      · cases failed
      · next far =>
        cases failed
        exact ⟨t, rfl, by omega, rfl⟩
    | string s => exact absurd rfl other
    | integer v => cases failed
    | float v => cases failed
    | boolean v => cases failed
  · rintro ⟨t, rfl, far, rfl⟩
    have out : ¬ (-2147483648 ≤ t.seconds ∧ t.seconds ≤ 2147483647) := by omega
    rw [word, if_neg out]

theorem complaint_of_record_eq_error (found : values.get? d.name = some value)
    (failed : record position d value = .error cause) : Complaint values position d cause := by
  by_cases same : value.kind = d.kind
  · by_cases kind : d.kind = .string
    · cases value with
      | string s =>
        have size : (Utf8.encode s ++ Utf8.encode d.name).length = payloadSize values d := by
          rw [payloadSize_of_string found, List.length_append]
        rw [record_string position kind, size] at failed
        split at failed
        · next late =>
          cases failed
          exact .lateString found kind late
        · next early =>
          split at failed
          · next long =>
            cases failed
            exact .longString found kind (Nat.le_of_not_lt early) long
          · cases failed
      | _ => cases same.trans kind
    · rw [record_of_ne_string position same kind] at failed
      split at failed
      · next long =>
        cases failed
        exact .longName found same kind long
      · next short =>
        -- the name fits, so it is the word that does not
        have other : value.kind ≠ .string := fun string => kind (same.symm.trans string)
        obtain ⟨t, rfl, far, rfl⟩ := (word_eq_error_iff other).1 (Outcome.map_eq_error_iff.1 failed)
        exact .instantOutOfRange found same.symm (Nat.le_of_not_lt short) far
  · rw [record, if_pos same] at failed
    cases failed
    exact .wrongValue found same

theorem record_eq_error_of_complaint (found : values.get? d.name = some value)
    (complaint : Complaint values position d cause) : record position d value = .error cause := by
  -- whatever value a complaint is about is the one that was found
  have unique {other : ArgumentValue} (again : values.get? d.name = some other) : value = other :=
    Option.some.inj (found.symm.trans again)
  cases complaint with
  | noValue absent =>
    rw [found] at absent
    cases absent
  | wrongValue again another =>
    obtain rfl := unique again
    rw [record, if_pos another]
  | lateString again kind late =>
    obtain rfl := unique again
    rw [record_string position kind, if_pos late]
  | longString again kind early long =>
    obtain rfl := unique again
    rw [payloadSize_of_string again] at long ⊢
    rw [record_string position kind, if_neg (Nat.not_lt.2 early), List.length_append, if_pos long]
  | longName again same kind long =>
    obtain rfl := unique again
    rw [record_of_ne_string position same kind, if_pos long]
  | @instantOutOfRange t again kind short far =>
    obtain rfl := unique again
    have other : d.kind ≠ .string := by
      rw [kind]
      decide
    have same : (ArgumentValue.timestamp t).kind = d.kind := kind.symm
    have failed : word (.timestamp t) = .error (.instantOutOfRange t) :=
      (word_eq_error_iff (same.trans_ne other)).2 ⟨t, rfl, far, rfl⟩
    rw [record_of_ne_string position same other, if_neg (Nat.not_lt.2 short), failed]
    rfl

/-- A declaration is complained of, or it can be sent and the complaint is about a later one. -/
theorem recordsFrom_cons_eq_error_iff :
    recordsFrom values position (d :: defs) = .error cause ↔
      Complaint values position d cause ∨
        Sendable values position d ∧ recordsFrom values (position + 1) defs = .error cause := by
  cases found : values.get? d.name with
  | none =>
    have complained : recordsFrom values position (d :: defs) = .error (.noValue d.name) := by
      rw [recordsFrom, found]
    rw [complained]
    constructor
    · intro same
      cases same
      exact .inl (.noValue found)
    · rintro (complaint | ⟨⟨value, again, -⟩, -⟩)
      · cases complaint with
        | noValue absent => rfl
        | wrongValue again _ | lateString again _ _ | longString again _ _ _
        | longName again _ _ _ | instantOutOfRange again _ _ _ =>
          rw [found] at again
          cases again
      · rw [found] at again
        cases again
  | some value =>
    have served : (∃ r, record position d value = .ok r) ↔ Sendable values position d := by
      rw [record_isOk_iff]
      constructor
      · intro fits
        exact ⟨value, found, fits⟩
      · rintro ⟨other, again, fits⟩
        obtain rfl : value = other := Option.some.inj (found.symm.trans again)
        exact fits
    have refused : record position d value = .error cause ↔ Complaint values position d cause :=
      ⟨complaint_of_record_eq_error found, record_eq_error_of_complaint found⟩
    rw [recordsFrom, found]
    dsimp only
    rw [Outcome.bind_eq_error_iff, refused, ← served]
    refine or_congr_right ?_
    constructor
    · rintro ⟨r, written, later⟩
      obtain failed | ⟨rs, -, done⟩ := Outcome.bind_eq_error_iff.1 later
      · exact ⟨⟨r, written⟩, failed⟩
      · cases done
    · rintro ⟨⟨r, written⟩, failed⟩
      exact ⟨r, written, Outcome.bind_eq_error_iff.2 (.inl failed)⟩

/-- **The first declaration that cannot be sent** is the one that is complained of. -/
theorem recordsFrom_eq_error_iff :
    recordsFrom values position defs = .error cause ↔
      ∃ before d later, defs = before ++ d :: later ∧
        (∀ j e, before[j]? = some e → Sendable values (position + j) e) ∧
        Complaint values (position + before.length) d cause := by
  induction defs generalizing position with
  | nil =>
    refine iff_of_false (fun failed => by cases failed) ?_
    rintro ⟨before, d, later, none, -⟩
    exact List.append_ne_nil_of_right_ne_nil before (List.cons_ne_nil d later) none.symm
  | cons first defs ih =>
    rw [recordsFrom_cons_eq_error_iff]
    constructor
    · rintro (complaint | ⟨sendable, failed⟩)
      · exact ⟨[], first, defs, rfl, nofun, complaint⟩
      · -- the complaint is about one of the others, which stand one place further on
        obtain ⟨before, d, later, rfl, each, complaint⟩ := ih.1 failed
        refine ⟨first :: before, d, later, rfl, ?_, ?_⟩
        · rintro (_ | j) e there
          · cases there
            exact sendable
          · have moved := each j e there
            rwa [Nat.add_assoc, Nat.add_comm 1 j] at moved
        · rwa [Nat.add_assoc, Nat.add_comm 1 before.length] at complaint
    · rintro ⟨before, d, later, parts, each, complaint⟩
      cases before with
      | nil =>
        cases parts
        exact .inl complaint
      | cons e before =>
        cases parts
        refine .inr ⟨each 0 first rfl, ih.2 ⟨before, d, later, rfl, ?_, ?_⟩⟩
        · intro j e there
          have moved := each (j + 1) e there
          rwa [Nat.add_comm j 1, ← Nat.add_assoc] at moved
        · rwa [List.length_cons, Nat.add_comm before.length 1, ← Nat.add_assoc] at complaint

/-! ### Whole lists -/

theorem forall_sendable_iff :
    (∀ entry ∈ defs.zipIdx, Sendable values entry.2 entry.1) ↔
      ∀ j d, defs[j]? = some d → Sendable values j d := by
  constructor
  · intro each j d there
    exact each (d, j) (List.mk_mem_zipIdx_iff_getElem?.2 there)
  · rintro each ⟨d, j⟩ among
    exact each j d (List.mk_mem_zipIdx_iff_getElem?.1 among)

/-- **Exactly the representable lists are written.** A list is laid out if and only if there are at
most 255 declarations and each can be sent at its position, names repeated or not. Any other list is
refused, for having too many declarations, or else for the first one that cannot be sent and with
what is wrong with it. In a list that is written no length was cut down: the count and the size of
each payload stand there as they are, and the whole is as long as they say. -/
theorem encode_exactly_sendable (defs : List ArgumentDef) (values : Assignment) :
    ((∃ bytes, encode defs values = .ok bytes) ↔
        defs.length ≤ 255 ∧ ∀ j d, defs[j]? = some d → Sendable values j d) ∧
      (∀ cause, encode defs values = .error cause ↔
        255 < defs.length ∧ cause = .tooMany defs.length ∨
        defs.length ≤ 255 ∧ ∃ before d later, defs = before ++ d :: later ∧
          (∀ j e, before[j]? = some e → Sendable values j e) ∧
          Complaint values before.length d cause) ∧
      ∀ bytes, encode defs values = .ok bytes →
        bytes.length = defs.length + 2 + (defs.map fun d => 4 + payloadSize values d).sum ∧
        bytes[0]?.map UInt8.toNat = some defs.length ∧
        ∀ j d, defs[j]? = some d →
          bytes[j + 1]?.map UInt8.toNat = some (payloadSize values d) := by
  refine ⟨?_, ?_, ?_⟩
  · rw [encode_isOk_iff, forall_sendable_iff]
  · intro cause
    rw [encode]
    split
    · next many =>
      have far : ¬ defs.length ≤ 255 := Nat.not_le.2 many
      simp only [many, far, true_and, false_and, or_false, Except.error.injEq]
      exact eq_comm
    · next few =>
      have near : defs.length ≤ 255 := Nat.le_of_not_lt few
      simp only [few, near, true_and, false_and, false_or]
      have first : recordsFrom values 0 defs = .error cause ↔ _ := recordsFrom_eq_error_iff
      simp only [Nat.zero_add] at first
      rw [← first, Outcome.bind_eq_error_iff]
      constructor
      · rintro (failed | ⟨records, -, done⟩)
        · exact failed
        · cases done
      · exact .inl
  · intro bytes written
    exact length_of_encode written

/-- A name that is declared twice is laid out twice. -/
example : encode [⟨"a", .integer⟩, ⟨"a", .integer⟩] [("a", .integer 7)]
    = .ok [2, 1, 1, 0, 0, 0, 0, 7, 97, 0, 0, 0, 7, 97] := by decide +kernel

end ArgumentList

end RelayDevice
