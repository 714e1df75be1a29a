import Mathlib.Algebra.Ring.Nat
import RelayDevice.Argument.Layout
import RelayDevice.Proofs.Outcome

/-!
# Records of an argument list

How one argument is laid out and read again, and how the records of a whole list are. The writer
packs lengths, mask and records apart from each other, and the reader takes them up again side by
side, one of each per argument.

* `record_eq_ok` — what a record of an argument holds, and that it is read as that argument;
* `recordsFrom_cons_eq_ok` — the records of a list, one argument at a time;
* `readRecords_record` — one step of the reader, in terms of the record that it meets;
* `readRecords_recordsFrom` — **all records are read back**, to the values as they arrive;
* `readCounted_append` — the header in front of the records, read by its count.
-/

namespace RelayDevice

namespace ArgumentList

/-! ### Words -/

/-- The four octets of a value that is no string spell a word, which is read as the value. -/
theorem word_eq_ok {value : ArgumentValue} {octets : Bytes} (h : word value = .ok octets) :
    ∃ w, octets = Bytes.ofUInt32 w ∧ ofWord value.kind w = .ok value.received := by
  cases value with
  | integer v =>
    cases h
    exact ⟨v.toUInt32, rfl, by rw [ArgumentValue.kind, ofWord, Int32.toInt32_toUInt32]; rfl⟩
  | float v =>
    -- the bits are sent as they are, so that a NaN keeps its payload
    cases h
    exact ⟨v.bits, rfl, rfl⟩
  | boolean v =>
    cases h
    refine ⟨if v then 1 else 0, rfl, ?_⟩
    cases v <;> rfl
  | timestamp v =>
    rw [word] at h
    split at h
    · next fits =>
      cases h
      refine ⟨(Int32.ofInt v.seconds).toUInt32, rfl, ?_⟩
      -- seconds within 32 bits do not wrap
      have whole : (Int32.ofInt v.seconds).toInt = v.seconds :=
        Int32.toInt_ofInt_of_le (by omega) (by omega)
      rw [ArgumentValue.kind, ofWord, Int32.toInt32_toUInt32, whole]
      rfl
    · cases h
  | string v => cases h

/-! ### One record -/

/-- The record of a string of the declared type. -/
theorem record_string (position : Nat) {d : ArgumentDef} (kind : d.kind = .string) (s : String) :
    record position d (.string s)
      = if 7 < position then .error (.lateString d.name position)
        else if 255 < (Utf8.encode s ++ Utf8.encode d.name).length then
          .error (.longString d.name (Utf8.encode s ++ Utf8.encode d.name).length)
        else .ok ⟨true, [0, .ofNat (Utf8.encode s).length, 0, .ofNat (Utf8.encode d.name).length],
          Utf8.encode s ++ Utf8.encode d.name⟩ := by
  rw [record, ArgumentValue.kind, kind, if_neg (not_not_intro rfl), List.length_append]

/-- The record of any other value of the declared type. -/
theorem record_of_ne_string (position : Nat) {d : ArgumentDef} {value : ArgumentValue}
    (kind : value.kind = d.kind) (other : d.kind ≠ .string) :
    record position d value
      = if 255 < (Utf8.encode d.name).length then .error (.longName d.name)
        else (word value).map fun w => ⟨false, w, Utf8.encode d.name⟩ := by
  rw [record, if_neg (not_not_intro kind)]
  cases value with
  | string s => exact absurd kind.symm other
  | _ => rfl

/-- A record is written only for a value of the declared type. -/
theorem kind_of_record_eq_ok {position : Nat} {d : ArgumentDef} {value : ArgumentValue} {r : Record}
    (h : record position d value = .ok r) : value.kind = d.kind := by
  rw [record] at h
  split at h
  · cases h
  · next same => exact Decidable.not_not.1 same

/-- The record of a string read again. The length of the name is not looked at. -/
theorem readRecord_string {defs : List ArgumentDef} {name : String}
    (declared : declared? defs name = some .string) (place : Nat) (c e : UInt8) (s : String)
    (short : (Utf8.encode s).length ≤ 255) :
    readRecord defs place true 0 (.ofNat (Utf8.encode s).length) c e
        (Utf8.encode s ++ Utf8.encode name) = .ok (name, .string s) := by
  -- the length of the value has not wrapped, so the payload splits where it was joined
  have size : (Bytes.toUInt16 0 (.ofNat (Utf8.encode s).length)).toNat
      = (Utf8.encode s).length := by
    rw [Bytes.toNat_toUInt16, UInt8.toNat_ofNat', UInt8.toNat_zero]
    omega
  have whole : ¬ (Utf8.encode s ++ Utf8.encode name).length < (Utf8.encode s).length := by
    rw [List.length_append]
    omega
  rw [readRecord, if_pos rfl]
  dsimp only
  rw [size, if_neg whole, List.take_left, List.drop_left, Utf8.decode?_encode, Utf8.decode?_encode]
  simp only [declared]

/-- Any other record read again, in the type that the reader declares. -/
theorem readRecord_word {defs : List ArgumentDef} {name : String} {kind : ArgumentType}
    (declared : declared? defs name = some kind) (place : Nat) (a b c e : UInt8) :
    readRecord defs place false a b c e (Utf8.encode name)
      = (ofWord kind (Bytes.toUInt32 a b c e)).map fun value => (name, value) := by
  rw [readRecord, if_neg Bool.false_ne_true, Utf8.decode?_encode]
  simp only [declared]

/-- **A record and its argument.** What the writer leaves in the first four octets and behind them
is read as the argument it was written from, by any reader that declares the argument alike.
Lengths fit an octet, and strings come early enough for the mask. -/
theorem record_eq_ok {position : Nat} {d : ArgumentDef} {value : ArgumentValue} {r : Record}
    (h : record position d value = .ok r) :
    ∃ a b c e, r.word = [a, b, c, e] ∧ r.payload.length ≤ 255 ∧
      (r.isString = true → position ≤ 7) ∧
      ∀ defs place, declared? defs d.name = some d.kind →
        readRecord defs place r.isString a b c e r.payload = .ok (d.name, value.received) := by
  have same := kind_of_record_eq_ok h
  by_cases kind : d.kind = .string
  · cases value with
    | string s =>
      rw [record_string position kind] at h
      split at h
      · cases h
      · next early =>
        split at h
        · cases h
        · next short =>
          cases h
          refine ⟨_, _, _, _, rfl, Nat.le_of_not_lt short, fun _ => Nat.le_of_not_lt early, ?_⟩
          intro defs place declared
          rw [List.length_append] at short
          exact readRecord_string (declared.trans (congrArg some kind)) place _ _ s (by omega)
    | _ => cases same.trans kind
  · rw [record_of_ne_string position same kind] at h
    split at h
    · cases h
    · next short =>
      obtain ⟨octets, written, h⟩ := Outcome.map_eq_ok_iff.1 h
      obtain ⟨w, rfl, read⟩ := word_eq_ok written
      cases h
      refine ⟨_, _, _, _, rfl, Nat.le_of_not_lt short, nofun, ?_⟩
      intro defs place declared
      rw [readRecord_word declared, Bytes.toUInt32_ofUInt32, ← same, read]
      rfl

/-! ### The records of a list -/

theorem recordsFrom_cons_eq_ok {values : Assignment} {position : Nat} {d : ArgumentDef}
    {defs : List ArgumentDef} {records : List Record}
    (h : recordsFrom values position (d :: defs) = .ok records) :
    ∃ value r rs, values.get? d.name = some value ∧ record position d value = .ok r ∧
      recordsFrom values (position + 1) defs = .ok rs ∧ records = r :: rs := by
  rw [recordsFrom] at h
  split at h
  · cases h
  · next value found =>
    obtain ⟨r, written, h⟩ := Outcome.bind_eq_ok_iff.1 h
    obtain ⟨rs, later, h⟩ := Outcome.bind_eq_ok_iff.1 h
    cases h
    exact ⟨value, r, rs, found, written, later, rfl⟩

theorem length_recordsFrom {values : Assignment} {position : Nat} {defs : List ArgumentDef}
    {records : List Record} (h : recordsFrom values position defs = .ok records) :
    records.length = defs.length := by
  induction defs generalizing position records with
  | nil => cases h; rfl
  | cons d defs ih =>
    obtain ⟨_, _, rs, -, -, later, rfl⟩ := recordsFrom_cons_eq_ok h
    rw [List.length_cons, List.length_cons, ih later]

/-- **The mask fits its octet**, since only the first eight records can be strings. -/
theorem maskOf_lt {values : Assignment} {position : Nat} {defs : List ArgumentDef}
    {records : List Record} (h : recordsFrom values position defs = .ok records) :
    maskOf records < 2 ^ (8 - position) := by
  induction defs generalizing position records with
  | nil => cases h; exact Nat.two_pow_pos _
  | cons d defs ih =>
    obtain ⟨_, r, rs, -, written, later, rfl⟩ := recordsFrom_cons_eq_ok h
    obtain ⟨_, _, _, _, -, -, early, -⟩ := record_eq_ok written
    have rest := ih later
    rw [maskOf]
    by_cases place : position ≤ 7
    · -- one more bit, in front of those of the later records
      have step : 2 ^ (8 - position) = 2 * 2 ^ (8 - (position + 1)) :=
        calc 2 ^ (8 - position) = 2 ^ (8 - (position + 1) + 1) := by
              rw [show 8 - position = 8 - (position + 1) + 1 by omega]
          _ = 2 * 2 ^ (8 - (position + 1)) := Nat.pow_succ'
      split <;> omega
    · -- past the mask no record is a string
      rw [if_neg fun string => place (early string)]
      rw [show 8 - (position + 1) = 0 by omega] at rest
      rw [show 8 - position = 0 by omega]
      omega

theorem Record.length_toBytes {r : Record} {a b c e : UInt8} (word : r.word = [a, b, c, e]) :
    r.toBytes.length = 4 + r.payload.length := by
  rw [toBytes, word, List.length_append]
  rfl

/-- **One step of the reader**, at the record it meets. The lowest bit of the mask is that of the
record. -/
theorem readRecords_record {r : Record} {a b c e : UInt8} (word : r.word = [a, b, c, e])
    (short : r.payload.length ≤ 255) {mask : Nat} (flag : (mask % 2 == 1) = r.isString)
    (defs : List ArgumentDef) (position : Nat) (sizes : List UInt8) (rest : Bytes)
    (values : Assignment) :
    readRecords defs position mask (.ofNat r.payload.length :: sizes) (r.toBytes ++ rest) values
      = readRecord defs position r.isString a b c e r.payload >>= fun (name, value) =>
          if (values.get? name).isSome then .error (.repeated name)
          else readRecords defs (position + 1) (mask / 2) sizes rest ((name, value) :: values) := by
  have size : (UInt8.ofNat r.payload.length).toNat = r.payload.length :=
    UInt8.toNat_ofNat_of_lt' (Nat.lt_succ_of_le short)
  have bytes : r.toBytes = a :: b :: c :: e :: r.payload := by
    rw [Record.toBytes, word]
    rfl
  have length : r.toBytes.length = 4 + r.payload.length := Record.length_toBytes word
  -- the record is cut off as a whole, and the others stay
  have taken : (r.toBytes ++ rest).take (4 + r.payload.length) = a :: b :: c :: e :: r.payload := by
    rw [List.take_left' length, bytes]
  have dropped : (r.toBytes ++ rest).drop (4 + r.payload.length) = rest := List.drop_left' length
  rw [readRecords, size, taken]
  dsimp only
  rw [if_neg (Nat.lt_irrefl _), flag, dropped]

/-- The same where the mask was packed from the records. -/
theorem readRecords_cons {r : Record} {a b c e : UInt8} (word : r.word = [a, b, c, e])
    (short : r.payload.length ≤ 255) (defs : List ArgumentDef) (position : Nat) (rs : List Record)
    (sizes : List UInt8) (rest : Bytes) (values : Assignment) :
    readRecords defs position (maskOf (r :: rs)) (.ofNat r.payload.length :: sizes)
        (r.toBytes ++ rest) values
      = readRecord defs position r.isString a b c e r.payload >>= fun (name, value) =>
          if (values.get? name).isSome then .error (.repeated name)
          else
            readRecords defs (position + 1) (maskOf rs) sizes rest ((name, value) :: values) := by
  have flag : (maskOf (r :: rs) % 2 == 1) = r.isString := by
    rw [maskOf]
    cases r.isString <;> simp
  have later : maskOf (r :: rs) / 2 = maskOf rs := by
    rw [maskOf]
    split <;> omega
  rw [readRecords_record word short flag, later]

/-- The values of declared names as they arrive, in the order of the declarations. -/
def delivered (values : Assignment) (defs : List ArgumentDef) : Assignment :=
  defs.filterMap fun d => (values.get? d.name).map fun value => (d.name, value.received)

theorem delivered_cons {values : Assignment} {d : ArgumentDef} {value : ArgumentValue}
    (found : values.get? d.name = some value) (defs : List ArgumentDef) :
    delivered values (d :: defs) = (d.name, value.received) :: delivered values defs := by
  rw [delivered, List.filterMap_cons, found]
  rfl

/-- **All records are read back.** The invariant of the reader is that none of the names to come has
been read before. -/
theorem readRecords_recordsFrom {values : Assignment} {position : Nat} {sent : List ArgumentDef}
    {records : List Record} (h : recordsFrom values position sent = .ok records)
    {defs : List ArgumentDef} (declared : ∀ d ∈ sent, declared? defs d.name = some d.kind)
    (distinct : (sent.map (·.name)).Nodup) (before : Assignment)
    (fresh : ∀ d ∈ sent, before.get? d.name = none) :
    readRecords defs position (maskOf records) (records.map fun r => .ofNat r.payload.length)
        (records.flatMap Record.toBytes) before
      = .ok ((delivered values sent).reverse ++ before) := by
  induction sent generalizing position records before with
  | nil => cases h; rfl
  | cons d sent ih =>
    obtain ⟨value, r, rs, found, written, later, rfl⟩ := recordsFrom_cons_eq_ok h
    obtain ⟨a, b, c, e, word, short, -, read⟩ := record_eq_ok written
    rw [List.map_cons, List.nodup_cons] at distinct
    have here : d ∈ d :: sent := List.mem_cons_self
    -- names do not come twice, so reading `d` leaves the later ones fresh
    have fresh' : ∀ d' ∈ sent,
        Assignment.get? ((d.name, value.received) :: before) d'.name = none := by
      intro d' hd'
      have ne : d'.name ≠ d.name := fun same => distinct.1 (same ▸ List.mem_map_of_mem hd')
      rw [Assignment.get?_cons_of_ne ne]
      exact fresh d' (List.mem_cons_of_mem d hd')
    have declared' : ∀ d' ∈ sent, declared? defs d'.name = some d'.kind := fun d' hd' =>
      declared d' (List.mem_cons_of_mem d hd')
    have step := ih later declared' distinct.2 _ fresh'
    rw [List.map_cons, List.flatMap_cons, readRecords_cons word short,
      read defs position (declared d here)]
    change (if (before.get? d.name).isSome then _ else _) = _
    rw [fresh d here, Option.isSome_none, if_neg Bool.false_ne_true, step, delivered_cons found,
      List.reverse_cons, List.append_assoc]
    rfl

/-! ### The header of a list -/

/-- The lengths, the mask and what follows them are told apart by the count. -/
theorem readCounted_append {count : Nat} (positive : count ≠ 0) {lengths : Bytes}
    (length : lengths.length = count) (defs : List ArgumentDef) (mask : UInt8) (rest : Bytes) :
    readCounted defs count (lengths ++ mask :: rest)
      = readRecords defs 0 mask.toNat lengths rest [] := by
  rw [readCounted, if_neg positive, List.drop_left' length, List.take_left' length]

end ArgumentList

end RelayDevice
