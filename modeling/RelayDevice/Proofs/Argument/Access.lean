import RelayDevice.Proofs.Access
import RelayDevice.Proofs.Argument.Grammar
import RelayDevice.Proofs.Argument.Truncation

/-!
# Argument lists read by position

A list of arguments says in its first octets where everything else is: how many records there are,
how long each is, and in a record how long its value is. `ArgumentList.decodeGuarded` is the reader
that goes to these places, wherever they are said to be, with every step guarded.

It keeps its footing on all octets and for all declarations, `ArgumentList.decodeGuarded_eq`. The
lengths of a list come from its sender, so what keeps the reader within the octets is what it looks
at before it goes somewhere: the count before it takes lengths and mask, the end of a record before
it takes its octets, the length of the value before it cuts the payload in two, and the position
before it looks into the mask. `readRecordsGuarded_eq` is the induction over the records. Its
invariant ties the two ways to go through a list together: the octets behind the offset are those
that are left, and the mask without its lowest bits is the one that the reader shifts.
-/

namespace RelayDevice

namespace ArgumentList

variable {defs : List ArgumentDef}

/-! ### The reader -/

/-- Reads a string record. -/
def readStringGuarded (position : Nat) (record payload : Bytes) :
    Guarded ArgumentError (String × ArgumentValue) := do
  let size ← Guarded.word record 0
  if payload.length < size.toNat then
    Guarded.refuse (.valueOverrun position size.toNat payload.length)
  else
    let front ← Guarded.stretch payload 0 size.toNat
    match Utf8.decode? front with
    | none => Guarded.refuse (.valueNotText position)
    | some value =>
      let back ← Guarded.stretch payload size.toNat payload.length
      match Utf8.decode? back with
      | none => Guarded.refuse (.nameNotText position)
      | some name => pure (name, .string value)

/-- Reads a record of any other type. -/
def readWordGuarded (defs : List ArgumentDef) (position : Nat) (record payload : Bytes) :
    Guarded ArgumentError (String × ArgumentValue) :=
  match Utf8.decode? payload with
  | none => Guarded.refuse (.nameNotText position)
  | some name =>
    match declared? defs name with
    | none => Guarded.refuse (.undeclared name)
    | some kind => do
      let word ← Guarded.doubleWord record 0
      let value ← Guarded.steady (ofWord kind word)
      pure (name, value)

/-- Reads a record, and compares its type with the declared one. -/
def readRecordGuarded (defs : List ArgumentDef) (position : Nat) (isString : Bool)
    (record : Bytes) : Guarded ArgumentError (String × ArgumentValue) := do
  let payload ← Guarded.stretch record 4 record.length
  let (name, value) ←
    if isString then readStringGuarded position record payload
    else readWordGuarded defs position record payload
  match declared? defs name with
  | none => Guarded.refuse (.undeclared name)
  | some kind =>
    if kind ≠ value.kind then Guarded.refuse (.wrongRecord name kind value.kind)
    else pure (name, value)

/-- Whether a record holds a string. Only the first eight are looked up in the mask. -/
def isStringGuarded (mask : UInt8) (position : Nat) : Guarded ArgumentError Bool :=
  if position ≤ 7 then Guarded.bit mask position else pure false

/-- Reads one record per length, the first of which begins at an offset. -/
def readRecordsGuarded (defs : List ArgumentDef) (bytes : Bytes) (mask : UInt8) :
    Nat → List UInt8 → Nat → Assignment → Guarded ArgumentError Assignment
  | _, [], _, values => pure values
  | position, size :: sizes, start, values =>
    let stop := start + (4 + size.toNat)
    match Guarded.stretch? bytes start stop with
    | none => Guarded.refuse (.recordTruncated position)
    | some record => do
      let isString ← isStringGuarded mask position
      let (name, value) ← readRecordGuarded defs position isString record
      if (values.get? name).isSome then Guarded.refuse (.repeated name)
      else
        let _ ← Guarded.further start stop
        readRecordsGuarded defs bytes mask (position + 1) sizes stop ((name, value) :: values)

/-- Reads the named values of a list with the given count. -/
def readCountedGuarded (defs : List ArgumentDef) (bytes : Bytes) (count : Nat) :
    Guarded ArgumentError Assignment :=
  if count = 0 then pure []
  else if bytes.length < count + 2 then Guarded.refuse .headerTruncated
  else do
    let sizes ← Guarded.stretch bytes 1 (1 + count)
    let mask ← Guarded.octet bytes (count + 1)
    readRecordsGuarded defs bytes mask 0 sizes (count + 2) []

/-- Reads an argument list by position. -/
def decodeGuarded (bytes : Bytes) (defs : List ArgumentDef) : Guarded ArgumentError Assignment :=
  match bytes[0]? with
  | none => Guarded.refuse .empty
  | some count => do
    let values ← readCountedGuarded defs bytes count.toNat
    if values.length ≠ defs.length then
      Guarded.refuse (.wrongCount defs.length values.length)
    else pure values

/-! ### One record -/

section

variable (position : Nat) (a b c d : UInt8) (payload : Bytes)

theorem stretch_payload :
    (Guarded.stretch (a :: b :: c :: d :: payload) 4 (a :: b :: c :: d :: payload).length :
      Guarded ArgumentError Bytes) = .ok payload :=
  Guarded.stretch_to_end (Nat.le_add_left 4 payload.length)

theorem readRecordGuarded_string :
    readRecordGuarded defs position true (a :: b :: c :: d :: payload)
      = Guarded.steady (readRecord defs position true a b c d payload) := by
  have size : (Guarded.word (a :: b :: c :: d :: payload) 0 : Guarded ArgumentError UInt16)
      = .ok (Bytes.toUInt16 a b) := rfl
  rw [readRecordGuarded, stretch_payload, Guarded.ok_bind, if_pos rfl, readStringGuarded, size,
    Guarded.ok_bind, readRecord, if_pos rfl]
  dsimp only
  by_cases long : payload.length < (Bytes.toUInt16 a b).toNat
  · rw [if_pos long, if_pos long]
    rfl
  -- the value ends within the payload, so it can be cut there
  have within := Nat.le_of_not_lt long
  rw [if_neg long, if_neg long, Guarded.stretch_from_start within, Guarded.ok_bind]
  cases Utf8.decode? (payload.take (Bytes.toUInt16 a b).toNat) with
  | none => rfl
  | some value =>
    dsimp only
    rw [Guarded.stretch_to_end within, Guarded.ok_bind]
    cases Utf8.decode? (payload.drop (Bytes.toUInt16 a b).toNat) with
    | none => rfl
    | some name =>
      dsimp only
      rw [Guarded.pure_eq_ok, Guarded.ok_bind]
      dsimp only
      cases declared? defs name with
      | none => rfl
      | some kind => cases kind <;> rfl

theorem readRecordGuarded_word :
    readRecordGuarded defs position false (a :: b :: c :: d :: payload)
      = Guarded.steady (readRecord defs position false a b c d payload) := by
  have word : (Guarded.doubleWord (a :: b :: c :: d :: payload) 0 :
      Guarded ArgumentError UInt32) = .ok (Bytes.toUInt32 a b c d) := rfl
  rw [readRecordGuarded, stretch_payload, Guarded.ok_bind, if_neg Bool.false_ne_true,
    readWordGuarded, readRecord, if_neg Bool.false_ne_true]
  cases Utf8.decode? payload with
  | none => rfl
  | some name =>
    dsimp only
    cases declared : declared? defs name with
    | none => rfl
    | some kind =>
      dsimp only
      rw [word, Guarded.ok_bind]
      cases spelled : ofWord kind (Bytes.toUInt32 a b c d) with
      | error e => rfl
      | ok value =>
        -- the value has the declared type because it was read in it
        have same : ¬ kind ≠ value.kind := not_not_intro (kind_of_ofWord spelled).symm
        rw [Guarded.steady_ok, Guarded.ok_bind, Guarded.pure_eq_ok, Guarded.ok_bind]
        dsimp only
        rw [declared]
        exact if_neg same

/-- **A record by position.** It has four octets and its payload behind them. -/
theorem readRecordGuarded_eq (isString : Bool) :
    readRecordGuarded defs position isString (a :: b :: c :: d :: payload)
      = Guarded.steady (readRecord defs position isString a b c d payload) := by
  cases isString with
  | true => exact readRecordGuarded_string position a b c d payload
  | false => exact readRecordGuarded_word position a b c d payload

end

/-! ### All records -/

/-- The bit that is looked up is the lowest one of the mask without those before it. Past its eight
bits nothing is left of the mask. -/
theorem isStringGuarded_eq (mask : UInt8) (position : Nat) :
    isStringGuarded mask position = .ok (mask.toNat / 2 ^ position % 2 == 1) := by
  have lowest : (mask.toNat / 2 ^ position % 2 == 1) = mask.toNat.testBit position := by
    rw [Nat.testBit_eq_decide_div_mod_eq]
    rfl
  have early : mask.toNat.testBit position = true → position ≤ 7 := fun set =>
    ((eq_testBit_iff.1 rfl).1 set).1
  rw [lowest, isStringGuarded]
  by_cases first : position ≤ 7
  · rw [if_pos first, Guarded.bit_of_lt (by omega)]
  · rw [if_neg first, Bool.eq_false_iff.2 (mt early first)]
    rfl

/-- The octets of a record that ends within the list: four, and as many as its length says. -/
theorem exists_taken {bytes : Bytes} {start : Nat} {size : UInt8}
    (within : start + (4 + size.toNat) ≤ bytes.length) :
    ∃ a b c d payload, (bytes.drop start).take (4 + size.toNat) = a :: b :: c :: d :: payload ∧
      payload.length = size.toNat := by
  have length : ((bytes.drop start).take (4 + size.toNat)).length = 4 + size.toNat := by
    rw [List.length_take, List.length_drop]
    omega
  match taken : (bytes.drop start).take (4 + size.toNat) with
  | a :: b :: c :: d :: payload =>
    rw [taken] at length
    simp only [List.length_cons] at length
    exact ⟨a, b, c, d, payload, rfl, by omega⟩
  | [] | [_] | [_, _] | [_, _, _] =>
    rw [taken] at length
    simp only [List.length_cons, List.length_nil] at length
    omega

/-- **Records by position.** Where a record ends behind the octets, neither reader goes on. -/
theorem readRecordsGuarded_eq (bytes : Bytes) (mask : UInt8) (position : Nat) (sizes : List UInt8)
    (start : Nat) (values : Assignment) :
    readRecordsGuarded defs bytes mask position sizes start values
      = Guarded.steady
          (readRecords defs position (mask.toNat / 2 ^ position) sizes (bytes.drop start) values) := by
  induction sizes generalizing position start values with
  | nil => rfl
  | cons size sizes ih =>
    rw [readRecordsGuarded]
    dsimp only
    by_cases beyond : bytes.length < start + (4 + size.toNat)
    · have short : (bytes.drop start).length < 4 + size.toNat := by
        rw [List.length_drop]
        omega
      rw [Guarded.stretch?_of_lt beyond, readRecords_of_short short]
      rfl
    · have within := Nat.le_of_not_lt beyond
      obtain ⟨a, b, c, d, payload, taken, length⟩ := exists_taken within
      have shifted : mask.toNat / 2 ^ position / 2 = mask.toNat / 2 ^ (position + 1) := by
        rw [Nat.div_div_eq_div_mul, Nat.pow_succ]
      have further : start < start + (4 + size.toNat) := by omega
      rw [Guarded.stretch?_of_le _ within, readRecords, taken]
      dsimp only
      rw [isStringGuarded_eq, Guarded.ok_bind, readRecordGuarded_eq,
        if_neg (Nat.not_lt.2 (Nat.le_of_eq length.symm)), shifted, List.drop_drop]
      cases readRecord defs position (mask.toNat / 2 ^ position % 2 == 1) a b c d payload with
      | error fault => rfl
      | ok entry =>
        obtain ⟨name, value⟩ := entry
        rw [Guarded.steady_ok, Guarded.ok_bind]
        change _ = Guarded.steady (if (values.get? name).isSome then _ else _)
        dsimp only
        split
        · rfl
        · rw [Guarded.further_of_lt further, Guarded.ok_bind]
          exact ih _ _ _

/-! ### Whole lists -/

/-- The count is known to leave room for the lengths and the mask before they are taken. -/
theorem readCountedGuarded_eq (count : UInt8) (rest : Bytes) :
    readCountedGuarded defs (count :: rest) count.toNat
      = Guarded.steady (readCounted defs count.toNat rest) := by
  rw [readCountedGuarded]
  by_cases none : count.toNat = 0
  · rw [if_pos none, readCounted, if_pos none]
    rfl
  rw [if_neg none, List.length_cons]
  by_cases short : rest.length ≤ count.toNat
  · rw [if_pos (by omega), readCounted_of_short none short]
    rfl
  · have within : 1 + count.toNat ≤ (count :: rest).length := by
      rw [List.length_cons]
      omega
    have left : rest.drop count.toNat = rest[count.toNat] :: rest.drop (count.toNat + 1) :=
      List.drop_eq_getElem_cons (by omega)
    have mask : (count :: rest)[count.toNat + 1]? = some rest[count.toNat] := by
      rw [List.getElem?_cons_succ, List.getElem?_eq_getElem]
    rw [if_neg (by omega), Guarded.stretch_of_le _ within, Guarded.ok_bind,
      Guarded.octet_eq_ok mask, Guarded.ok_bind, readRecordsGuarded_eq, readCounted, if_neg none,
      left, Nat.pow_zero, Nat.div_one]
    rfl

/-- **An argument list by position.** The reader keeps its footing, and reads what a reader without
positions reads. -/
theorem decodeGuarded_eq (bytes : Bytes) (defs : List ArgumentDef) :
    decodeGuarded bytes defs = Guarded.steady (decode bytes defs) := by
  cases bytes with
  | nil => rfl
  | cons count rest =>
    change (readCountedGuarded defs (count :: rest) count.toNat >>= _) = Guarded.steady (_ >>= _)
    rw [readCountedGuarded_eq, Guarded.steady_bind]
    congr 1
    funext values
    split <;> rfl

end ArgumentList

end RelayDevice
