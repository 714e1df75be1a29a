import Mathlib.Data.List.Perm.Subperm
import RelayDevice.Proofs.Argument.Assignments

/-!
# The grammar of argument lists

What an argument list is, said without the reader. A list is a row of records (`WrittenArgument`),
behind a count, the length of each payload and a mask, and whatever follows the last record belongs
to nobody. What a record tells is fixed by its octets (`Record.Tells`), except for the type of a
value, which is that of the reader's declaration (`ArgumentList.Holds`).

The reader takes the records one by one, and at each of them keeps half of its mask and one more
name that must not come back. `ArgumentList.Readable` is what it asks of the records that are still
to come, and `readable_cons` how this is passed on. So both halves of the main statement,
`ArgumentList.decode_accepts_lists`, come down to one record: `readRecord_eq_ok_iff` for what is read
of it, `readRecords_written` and `exists_written_of_readRecords` for how it is cut off.

The reader knows only the last declaration of a name, while a list may be written for any of them.
This makes no difference, because there are as many records as declarations: distinct names that are
all declared take up all declarations, and then no name is declared twice
(`perm_of_declared`).
-/

namespace RelayDevice

namespace ArgumentList

/-! ### What a record tells -/

/-- **What a record tells.** A string record begins with the length of its value and ignores two more
octets; its payload is the value and then the name. Any other record spells its value in four octets
and has the name for payload. -/
inductive Record.Tells : Record → String → ArgumentValue → Prop
  | string {a b : UInt8} (c e : UInt8) (text name : String)
      (size : a.toNat * 256 + b.toNat = (Utf8.encode text).length) :
      Tells ⟨true, [a, b, c, e], Utf8.encode text ++ Utf8.encode name⟩ name (.string text)
  | integer (v : Int32) (name : String) :
      Tells ⟨false, Bytes.ofUInt32 v.toUInt32, Utf8.encode name⟩ name (.integer v)
  | float (v : Binary32) (name : String) :
      Tells ⟨false, Bytes.ofUInt32 v.bits, Utf8.encode name⟩ name (.float v)
  /-- Only the number one is true. -/
  | boolean (w : UInt32) (name : String) :
      Tells ⟨false, Bytes.ofUInt32 w, Utf8.encode name⟩ name (.boolean (decide (w = 1)))
  /-- Seconds since the epoch, with a sign. -/
  | timestamp (seconds : Int32) (name : String) :
      Tells ⟨false, Bytes.ofUInt32 seconds.toUInt32, Utf8.encode name⟩ name
        (.timestamp ⟨seconds.toInt, 0⟩)

theorem Record.Tells.exists_word {r : Record} {name : String} {value : ArgumentValue}
    (told : r.Tells name value) : ∃ a b c e, r.word = [a, b, c, e] := by
  cases told with
  | string => exact ⟨_, _, _, _, rfl⟩
  | _ => exact ⟨_, _, _, _, rfl⟩

section Octets

variable {a b c e : UInt8} {payload : Bytes} {name : String} {value : ArgumentValue}

theorem tells_string_iff :
    Record.Tells ⟨true, [a, b, c, e], payload⟩ name value ↔
      ∃ text, value = .string text ∧ a.toNat * 256 + b.toNat = (Utf8.encode text).length ∧
        payload = Utf8.encode text ++ Utf8.encode name := by
  constructor
  · intro told
    cases told with
    | string _ _ text _ size => exact ⟨text, rfl, size, rfl⟩
  · rintro ⟨text, rfl, size, rfl⟩
    exact .string c e text name size

/-- Four octets tell a value of each type but that of strings, and it is the one that is read. -/
theorem tells_word_iff :
    Record.Tells ⟨false, [a, b, c, e], payload⟩ name value ↔
      payload = Utf8.encode name ∧ ofWord value.kind (Bytes.toUInt32 a b c e) = .ok value := by
  constructor
  · intro told
    generalize octets : [a, b, c, e] = word at told
    -- the octets of a word are read as that word
    have spelled : ∀ w, word = Bytes.ofUInt32 w → Bytes.toUInt32 a b c e = w := by
      rintro w rfl
      cases octets
      exact Bytes.toUInt32_ofUInt32 w
    cases told with
    | integer v =>
      rw [spelled _ rfl, ArgumentValue.kind, ofWord, Int32.toInt32_toUInt32]
      exact ⟨rfl, rfl⟩
    | float v =>
      rw [spelled _ rfl]
      exact ⟨rfl, rfl⟩
    | boolean w =>
      rw [spelled _ rfl]
      exact ⟨rfl, rfl⟩
    | timestamp seconds =>
      rw [spelled _ rfl, ArgumentValue.kind, ofWord, Int32.toInt32_toUInt32]
      exact ⟨rfl, rfl⟩
  · rintro ⟨rfl, read⟩
    rw [← Bytes.ofUInt32_toUInt32 a b c e]
    generalize Bytes.toUInt32 a b c e = w at read
    cases value with
    | integer v =>
      cases read
      have told := Record.Tells.integer w.toInt32 name
      rwa [UInt32.toUInt32_toInt32] at told
    | float v =>
      cases read
      exact .float ⟨w⟩ name
    | boolean v =>
      cases read
      exact .boolean w name
    | timestamp t =>
      cases read
      have told := Record.Tells.timestamp w.toInt32 name
      rwa [UInt32.toUInt32_toInt32] at told
    | string text => cases read

variable {defs : List ArgumentDef} {position : Nat}

theorem readRecord_true_eq_ok_iff :
    readRecord defs position true a b c e payload = .ok (name, value) ↔
      Record.Tells ⟨true, [a, b, c, e], payload⟩ name value ∧
        declared? defs name = some value.kind := by
  rw [tells_string_iff]
  constructor
  · intro read
    rw [readRecord, if_pos rfl] at read
    dsimp only at read
    split at read
    · cases read
    · next whole =>
      split at read
      · cases read
      · cases read
      · next text _ before behind =>
        rw [Utf8.decode?_eq_some_iff] at before behind
        split at read
        · cases read
        · next declared =>
          cases read
          -- the payload is what was cut at the end of the value
          have size : a.toNat * 256 + b.toNat = (Utf8.encode text).length := by
            rw [← before, List.length_take, ← Bytes.toNat_toUInt16]
            omega
          have parts : payload = Utf8.encode text ++ Utf8.encode name := by
            rw [← before, ← behind, List.take_append_drop]
          exact ⟨⟨text, rfl, size, parts⟩, declared⟩
        · cases read
  · rintro ⟨⟨text, rfl, size, rfl⟩, declared⟩
    have whole : ¬ (Utf8.encode text ++ Utf8.encode name).length < (Utf8.encode text).length := by
      rw [List.length_append]
      omega
    rw [readRecord, if_pos rfl]
    dsimp only
    rw [Bytes.toNat_toUInt16, size, if_neg whole, List.take_left, List.drop_left,
      Utf8.decode?_encode, Utf8.decode?_encode]
    simp only [declared, ArgumentValue.kind]

theorem kind_of_ofWord {kind : ArgumentType} {w : UInt32} (read : ofWord kind w = .ok value) :
    value.kind = kind := by
  cases kind <;> cases read <;> rfl

theorem readRecord_false_eq_ok_iff :
    readRecord defs position false a b c e payload = .ok (name, value) ↔
      Record.Tells ⟨false, [a, b, c, e], payload⟩ name value ∧
        declared? defs name = some value.kind := by
  rw [tells_word_iff]
  constructor
  · intro read
    rw [readRecord, if_neg Bool.false_ne_true] at read
    split at read
    · cases read
    · next text =>
      split at read
      · cases read
      · next kind declared =>
        obtain ⟨_, spelled, same⟩ := Outcome.map_eq_ok_iff.1 read
        cases same
        -- the type of the declaration is that of the value
        obtain rfl := kind_of_ofWord spelled
        exact ⟨⟨Utf8.decode?_eq_some_iff.1 text, spelled⟩, declared⟩
  · rintro ⟨⟨rfl, spelled⟩, declared⟩
    rw [readRecord_word declared, spelled]
    rfl

/-- **One record, read.** What the reader makes of a record is what the record tells, provided that
the name is declared with the type of the value. -/
theorem readRecord_eq_ok_iff {r : Record} (word : r.word = [a, b, c, e]) :
    readRecord defs position r.isString a b c e r.payload = .ok (name, value) ↔
      r.Tells name value ∧ declared? defs name = some value.kind := by
  obtain ⟨isString, _, payload⟩ := r
  obtain rfl : _ = [a, b, c, e] := word
  cases isString with
  | true => exact readRecord_true_eq_ok_iff
  | false => exact readRecord_false_eq_ok_iff

end Octets

/-! ### Records in a row -/

/-- An argument as it stands in a list: a record, and the name and the value that it tells. -/
structure WrittenArgument extends Record where
  /-- The name in the record. -/
  name : String
  /-- The value in the record. -/
  value : ArgumentValue
  /-- The record tells them. -/
  told : toRecord.Tells name value
  /-- The length of the payload fits its octet. -/
  length_lt : payload.length < 256

namespace WrittenArgument

/-- The value under its name. -/
def entry (a : WrittenArgument) : String × ArgumentValue := (a.name, a.value)

/-- The declaration that the argument is written for. -/
def toDef (a : WrittenArgument) : ArgumentDef := ⟨a.name, a.value.kind⟩

/-- The octet in front of the records that holds the length of the payload. -/
def size (a : WrittenArgument) : UInt8 := .ofNat a.payload.length

end WrittenArgument

/-- **What the reader asks of records** that are still to come, with what is left of its mask and the
values it has already. -/
structure Readable (defs : List ArgumentDef) (mask : Nat) (before : Assignment)
    (as : List WrittenArgument) : Prop where
  /-- Each record has its bit. -/
  flags : ∀ j a, as[j]? = some a → a.isString = mask.testBit j
  /-- Each name is declared, with the type of its value. -/
  declared : ∀ a ∈ as, declared? defs a.name = some a.value.kind
  /-- No name comes twice. -/
  distinct : (as.map (·.name)).Nodup
  /-- No name was read before. -/
  fresh : ∀ a ∈ as, before.get? a.name = none

section Rows

variable {defs : List ArgumentDef} {mask : Nat} {before : Assignment} {a : WrittenArgument}
  {as : List WrittenArgument}

theorem readable_nil : Readable defs mask before [] where
  flags := nofun
  declared := nofun
  distinct := List.nodup_nil
  fresh := nofun

/-- **What is passed on** from one record to those behind it: half of the mask, and one more name. -/
theorem readable_cons :
    Readable defs mask before (a :: as) ↔
      ((mask % 2 == 1) = a.isString ∧ declared? defs a.name = some a.value.kind ∧
        before.get? a.name = none) ∧ Readable defs (mask / 2) (a.entry :: before) as := by
  constructor
  · rintro ⟨flags, declared, distinct, fresh⟩
    rw [List.map_cons, List.nodup_cons] at distinct
    rw [List.forall_mem_cons] at declared fresh
    refine ⟨⟨?_, declared.1, fresh.1⟩, ?_, declared.2, distinct.2, ?_⟩
    · rw [flags 0 a rfl, Nat.testBit_zero]
      rfl
    · intro j a' h
      rw [flags (j + 1) a' h, Nat.testBit_succ]
    · intro a' h
      have other : a'.name ≠ a.name := fun same => distinct.1 (same ▸ List.mem_map_of_mem h)
      exact (Assignment.get?_cons_of_ne other).trans (fresh.2 a' h)
  · rintro ⟨⟨flag, declared, fresh⟩, later⟩
    refine ⟨?_, List.forall_mem_cons.2 ⟨declared, later.declared⟩, ?_, ?_⟩
    · rintro (_ | j) a' h
      · obtain rfl := Option.some.inj h
        rw [Nat.testBit_zero, ← flag]
        rfl
      · rw [later.flags j a' h, Nat.testBit_succ]
    · rw [List.map_cons, List.nodup_cons]
      refine ⟨fun h => ?_, later.distinct⟩
      -- a name that came back would have been read with `a`
      obtain ⟨a', h', same⟩ := List.mem_map.1 h
      have read := later.fresh a' h'
      rw [same] at read
      rw [WrittenArgument.entry, Assignment.get?_cons_self] at read
      cases read
    · refine List.forall_mem_cons.2 ⟨fresh, fun a' h' => ?_⟩
      have absent := later.fresh a' h'
      by_cases same : a'.name = a.name
      · rw [same]
        exact fresh
      · rwa [WrittenArgument.entry, Assignment.get?_cons_of_ne same] at absent

/-- **The first of the records**, when some were read: how it is cut off, and what was checked. -/
theorem exists_written_of_readRecords {position : Nat} {size : UInt8} {sizes : List UInt8}
    {rest : Bytes} {got : Assignment}
    (read : readRecords defs position mask (size :: sizes) rest before = .ok got) :
    ∃ (a : WrittenArgument) (later : Bytes), size = a.size ∧ rest = a.toBytes ++ later ∧
      ((mask % 2 == 1) = a.isString ∧ declared? defs a.name = some a.value.kind ∧
        before.get? a.name = none) ∧
      readRecords defs (position + 1) (mask / 2) sizes later (a.entry :: before) = .ok got := by
  rw [readRecords] at read
  split at read
  · next a b c e payload cut =>
    split at read
    · cases read
    · next whole =>
      obtain ⟨⟨name, value⟩, one, read⟩ := Outcome.bind_eq_ok_iff.1 read
      dsimp only at read
      split at read
      · cases read
      · next fresh =>
        obtain ⟨told, declared⟩ := (readRecord_eq_ok_iff (r := ⟨mask % 2 == 1, _, _⟩) rfl).1 one
        -- no more octets were taken than the length says, and no fewer
        have length : payload.length = size.toNat := by
          have := List.length_take_le (4 + size.toNat) rest
          rw [cut] at this
          simp only [List.length_cons] at this
          omega
        have split := List.take_append_drop (4 + size.toNat) rest
        rw [cut] at split
        refine ⟨⟨_, name, value, told, length ▸ size.toNat_lt⟩, _, ?_, split.symm, ⟨rfl, declared, ?_⟩,
          read⟩
        · rw [WrittenArgument.size, length, UInt8.ofNat_toNat]
        · simpa using fresh
  · cases read

/-- **A row of records is read** as what they tell, if they are what the reader asks for. The value
that was read last stands in front. -/
theorem readRecords_written (readable : Readable defs mask before as) (position : Nat)
    (ignored : Bytes) :
    readRecords defs position mask (as.map WrittenArgument.size)
        (as.flatMap (·.toBytes) ++ ignored) before
      = .ok ((as.map WrittenArgument.entry).reverse ++ before) := by
  induction as generalizing mask before position with
  | nil => rfl
  | cons a as ih =>
    obtain ⟨⟨flag, declared, fresh⟩, later⟩ := readable_cons.1 readable
    obtain ⟨b, c, d, e, word⟩ := a.told.exists_word
    have one : readRecord defs position a.isString b c d e a.payload = .ok a.entry :=
      (readRecord_eq_ok_iff word).2 ⟨a.told, declared⟩
    rw [List.map_cons, List.flatMap_cons, List.append_assoc, WrittenArgument.size,
      readRecords_record word (Nat.le_of_lt_succ a.length_lt) flag, one]
    change (if (before.get? a.name).isSome then _ else _) = _
    rw [fresh, Option.isSome_none, if_neg Bool.false_ne_true]
    refine (ih later (position + 1)).trans ?_
    rw [List.map_cons, List.reverse_cons, List.append_assoc]
    rfl

/-- What was read was such a row. -/
theorem exists_row_of_readRecords {position : Nat} {sizes : List UInt8} {rest : Bytes}
    {got : Assignment} (read : readRecords defs position mask sizes rest before = .ok got) :
    ∃ (as : List WrittenArgument) (ignored : Bytes), sizes = as.map WrittenArgument.size ∧
      rest = as.flatMap (·.toBytes) ++ ignored ∧ Readable defs mask before as ∧
      got = (as.map WrittenArgument.entry).reverse ++ before := by
  induction sizes generalizing position mask rest before with
  | nil =>
    cases read
    exact ⟨[], rest, rfl, rfl, readable_nil, rfl⟩
  | cons size sizes ih =>
    obtain ⟨a, _, rfl, rfl, first, read⟩ := exists_written_of_readRecords read
    obtain ⟨as, ignored, rfl, rfl, later, rfl⟩ := ih read
    refine ⟨a :: as, ignored, rfl, ?_, readable_cons.2 ⟨first, later⟩, ?_⟩
    · rw [List.flatMap_cons, List.append_assoc]
    · rw [List.map_cons, List.reverse_cons, List.append_assoc]
      rfl

end Rows

/-! ### Names and declarations -/

theorem mem_of_declared? {defs : List ArgumentDef} {name : String} {kind : ArgumentType}
    (declared : declared? defs name = some kind) : ⟨name, kind⟩ ∈ defs := by
  obtain ⟨d, found, rfl⟩ := Option.map_eq_some_iff.1 declared
  have named : d.name = name := by simpa using List.find?_some found
  rw [← named]
  exact List.mem_reverse.1 (List.mem_of_find?_eq_some found)

/-- **Distinct names take up all declarations**, if they are all declared and as many. So no name is
declared twice either. -/
theorem perm_of_declared {as : List WrittenArgument} {defs : List ArgumentDef}
    (count : as.length = defs.length) (declared : ∀ a ∈ as, a.toDef ∈ defs)
    (distinct : (as.map (·.name)).Nodup) :
    (as.map WrittenArgument.toDef).Perm defs ∧ (defs.map (·.name)).Nodup := by
  have names : (as.map WrittenArgument.toDef).map (·.name) = as.map (·.name) := by
    rw [List.map_map]
    rfl
  have apart : (as.map WrittenArgument.toDef).Nodup := List.Nodup.of_map _ (names ▸ distinct)
  have within : as.map WrittenArgument.toDef ⊆ defs := by
    intro d h
    obtain ⟨a, ha, rfl⟩ := List.mem_map.1 h
    exact declared a ha
  have all : (as.map WrittenArgument.toDef).Perm defs :=
    (apart.subperm within).perm_of_length_le (by rw [List.length_map, count])
  exact ⟨all, (all.map (·.name)).nodup_iff.1 (names ▸ distinct)⟩

/-! ### Whole lists -/

/-- **The grammar of argument lists**, for the declarations of a reader and with the arguments that a
list holds, in the order of their records. -/
inductive Holds (defs : List ArgumentDef) : Bytes → Assignment → Prop
  /-- A count of zero is a list for a reader who expects nothing. -/
  | nothing (ignored : Bytes) (expected : defs = []) : Holds defs (0 :: ignored) []
  /-- Count, lengths, mask, records, and then anything. There are as many records as declarations.
  Of the first eight records those are strings that have their bit in the mask, and of the others
  none. Each name is declared, with the type of its value, and none comes twice. -/
  | arguments {as : List WrittenArgument} {mask : UInt8} (ignored : Bytes) (positive : 0 < as.length)
      (length_lt : as.length < 256) (count : as.length = defs.length)
      (flags : ∀ j a, as[j]? = some a →
        (a.isString = true ↔ j ≤ 7 ∧ mask.toNat.testBit j = true))
      (declared : ∀ a ∈ as, a.toDef ∈ defs) (distinct : (as.map (·.name)).Nodup) :
      Holds defs
        (.ofNat as.length :: (as.map WrittenArgument.size
          ++ mask :: (as.flatMap (·.toBytes) ++ ignored)))
        (as.map WrittenArgument.entry)

/-- Past its eight bits a mask has no others. -/
theorem eq_testBit_iff {mask : UInt8} {j : Nat} {flag : Bool} :
    flag = mask.toNat.testBit j ↔ (flag = true ↔ j ≤ 7 ∧ mask.toNat.testBit j = true) := by
  have early : mask.toNat.testBit j = true → j ≤ 7 := by
    intro set
    by_contra late
    have small : mask.toNat < 2 ^ j :=
      calc mask.toNat < 2 ^ 8 := mask.toNat_lt
        _ ≤ 2 ^ j := Nat.pow_le_pow_right (by decide) (by omega)
    rw [Nat.testBit_lt_two_pow small] at set
    cases set
  rw [and_iff_right_of_imp early, Bool.eq_iff_iff]

theorem decode_cons_eq_ok_iff {count : UInt8} {rest : Bytes} {defs : List ArgumentDef}
    {got : Assignment} :
    decode (count :: rest) defs = .ok got ↔
      readCounted defs count.toNat rest = .ok got ∧ got.length = defs.length := by
  rw [decode, Outcome.bind_eq_ok_iff]
  constructor
  · rintro ⟨values, read, h⟩
    split at h
    · cases h
    · next same =>
      cases h
      exact ⟨read, not_not.1 same⟩
  · rintro ⟨read, same⟩
    exact ⟨got, read, if_neg (not_not.2 same)⟩

theorem holds_of_decode {bytes : Bytes} {defs : List ArgumentDef} {got : Assignment}
    (read : decode bytes defs = .ok got) : Holds defs bytes got.reverse := by
  cases bytes with
  | nil => cases read
  | cons count rest =>
    obtain ⟨read, total⟩ := decode_cons_eq_ok_iff.1 read
    rw [readCounted] at read
    split at read
    · next zero =>
      cases read
      obtain rfl : count = 0 := UInt8.toNat_inj.1 zero
      exact .nothing rest (List.eq_nil_of_length_eq_zero total.symm)
    · next positive =>
      split at read
      · cases read
      · next mask records behind =>
        obtain ⟨as, ignored, sizes, rfl, readable, rfl⟩ := exists_row_of_readRecords read
        rw [List.append_nil, List.length_reverse, List.length_map] at total
        -- the mask is there, so no length is missing in front of it
        have length : as.length = count.toNat := by
          have taken := congrArg List.length sizes
          have dropped := congrArg List.length behind
          rw [List.length_take, List.length_map] at taken
          rw [List.length_drop, List.length_cons] at dropped
          omega
        have parts : count :: rest = .ofNat as.length :: (as.map WrittenArgument.size
            ++ mask :: (as.flatMap (·.toBytes) ++ ignored)) := by
          rw [length, UInt8.ofNat_toNat, ← sizes, ← behind, List.take_append_drop]
        rw [parts, List.append_nil, List.reverse_reverse]
        exact .arguments ignored (by omega) (length ▸ count.toNat_lt) total
          (fun j a h => eq_testBit_iff.1 (readable.flags j a h))
          (fun a h => mem_of_declared? (readable.declared a h)) readable.distinct

theorem decode_of_holds {bytes : Bytes} {defs : List ArgumentDef} {entries : Assignment}
    (holds : Holds defs bytes entries) : decode bytes defs = .ok entries.reverse := by
  cases holds with
  | nothing ignored expected =>
    subst expected
    rfl
  | arguments ignored positive length_lt count flags declared distinct =>
    next as mask =>
    have length : (UInt8.ofNat as.length).toNat = as.length := by
      rw [UInt8.toNat_ofNat']
      omega
    -- all declarations are taken up, so each of them is the one that the reader finds
    have found : ∀ a ∈ as, declared? defs a.name = some a.value.kind := fun a h =>
      declared?_of_mem (perm_of_declared count declared distinct).2 (declared a h)
    have readable : Readable defs mask.toNat [] as :=
      ⟨fun j a h => eq_testBit_iff.2 (flags j a h), found, distinct, fun _ _ => rfl⟩
    have sizes : (as.map WrittenArgument.size).length = as.length := List.length_map _
    refine decode_cons_eq_ok_iff.2 ⟨?_, ?_⟩
    · rw [length, readCounted_append (Nat.ne_of_gt positive) sizes, readRecords_written readable,
        List.append_nil]
    · rw [List.length_reverse, List.length_map, count]

/-- No name comes twice in a list. -/
theorem Holds.nodup {defs : List ArgumentDef} {bytes : Bytes} {entries : Assignment}
    (holds : Holds defs bytes entries) : (entries.map Prod.fst).Nodup := by
  cases holds with
  | nothing => exact List.nodup_nil
  | arguments _ _ _ _ _ _ distinct =>
    rw [List.map_map]
    exact distinct

/-- **The reader accepts exactly its grammar**, and reads what the list holds: in the order of the
records, the one that was read last in front, and by name. -/
theorem decode_accepts_lists (bytes : Bytes) (defs : List ArgumentDef) :
    ((∃ got, decode bytes defs = .ok got) ↔ ∃ entries, Holds defs bytes entries) ∧
      ∀ got, (decode bytes defs = .ok got ↔ Holds defs bytes got.reverse) ∧
        (decode bytes defs = .ok got →
          ∀ name value, got.get? name = some value ↔ (name, value) ∈ got) := by
  refine ⟨⟨?_, ?_⟩, fun got => ⟨⟨holds_of_decode, fun holds => ?_⟩, fun read name value => ?_⟩⟩
  · rintro ⟨got, read⟩
    exact ⟨_, holds_of_decode read⟩
  · rintro ⟨entries, holds⟩
    exact ⟨_, decode_of_holds holds⟩
  · have read := decode_of_holds holds
    rwa [List.reverse_reverse] at read
  · have distinct := (holds_of_decode read).nodup
    rw [List.map_reverse, List.nodup_reverse] at distinct
    refine ⟨fun found => ?_, Assignment.get?_of_mem distinct⟩
    obtain ⟨before, after, parts, -⟩ := List.lookup_eq_some_iff.1 found
    rw [parts]
    exact List.mem_append_right before List.mem_cons_self

/-- A string whose record has other octets where it could tell the length of its name, and an octet
behind the last record. -/
example : decode [1, 5, 1, 0, 1, 0xFF, 0xFF, 65, 110, 97, 109, 101, 7] [⟨"name", .string⟩]
    = .ok [("name", .string "A")] := by decide +kernel

end ArgumentList

end RelayDevice
