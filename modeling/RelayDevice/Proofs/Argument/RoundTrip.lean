import Mathlib.Control.Monad.Basic
import RelayDevice.Proofs.Argument.Records
import RelayDevice.Proofs.Lookup

/-!
# Argument lists read back

Values are laid out in the order of the sender's declarations and read by name, in the types that
the receiver declares. Where both sides declare the same names with the same types, each name once,
the order of neither matters: `ArgumentList.decode_of_encode` says that the receiver gets every
value as it arrives (`ArgumentValue.received`), by name and in the order of its own declarations.

`decode_eq_delivered` is the part that concerns octets. It gives the values in the order in which
they were read, and leaves only look-ups in lists without repeated names (`get?_of_mem`).
-/

namespace RelayDevice

/-! ### Looking up without repetitions -/

namespace Assignment

/-- Where no name comes twice, every entry counts. -/
theorem get?_of_mem {values : Assignment} (distinct : (values.map Prod.fst).Nodup) {name : String}
    {value : ArgumentValue} (h : (name, value) ∈ values) : values.get? name = some value := by
  induction values with
  | nil => cases h
  | cons entry values ih =>
    obtain ⟨other, first⟩ := entry
    rw [List.map_cons, List.nodup_cons] at distinct
    rcases List.mem_cons.1 h with same | later
    · cases same
      exact get?_cons_self values name value
    · have ne : name ≠ other := fun same =>
        distinct.1 (same ▸ List.mem_map.2 ⟨_, later, rfl⟩)
      rw [get?_cons_of_ne ne]
      exact ih distinct.2 later

end Assignment

namespace ArgumentList

/-- Where no name is declared twice, every declaration counts. -/
theorem declared?_of_mem {defs : List ArgumentDef} (distinct : (defs.map (·.name)).Nodup)
    {d : ArgumentDef} (h : d ∈ defs) : declared? defs d.name = some d.kind := by
  -- of a repeated name the last type counts, so the search goes from the end
  have reversed : (defs.reverse.map (·.name)).Nodup := by
    rw [List.map_reverse]
    exact List.nodup_reverse.2 distinct
  rw [declared?, find?_of_nodup reversed (List.mem_reverse.2 h)]
  rfl

/-! ### The layout of a list -/

/-- **The octets of a list**, part by part. -/
theorem encode_eq_ok {defs : List ArgumentDef} {values : Assignment} {bytes : Bytes}
    (h : encode defs values = .ok bytes) :
    defs.length ≤ 255 ∧ ∃ records, recordsFrom values 0 defs = .ok records ∧
      bytes = .ofNat defs.length :: (records.map (fun r => .ofNat r.payload.length)
        ++ .ofNat (maskOf records) :: records.flatMap Record.toBytes) := by
  rw [encode] at h
  split at h
  · cases h
  · next few =>
    obtain ⟨records, written, h⟩ := Outcome.bind_eq_ok_iff.1 h
    cases h
    exact ⟨Nat.le_of_not_lt few, records, written, rfl⟩

/-- Every declared name has a value when a list is laid out. -/
theorem map_fst_delivered {values : Assignment} {position : Nat} {defs : List ArgumentDef}
    {records : List Record} (h : recordsFrom values position defs = .ok records) :
    (delivered values defs).map Prod.fst = defs.map (·.name) := by
  induction defs generalizing position records with
  | nil => rfl
  | cons d defs ih =>
    obtain ⟨_, _, _, found, -, later, -⟩ := recordsFrom_cons_eq_ok h
    rw [delivered_cons found, List.map_cons, List.map_cons, ih later]

/-- **Reading what was laid out**, part by part. -/
theorem readCounted_records {sent : List ArgumentDef} {values : Assignment} {records : List Record}
    (few : sent.length ≤ 255) (written : recordsFrom values 0 sent = .ok records)
    {defs : List ArgumentDef} (declared : ∀ d ∈ sent, declared? defs d.name = some d.kind)
    (distinct : (sent.map (·.name)).Nodup) :
    readCounted defs sent.length (records.map (fun r => .ofNat r.payload.length)
        ++ .ofNat (maskOf records) :: records.flatMap Record.toBytes)
      = .ok (delivered values sent).reverse := by
  have read := readRecords_recordsFrom written declared distinct [] fun d _ =>
    Assignment.get?_nil d.name
  have count : (records.map fun r => UInt8.ofNat r.payload.length).length = sent.length := by
    rw [List.length_map, length_recordsFrom written]
  have mask : (UInt8.ofNat (maskOf records)).toNat = maskOf records :=
    UInt8.toNat_ofNat_of_lt' (maskOf_lt written)
  rw [List.append_nil] at read
  by_cases none : sent.length = 0
  · -- without arguments nothing is read, and nothing was laid out
    cases List.eq_nil_of_length_eq_zero none
    rfl
  · rw [readCounted_append none count, mask, read]

/-- **What is read from a laid-out list**, the value that was read last in front. -/
theorem decode_eq_delivered {sent defs : List ArgumentDef} {values : Assignment} {bytes : Bytes}
    (same : sent.Perm defs) (distinct : (defs.map (·.name)).Nodup)
    (h : encode sent values = .ok bytes) :
    decode bytes defs = .ok (delivered values sent).reverse ∧
      (delivered values sent).map Prod.fst = sent.map (·.name) := by
  obtain ⟨few, records, written, rfl⟩ := encode_eq_ok h
  have names := map_fst_delivered written
  have declared : ∀ d ∈ sent, declared? defs d.name = some d.kind := fun d hd =>
    declared?_of_mem distinct (same.mem_iff.1 hd)
  have count : (UInt8.ofNat sent.length).toNat = sent.length := by
    rw [UInt8.toNat_ofNat']
    omega
  have complete : (delivered values sent).reverse.length = defs.length :=
    calc (delivered values sent).reverse.length
        = ((delivered values sent).map Prod.fst).length := by
          rw [List.length_reverse, List.length_map]
      _ = sent.length := by rw [names, List.length_map]
      _ = defs.length := same.length_eq
  refine ⟨?_, names⟩
  rw [decode, count, readCounted_records few written declared
    ((same.map _).nodup_iff.2 distinct)]
  change (if _ then _ else _) = _
  rw [if_neg (not_not_intro complete)]

/-! ### Values by name and in order -/

/-- Every declared name arrives with its value. -/
theorem mem_delivered {values : Assignment} {position : Nat} {defs : List ArgumentDef}
    {records : List Record} (h : recordsFrom values position defs = .ok records)
    {d : ArgumentDef} (hd : d ∈ defs) :
    ∃ value, values.get? d.name = some value ∧
      (d.name, value.received) ∈ delivered values defs := by
  induction defs generalizing position records with
  | nil => cases hd
  | cons first defs ih =>
    obtain ⟨value, _, _, found, -, later, -⟩ := recordsFrom_cons_eq_ok h
    rw [delivered_cons found]
    rcases List.mem_cons.1 hd with rfl | hd
    · exact ⟨value, found, List.mem_cons_self⟩
    · obtain ⟨value, found, arrived⟩ := ih later hd
      exact ⟨value, found, List.mem_cons_of_mem _ arrived⟩

/-- Where no name is declared twice, taking a value out leaves those of the other declarations. -/
theorem ordered_eq_ok (got : Assignment) {defs : List ArgumentDef}
    (h : ∀ d ∈ defs, (got.get? d.name).isSome)
    (distinct : (defs.map (·.name)).Nodup := by assumption) :
    ∃ list, ordered got defs = .ok list ∧ list.map some = defs.map fun d => got.get? d.name := by
  induction defs generalizing got with
  | nil => exact ⟨[], rfl, rfl⟩
  | cons d defs ih =>
    rw [List.map_cons, List.nodup_cons] at distinct
    obtain ⟨value, found⟩ := Option.isSome_iff_exists.1 (h d List.mem_cons_self)
    have left : ∀ d' ∈ defs, (got.erase d.name).get? d'.name = got.get? d'.name := by
      intro d' hd'
      have other : d'.name ≠ d.name := fun same => distinct.1 (same ▸ List.mem_map_of_mem hd')
      exact lookup_filter_ne got other
    obtain ⟨list, later, same⟩ := ih (got.erase d.name)
      (fun d' hd' => left d' hd' ▸ h d' (List.mem_cons_of_mem d hd')) distinct.2
    refine ⟨value :: list, ?_, ?_⟩
    · rw [ordered, found]
      dsimp only
      rw [later]
      rfl
    · rw [List.map_cons, List.map_cons, same, found, List.map_congr_left left]

/-- **Argument lists read back.** A list that was laid out for the same declarations in any order is
read as the value of each declared name, as it arrives, and in the order of the declarations. -/
theorem decode_of_encode {sent defs : List ArgumentDef} {values : Assignment} {bytes : Bytes}
    (distinct : (defs.map (·.name)).Nodup) (same : sent.Perm defs)
    (encoded : encode sent values = .ok bytes) :
    (∃ got, decode bytes defs = .ok got ∧ (got.map Prod.fst).Perm (defs.map (·.name)) ∧
        ∀ d ∈ defs, got.get? d.name = (values.get? d.name).map ArgumentValue.received) ∧
      ∃ list, decodeOrdered bytes defs = .ok list ∧
        list.map some = defs.map fun d => (values.get? d.name).map ArgumentValue.received := by
  obtain ⟨decoded, names⟩ := decode_eq_delivered same distinct encoded
  obtain ⟨-, records, written, -⟩ := encode_eq_ok encoded
  have keys : ((delivered values sent).reverse.map Prod.fst).Perm (defs.map (·.name)) := by
    rw [List.map_reverse, names]
    exact (List.reverse_perm _).trans (same.map _)
  -- no name is repeated among the entries, so the order in which they were read does not matter
  have arrived : ∀ d ∈ defs, ∃ value, values.get? d.name = some value ∧
      Assignment.get? (delivered values sent).reverse d.name = some value.received := by
    intro d hd
    obtain ⟨value, found, entry⟩ := mem_delivered written (same.mem_iff.2 hd)
    exact ⟨value, found,
      Assignment.get?_of_mem (keys.nodup_iff.2 distinct) (List.mem_reverse.2 entry)⟩
  have agree : ∀ d ∈ defs, Assignment.get? (delivered values sent).reverse d.name
      = (values.get? d.name).map ArgumentValue.received := by
    intro d hd
    obtain ⟨value, found, entry⟩ := arrived d hd
    rw [found, entry, Option.map_some]
  have every : ∀ d ∈ defs, (Assignment.get? (delivered values sent).reverse d.name).isSome := by
    intro d hd
    obtain ⟨value, -, entry⟩ := arrived d hd
    rw [entry, Option.isSome_some]
  obtain ⟨list, inOrder, all⟩ := ordered_eq_ok _ every
  refine ⟨⟨_, decoded, keys, agree⟩, list, ?_, all.trans (List.map_congr_left agree)⟩
  rw [decodeOrdered, decoded]
  exact inOrder

/-- Values of three types: a string with more octets than characters, and an instant before the
epoch with a fraction of a second. -/
def sampleValues : Assignment :=
  [("at", .timestamp ⟨-1, 500⟩), ("mode", .string "grïll"), ("on", .boolean true)]

/-- The declarations of a sender of `sampleValues`. -/
def sampleSent : List ArgumentDef := [⟨"mode", .string⟩, ⟨"on", .boolean⟩, ⟨"at", .timestamp⟩]

/-- The same declarations in the order of their receiver. -/
def sampleDefs : List ArgumentDef := [⟨"at", .timestamp⟩, ⟨"mode", .string⟩, ⟨"on", .boolean⟩]

/-- The octets that are sent. -/
def sampleBytes : Bytes :=
  [3, 10, 2, 2, 1, 0, 6, 0, 4, 103, 114, 195, 175, 108, 108, 109, 111, 100, 101, 0, 0, 0, 1, 111,
    110, 255, 255, 255, 255, 97, 116]

theorem decode_sampleBytes :
    encode sampleSent sampleValues = .ok sampleBytes ∧
      (∃ got, decode sampleBytes sampleDefs = .ok got ∧
        got.get? "at" = some (.timestamp ⟨-1, 0⟩)) ∧
      ∃ list, decodeOrdered sampleBytes sampleDefs = .ok list ∧
        list.map some
          = [some (.timestamp ⟨-1, 0⟩), some (.string "grïll"), some (.boolean true)] := by
  have encoded : encode sampleSent sampleValues = .ok sampleBytes := by decide +kernel
  have distinct : (sampleDefs.map (·.name)).Nodup := by decide
  have same : sampleSent.Perm sampleDefs := by decide
  obtain ⟨⟨got, decoded, -, byName⟩, list, inOrder, all⟩ := decode_of_encode distinct same encoded
  refine ⟨encoded, ⟨got, decoded, ?_⟩, list, inOrder, all.trans (by decide +kernel)⟩
  exact (byName ⟨"at", .timestamp⟩ (by decide)).trans (by decide +kernel)

end ArgumentList

end RelayDevice
