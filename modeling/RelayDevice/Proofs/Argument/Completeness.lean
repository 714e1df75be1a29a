import RelayDevice.Proofs.Argument.Grammar

/-!
# A value for every declaration

Whoever declares arguments gets a list of values that can be taken position by position: where an
argument list can be read at all, there is a value for each declaration, of its type. The reader by
name does not check this. It asks that each record has a declared name of its own and that there are
as many records as declarations, and that they match one to one is then a matter of counting
(`ArgumentList.perm_ownDefs_of_decode`). So the complaint that a value is missing, which only the
reader by position has, is never made, and declarations that repeat a name are refused every list.

`ArgumentList.decodeOrdered_complete` says so. Beside the counting it rests on
`ArgumentList.decode_ne_missing`: the reader by name has no such complaint of its own, so that no
error of the one is taken for an error of the other.
-/

namespace RelayDevice

namespace ArgumentList

variable {defs : List ArgumentDef} {bytes : Bytes} {got : Assignment}

/-! ### One to one -/

/-- What a list holds are values for all declarations, in some order. -/
theorem Holds.perm_ownDefs {entries : Assignment} (holds : Holds defs bytes entries) :
    (ownDefs entries).Perm defs ∧ (defs.map (·.name)).Nodup := by
  cases holds with
  | nothing ignored expected =>
    subst expected
    exact ⟨.refl _, List.nodup_nil⟩
  | arguments _ _ _ count _ declared distinct =>
    rw [ownDefs, List.map_map]
    exact perm_of_declared count declared distinct

/-- **Values and declarations match one to one**, and no name is declared twice. -/
theorem perm_ownDefs_of_decode (read : decode bytes defs = .ok got) :
    (ownDefs got).Perm defs ∧ (defs.map (·.name)).Nodup := by
  obtain ⟨all, apart⟩ := (holds_of_decode read).perm_ownDefs
  rw [ownDefs, List.map_reverse] at all
  exact ⟨(List.reverse_perm _).symm.trans all, apart⟩

/-- A declared name has a value of the declared type. -/
theorem exists_value_of_decode (read : decode bytes defs = .ok got) {d : ArgumentDef}
    (h : d ∈ defs) : ∃ value, got.get? d.name = some value ∧ value.kind = d.kind := by
  obtain ⟨all, apart⟩ := perm_ownDefs_of_decode read
  obtain ⟨⟨name, value⟩, entry, rfl⟩ := List.mem_map.1 (all.mem_iff.2 h)
  have distinct : (got.map Prod.fst).Nodup := by
    have same : (ownDefs got).map (·.name) = got.map Prod.fst := by
      rw [ownDefs, List.map_map]
      rfl
    exact same ▸ (all.map (·.name)).nodup_iff.2 apart
  exact ⟨value, Assignment.get?_of_mem distinct entry, rfl⟩

/-- **All values are handed over**, each in the place of its declaration. -/
theorem ordered_of_decode (read : decode bytes defs = .ok got) :
    ∃ list, ordered got defs = .ok list ∧
      list.map some = defs.map (fun d => got.get? d.name) ∧
      list.map ArgumentValue.kind = defs.map (·.kind) := by
  have apart := (perm_ownDefs_of_decode read).2
  have every : ∀ d ∈ defs, (got.get? d.name).isSome := by
    intro d h
    obtain ⟨value, found, -⟩ := exists_value_of_decode read h
    rw [found, Option.isSome_some]
  obtain ⟨list, inOrder, values⟩ := ordered_eq_ok got every
  have kinds : (list.map some).map (Option.map ArgumentValue.kind)
      = (defs.map (·.kind)).map some := by
    rw [values, List.map_map, List.map_map]
    refine List.map_congr_left fun d h => ?_
    obtain ⟨value, found, same⟩ := exists_value_of_decode read h
    rw [Function.comp_apply, found, Option.map_some, same]
    rfl
  rw [List.map_map] at kinds
  refine ⟨list, inOrder, values, (List.map_inj_right fun _ _ => Option.some.inj).1 ?_⟩
  rw [← kinds, List.map_map]
  rfl

/-! ### What is complained of -/

theorem readRecord_ne_missing {position : Nat} {isString : Bool} {a b c e : UInt8}
    {payload : Bytes} {name : String} :
    readRecord defs position isString a b c e payload ≠ .error (.missing name) := by
  intro failed
  rw [readRecord] at failed
  split at failed
  · -- a string: too short, no text, no name, or not declared as a string
    dsimp only at failed
    split at failed
    · cases failed
    · split at failed
      · cases failed
      · cases failed
      · split at failed <;> cases failed
  · -- a word: no name, not declared, or declared as a string
    split at failed
    · cases failed
    · split at failed
      · cases failed
      · next kind _ => cases kind <;> cases failed

theorem readRecords_ne_missing {position mask : Nat} {sizes : List UInt8} {rest : Bytes}
    {before : Assignment} {name : String} :
    readRecords defs position mask sizes rest before ≠ .error (.missing name) := by
  induction sizes generalizing position mask rest before with
  | nil =>
    intro failed
    cases failed
  | cons size sizes ih =>
    rw [readRecords]
    split
    · split
      · intro failed
        cases failed
      · -- whole as it is, the record is read, and may repeat a name
        refine Outcome.bind_ne_error readRecord_ne_missing fun entry => ?_
        dsimp only
        split
        · intro failed
          cases failed
        · exact ih
    · intro failed
      cases failed

theorem readCounted_ne_missing {count : Nat} {rest : Bytes} {name : String} :
    readCounted defs count rest ≠ .error (.missing name) := by
  intro failed
  rw [readCounted] at failed
  split at failed
  · cases failed
  · split at failed
    · cases failed
    · exact readRecords_ne_missing failed

/-- **The reader by name misses nothing**: it refuses a list for other reasons. -/
theorem decode_ne_missing {name : String} : decode bytes defs ≠ .error (.missing name) := by
  cases bytes with
  | nil =>
    intro failed
    cases failed
  | cons count rest =>
    refine Outcome.bind_ne_error readCounted_ne_missing fun values failed => ?_
    split at failed <;> cases failed

/-! ### By position -/

/-- **A value for every declaration.** Reading by position succeeds exactly where reading by name
does. It gives as many values as there are declarations, each the value of its declaration's name and
of its declaration's type, and never fails for a missing value. Declarations that repeat a name are
refused every list. -/
theorem decodeOrdered_complete (bytes : Bytes) (defs : List ArgumentDef) :
    ((∃ list, decodeOrdered bytes defs = .ok list) ↔ ∃ got, decode bytes defs = .ok got) ∧
      (∀ list, decodeOrdered bytes defs = .ok list →
        list.map ArgumentValue.kind = defs.map (·.kind) ∧
        ∃ got, decode bytes defs = .ok got ∧
          list.map some = defs.map fun d => got.get? d.name) ∧
      (∀ name, decodeOrdered bytes defs ≠ .error (.missing name)) ∧
      (¬ (defs.map (·.name)).Nodup → ∀ got, decode bytes defs ≠ .ok got) := by
  cases read : decode bytes defs with
  | error cause =>
    have failed : decodeOrdered bytes defs = .error cause := by
      rw [decodeOrdered, read]
      rfl
    rw [failed]
    refine ⟨⟨?_, ?_⟩, ?_, ?_, ?_⟩
    · rintro ⟨list, given⟩
      cases given
    · rintro ⟨got, given⟩
      cases given
    · intro list given
      cases given
    · intro name same
      cases same
      exact decode_ne_missing read
    · intro repeated got given
      cases given
  | ok got =>
    obtain ⟨list, inOrder, values, kinds⟩ := ordered_of_decode read
    have handed : decodeOrdered bytes defs = .ok list := by
      rw [decodeOrdered, read]
      exact inOrder
    rw [handed]
    refine ⟨iff_of_true ⟨list, rfl⟩ ⟨got, rfl⟩, ?_, ?_, ?_⟩
    · intro list' same
      cases same
      exact ⟨kinds, got, rfl, values⟩
    · intro name same
      cases same
    · intro repeated
      exact absurd (perm_ownDefs_of_decode read).2 repeated

end ArgumentList

end RelayDevice
