import Mathlib.Data.List.Nodup

/-!
# Looking up by name

Declarations are looked up by their names. Where no name comes twice, the order of the list plays no
part: a look-up finds whatever was declared (`find?_of_nodup`), also within a larger list that is
made up of the declarations of several parts (`not_mem_of_nodup_append`).

What is kept under a key stays there while entries of other keys come and go
(`lookup_filter_ne`, `lookup_map_snd`, `lookup_filterMap_of_some`). Where no key comes twice,
`lookup_filterMap` says also when an entry is gone.
-/

namespace RelayDevice

variable {α : Type} {key : α → String} {items : List α}

/-- **Look-up without repetitions.** -/
theorem find?_of_nodup (distinct : (items.map key).Nodup) {a : α} (h : a ∈ items) :
    items.find? (key · = key a) = some a := by
  induction items with
  | nil => cases h
  | cons first rest ih =>
    rw [List.map_cons, List.nodup_cons] at distinct
    rcases List.mem_cons.1 h with rfl | later
    · exact List.find?_cons_of_pos (by simp)
    -- the search passes over `first`, whose name is another one
    · have ne : key first ≠ key a := fun same => distinct.1 (same ▸ List.mem_map_of_mem later)
      rw [List.find?_cons_of_neg (by simpa using ne)]
      exact ih distinct.2 later

/-- Nothing is found under a name that is not there. -/
theorem find?_eq_none_of_not_mem {name : String} (absent : name ∉ items.map key) :
    items.find? (key · = name) = none := by
  rw [List.find?_eq_none]
  intro a ha same
  exact absent (List.mem_map.2 ⟨a, ha, of_decide_eq_true same⟩)

theorem not_mem_of_nodup_append {names names' : List String} (distinct : (names ++ names').Nodup)
    {name : String} (h : name ∈ names') : name ∉ names := fun h' =>
  (List.nodup_append.1 distinct).2.2 name h' name h rfl

/-! ### Keys and values -/

section Keys

variable {κ β γ : Type} [DecidableEq κ] {k dropped : κ} {entries : List (κ × β)}

/-- Who is dropped from a list does not matter to another key. -/
theorem lookup_filter_ne (entries : List (κ × β)) (another : k ≠ dropped) :
    List.lookup k (entries.filter (·.1 ≠ dropped)) = List.lookup k entries := by
  induction entries with
  | nil => rfl
  | cons entry entries ih =>
    by_cases gone : entry.1 = dropped
    · have skipped : (k == entry.1) = false :=
        beq_false_of_ne fun same => another (same.trans gone)
      rw [List.filter_cons_of_neg (by simpa using gone), ih, List.lookup_cons, skipped]
    · rw [List.filter_cons_of_pos (by simpa using gone), List.lookup_cons, List.lookup_cons, ih]

theorem lookup_filter_self (entries : List (κ × β)) :
    List.lookup k (entries.filter (·.1 ≠ k)) = none := by
  rw [List.lookup_eq_none_iff]
  intro entry among
  have another : entry.1 ≠ k := of_decide_eq_true (List.mem_filter.1 among).2
  exact bne_iff_ne.2 another.symm

/-- A change that keeps all keys. -/
theorem lookup_map_snd (f : κ → β → γ) (entries : List (κ × β)) :
    List.lookup k (entries.map fun entry => (entry.1, f entry.1 entry.2))
      = (List.lookup k entries).map (f k) := by
  induction entries with
  | nil => rfl
  | cons entry entries ih =>
    rw [List.map_cons, List.lookup_cons, List.lookup_cons, ih]
    by_cases same : k = entry.1
    · rw [same, beq_self_eq_true]
      rfl
    · rw [beq_false_of_ne same]

/-- A change that may drop entries, and keeps the one that is looked up. -/
theorem lookup_filterMap_of_some {b : β} {c : γ} (f : κ → β → Option γ)
    (found : List.lookup k entries = some b) (kept : f k b = some c) :
    List.lookup k (entries.filterMap fun entry => (f entry.1 entry.2).map (entry.1, ·))
      = some c := by
  induction entries with
  | nil => cases found
  | cons entry entries ih =>
    rw [List.lookup_cons] at found
    by_cases same : k = entry.1
    · rw [same, beq_self_eq_true] at found
      obtain rfl := Option.some.inj found
      subst same
      rw [List.filterMap_cons, kept, Option.map_some, List.lookup_cons_self]
    · rw [beq_false_of_ne same] at found
      rw [List.filterMap_cons]
      cases f entry.1 entry.2 with
      | none => exact ih found
      | some c =>
        rw [Option.map_some, List.lookup_cons, beq_false_of_ne same]
        exact ih found

/-- **A change that may drop entries**, where no key comes twice. With a second entry of its key, one
that is dropped would give way to the other. -/
theorem lookup_filterMap (f : κ → β → Option γ) (distinct : (entries.map Prod.fst).Nodup) :
    List.lookup k (entries.filterMap fun entry => (f entry.1 entry.2).map (entry.1, ·))
      = (List.lookup k entries).bind (f k) := by
  induction entries with
  | nil => rfl
  | cons entry entries ih =>
    obtain ⟨key, b⟩ := entry
    rw [List.map_cons, List.nodup_cons] at distinct
    have later := ih distinct.2
    rw [List.filterMap_cons, List.lookup_cons]
    by_cases same : k = key
    · subst same
      -- there is no other entry of the key behind this one
      have alone : List.lookup k entries = none := by
        rw [List.lookup_eq_none_iff]
        intro other among
        exact bne_iff_ne.2 fun same => distinct.1 (List.mem_map.2 ⟨other, among, same.symm⟩)
      rw [alone] at later
      rw [beq_self_eq_true]
      cases kept : f k b with
      | none =>
        simp only [kept, Option.map_none, Option.bind_some]
        exact later
      | some c =>
        simp only [kept, Option.map_some, Option.bind_some]
        exact List.lookup_cons_self
    · rw [beq_false_of_ne same]
      cases f key b with
      | none => exact later
      | some c =>
        simp only [Option.map_some]
        rw [List.lookup_cons, beq_false_of_ne same]
        exact later

omit [DecidableEq κ] in
theorem keys_filterMap_sublist (f : κ → β → Option γ) (entries : List (κ × β)) :
    ((entries.filterMap fun entry => (f entry.1 entry.2).map (entry.1, ·)).map Prod.fst).Sublist
      (entries.map Prod.fst) := by
  induction entries with
  | nil => exact .slnil
  | cons entry entries ih =>
    rw [List.filterMap_cons, List.map_cons]
    cases f entry.1 entry.2 with
    | none => exact ih.cons _
    | some c => exact ih.cons_cons _

end Keys

end RelayDevice
