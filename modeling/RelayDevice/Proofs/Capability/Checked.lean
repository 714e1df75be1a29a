import RelayDevice.Capability.Descriptor
import RelayDevice.Proofs.Lookup
import RelayDevice.Proofs.Outcome

/-!
# What a registry promises

The check of declarations goes through three lists and keeps the names that it has seen. What it
asks for can be said without such bookkeeping: `Declarations.WellFormed` names the conditions, and
`Declarations.check_eq_ok_iff` says that the check accepts exactly the declarations that meet them.
The names of one kind are the crux, `AreNames`, where the names seen so far are a parameter of the
induction.

A registry carries the outcome of the check, so its declarations are well-formed
(`Registry.wellFormed`), and a look-up by name finds what was declared under it
(`Registry.action?_of_mem`). The look-up goes through the table of places. Since no name comes twice,
no entry of the table takes over from another, and the table agrees with the list
(`Registry.action?_eq_find?`).
-/

namespace RelayDevice

/-! ### Names of one kind -/

theorem checkName_eq_ok_iff {kind : CapabilityKind} {seen : List String} {name : String} :
    checkName kind seen name = .ok () ↔ isValidName name ∧ name ∉ seen := by
  rw [checkName]
  by_cases valid : isValidName name
  · by_cases fresh : name ∈ seen <;> simp [valid, fresh]
  · simp [valid]

/-- **Names as they must be**: of the right form, all different, and none of those seen before. -/
def AreNames (seen names : List String) : Prop :=
  names.Nodup ∧ ∀ name ∈ names, isValidName name ∧ name ∉ seen

theorem areNames_nil (seen : List String) : AreNames seen [] := ⟨List.nodup_nil, nofun⟩

theorem areNames_cons {seen names : List String} {name : String} :
    AreNames seen (name :: names) ↔
      (isValidName name ∧ name ∉ seen) ∧ AreNames (name :: seen) names := by
  rw [AreNames, List.nodup_cons, List.forall_mem_cons]
  simp only [AreNames, List.mem_cons, not_or]
  constructor
  · rintro ⟨⟨fresh, distinct⟩, first, rest⟩
    exact ⟨first, distinct, fun n hn => ⟨(rest n hn).1, fun same => fresh (same ▸ hn), (rest n hn).2⟩⟩
  · rintro ⟨first, distinct, rest⟩
    exact ⟨⟨fun h => (rest name h).2.1 rfl, distinct⟩, first,
      fun n hn => ⟨(rest n hn).1, (rest n hn).2.2⟩⟩

/-! ### Arguments -/

/-- **Arguments as they must be**: with different names of 1 to 255 octets. -/
structure AreArguments (defs : List ArgumentDef) : Prop where
  /-- No name comes twice. -/
  nodup : (defs.map (·.name)).Nodup
  /-- Every name has octets, and not too many. -/
  size : ∀ d ∈ defs, 0 < d.name.utf8ByteSize ∧ d.name.utf8ByteSize ≤ 255

theorem checkArguments_eq_ok_iff_of_seen {owner : String} {seen : List String}
    {defs : List ArgumentDef} :
    checkArguments owner seen defs = .ok () ↔
      AreArguments defs ∧ ∀ d ∈ defs, d.name ∉ seen := by
  -- as for names: what has been seen grows along the list
  induction defs generalizing seen with
  | nil => exact iff_of_true rfl ⟨⟨List.nodup_nil, nofun⟩, nofun⟩
  | cons d defs ih =>
    rw [checkArguments]
    by_cases size : d.name.utf8ByteSize = 0 ∨ 255 < d.name.utf8ByteSize
    · rw [if_pos size]
      refine iff_of_false nofun fun h => ?_
      have := h.1.size d List.mem_cons_self
      omega
    · rw [if_neg size]
      by_cases fresh : d.name ∈ seen
      · rw [if_pos fresh]
        exact iff_of_false nofun fun h => h.2 d List.mem_cons_self fresh
      · rw [if_neg fresh, ih]
        have within : 0 < d.name.utf8ByteSize ∧ d.name.utf8ByteSize ≤ 255 := by omega
        constructor
        · rintro ⟨⟨distinct, sizes⟩, later⟩
          refine ⟨⟨?_, List.forall_mem_cons.2 ⟨within, sizes⟩⟩,
            List.forall_mem_cons.2 ⟨fresh, fun e he => ?_⟩⟩
          · rw [List.map_cons, List.nodup_cons]
            refine ⟨fun h => ?_, distinct⟩
            obtain ⟨e, he, same⟩ := List.mem_map.1 h
            exact later e he (same ▸ List.mem_cons_self)
          · exact fun h => later e he (List.mem_cons_of_mem _ h)
        · rintro ⟨⟨distinct, sizes⟩, later⟩
          rw [List.map_cons, List.nodup_cons] at distinct
          refine ⟨⟨distinct.2, (List.forall_mem_cons.1 sizes).2⟩, fun e he h => ?_⟩
          rcases List.mem_cons.1 h with same | h
          · exact distinct.1 (same ▸ List.mem_map_of_mem he)
          · exact later e (List.mem_cons_of_mem _ he) h

theorem checkArguments_eq_ok_iff {owner : String} {defs : List ArgumentDef} :
    checkArguments owner [] defs = .ok () ↔ AreArguments defs := by
  rw [checkArguments_eq_ok_iff_of_seen]
  exact and_iff_left fun _ _ => List.not_mem_nil

/-! ### Declarations -/

namespace Declarations

variable {σ : Type}

/-- **Declarations as they must be.** -/
structure WellFormed (d : Declarations σ) : Prop where
  /-- Actions have proper names. -/
  actions : AreNames [] (d.actions.map (·.name))
  /-- An action has proper arguments, and not too many. -/
  inputs : ∀ a ∈ d.actions, a.arguments.length ≤ entryLimit ∧ AreArguments a.arguments
  /-- Events have proper names. -/
  events : AreNames [] (d.events.map (·.name))
  /-- What an event carries are proper arguments. -/
  components : ∀ e ∈ d.events, AreArguments e.components
  /-- There are not too many status components. -/
  few : d.status.length ≤ entryLimit
  /-- Status components have proper names. -/
  status : AreNames [] (d.status.map (·.name))

theorem checkActions_eq_ok_iff {seen : List String} {actions : List (Action σ)} :
    checkActions seen actions = .ok () ↔
      AreNames seen (actions.map (·.name)) ∧
        ∀ a ∈ actions, a.arguments.length ≤ entryLimit ∧ AreArguments a.arguments := by
  induction actions generalizing seen with
  | nil => exact iff_of_true rfl ⟨areNames_nil seen, nofun⟩
  | cons a rest ih =>
    rw [checkActions]
    simp only [Outcome.seq_eq_ok_iff, Outcome.ite_throw_eq_ok_iff, checkName_eq_ok_iff,
      checkArguments_eq_ok_iff, ih, List.map_cons, areNames_cons, List.forall_mem_cons, Nat.not_lt]
    constructor
    · rintro ⟨name, few, arguments, names, inputs⟩
      exact ⟨⟨name, names⟩, ⟨few, arguments⟩, inputs⟩
    · rintro ⟨⟨name, names⟩, ⟨few, arguments⟩, inputs⟩
      exact ⟨name, few, arguments, names, inputs⟩

theorem checkEvents_eq_ok_iff {seen : List String} {events : List Event} :
    checkEvents seen events = .ok () ↔
      AreNames seen (events.map (·.name)) ∧ ∀ e ∈ events, AreArguments e.components := by
  induction events generalizing seen with
  | nil => exact iff_of_true rfl ⟨areNames_nil seen, nofun⟩
  | cons e rest ih =>
    rw [checkEvents]
    simp only [Outcome.seq_eq_ok_iff, checkName_eq_ok_iff, checkArguments_eq_ok_iff, ih,
      List.map_cons, areNames_cons, List.forall_mem_cons]
    constructor
    · rintro ⟨name, arguments, names, components⟩
      exact ⟨⟨name, names⟩, arguments, components⟩
    · rintro ⟨⟨name, names⟩, arguments, components⟩
      exact ⟨name, arguments, names, components⟩

theorem checkStatus_eq_ok_iff {seen : List String} {status : List (StatusComponent σ)} :
    checkStatus seen status = .ok () ↔ AreNames seen (status.map (·.name)) := by
  induction status generalizing seen with
  | nil => exact iff_of_true rfl (areNames_nil seen)
  | cons c rest ih =>
    rw [checkStatus, Outcome.seq_eq_ok_iff, checkName_eq_ok_iff, ih, List.map_cons, areNames_cons]

/-- **The check accepts exactly the well-formed declarations.** -/
theorem check_eq_ok_iff {d : Declarations σ} : d.check = .ok () ↔ d.WellFormed := by
  rw [check]
  simp only [Outcome.seq_eq_ok_iff, Outcome.ite_throw_eq_ok_iff, checkActions_eq_ok_iff,
    checkEvents_eq_ok_iff, checkStatus_eq_ok_iff, Nat.not_lt]
  constructor
  · rintro ⟨⟨actions, inputs⟩, ⟨events, components⟩, few, status⟩
    exact ⟨actions, inputs, events, components, few, status⟩
  · rintro ⟨actions, inputs, events, components, few, status⟩
    exact ⟨⟨actions, inputs⟩, ⟨events, components⟩, few, status⟩

theorem build_eq_ok {d : Declarations σ} (checked : d.check = .ok ()) :
    d.build = .ok ⟨d, checked⟩ := by
  rw [build]
  split
  · rfl
  · next refused => rw [checked] at refused; cases refused

/-! ### The table of places -/

section Table

variable {entries : List (String × Nat)} {place : Nat} {actions : List (Action σ)}

theorem lookup_enter_of_not_mem {name : String} (absent : name ∉ actions.map (·.name)) :
    (enter entries place actions).lookup name = entries.lookup name := by
  induction actions generalizing entries place with
  | nil => rfl
  | cons a rest ih =>
    rw [List.map_cons, List.mem_cons, not_or] at absent
    rw [enter, ih absent.2, List.lookup_cons, beq_false_of_ne absent.1]

theorem lookup_enter (distinct : (actions.map (·.name)).Nodup) {i : Nat} {a : Action σ}
    (there : actions[i]? = some a) :
    (enter entries place actions).lookup a.name = some (place + i) := by
  induction actions generalizing entries place i with
  | nil => cases there
  | cons first rest ih =>
    rw [List.map_cons, List.nodup_cons] at distinct
    rw [enter]
    cases i with
    | zero =>
      -- the entry is the newest of its name, and stays so: the name does not come again
      obtain rfl := Option.some.inj there
      rw [lookup_enter_of_not_mem distinct.1, List.lookup_cons_self]
      rfl
    | succ i =>
      rw [ih distinct.2 there, Nat.add_assoc, Nat.add_comm 1 i]

end Table

end Declarations

/-! ### Registries -/

namespace Registry

variable {σ : Type}

theorem wellFormed (r : Registry σ) : r.declared.WellFormed :=
  Declarations.check_eq_ok_iff.1 r.check_eq

/-- **The table of places agrees with the list**: it leads to the first action of a name. -/
theorem action?_eq_find? (r : Registry σ) (name : String) :
    r.action? name = r.declared.actions.find? (·.name = name) := by
  have distinct := r.wellFormed.actions.1
  rw [action?, index]
  by_cases declared : name ∈ r.declared.actions.map (·.name)
  · obtain ⟨a, member, rfl⟩ := List.mem_map.1 declared
    obtain ⟨i, there⟩ := List.mem_iff_getElem?.1 member
    rw [Declarations.lookup_enter distinct there, Option.bind_some, Nat.zero_add, there,
      find?_of_nodup distinct member]
  · rw [Declarations.lookup_enter_of_not_mem declared, find?_eq_none_of_not_mem declared]
    rfl

/-- **Look-up by name** finds the action that was declared. -/
theorem action?_of_mem {r : Registry σ} {a : Action σ} (declared : a ∈ r.declared.actions) :
    r.action? a.name = some a := by
  rw [action?_eq_find?]
  exact find?_of_nodup r.wellFormed.actions.1 declared

theorem mem_of_action? {r : Registry σ} {name : String} {a : Action σ}
    (found : r.action? name = some a) : a ∈ r.declared.actions := by
  rw [action?_eq_find?] at found
  exact List.mem_of_find?_eq_some found

theorem name_of_action? {r : Registry σ} {name : String} {a : Action σ}
    (found : r.action? name = some a) : a.name = name := by
  rw [action?_eq_find?] at found
  have same := List.find?_some found
  exact of_decide_eq_true same

theorem action?_eq_none {r : Registry σ} {name : String}
    (absent : name ∉ r.declared.actions.map (·.name)) : r.action? name = none := by
  rw [action?_eq_find?]
  exact find?_eq_none_of_not_mem absent

end Registry

end RelayDevice
