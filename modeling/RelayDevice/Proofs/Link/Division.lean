import Mathlib.Data.List.Induction
import RelayDevice.Link.Reassembly
import RelayDevice.Proofs.Wire.RoundTrip

/-!
# Dividing a stream into frames

Octets of a stream arrive in pieces, and in between frames are asked for.
`Reassembly.Progress.act` is one of these, and `Reassembly.run` is any number of them in any order.

What comes of it is a division of the octets that arrived (`Divides`): frames of the lengths that
they declare themselves, and a rest. `divides_run` says so of every run. A division whose rest holds
no whole frame is the only one of its kind (`Divides.unique`), so that nothing but the octets
decides where frames begin and end: `frames_independent_of_pieces`.

Both rest on `next_eq_some_iff`, by which the first frame is taken off exactly as it can be put
back.
-/

namespace RelayDevice

/-! ### The declared length -/

/-- The length of a frame is declared by its first four octets, whatever follows. -/
theorem declaredFrameLength?_append {bytes : Bytes} {size : Nat}
    (declared : declaredFrameLength? bytes = some size) (more : Bytes) :
    declaredFrameLength? (bytes ++ more) = some size := by
  revert declared
  fun_cases declaredFrameLength? bytes with
  | case1 => exact id
  | case2 =>
    intro declared
    cases declared

/-- As many octets as are declared hold the declaration. -/
theorem declaredFrameLength?_take {bytes : Bytes} {size : Nat}
    (declared : declaredFrameLength? bytes = some size) :
    declaredFrameLength? (bytes.take size) = some size := by
  revert declared
  fun_cases declaredFrameLength? bytes with
  | case1 t₀ t₁ l₀ l₁ rest =>
    intro declared
    obtain rfl := Option.some.inj declared
    have size : Header.size + (Bytes.toUInt16 l₀ l₁).toNat
        = 16 + (Bytes.toUInt16 l₀ l₁).toNat + 4 := by
      rw [Header.size]
      omega
    rw [size, List.take_succ_cons, List.take_succ_cons, List.take_succ_cons, List.take_succ_cons,
      ← size]
    rfl
  | case2 =>
    intro declared
    cases declared

/-- What a frame declares stands in its third and its fourth octet. -/
theorem eq_of_declaredFrameLength? {bytes : Bytes} {size : Nat}
    (declared : declaredFrameLength? bytes = some size) :
    size = Header.size + ((bytes.getD 2 0).toNat * 256 + (bytes.getD 3 0).toNat) := by
  revert declared
  fun_cases declaredFrameLength? bytes with
  | case1 t₀ t₁ l₀ l₁ rest =>
    intro declared
    rw [← Option.some.inj declared, Bytes.toNat_toUInt16]
    rfl
  | case2 =>
    intro declared
    cases declared

/-- A message's frame declares its own length. -/
theorem Message.declaredFrameLength?_of_encode {m : Message} {key : Option Bytes} {octets : Bytes}
    (written : m.encode key = .ok octets) : declaredFrameLength? octets = some octets.length := by
  obtain ⟨fits, rfl⟩ := frame_of_encode written
  have declared : (m.header key).length.toNat = m.bodyLength key := by
    rw [header, UInt16.toNat_ofNat']
    omega
  rw [length_frame, frame, Header.declaredFrameLength?_toBytes_append, declared]

namespace Reassembly

variable {frame : Bytes} {r s : Reassembly}

/-! ### Runs -/

/-- **The next frame.** It is what comes first and has the length that it declares. -/
theorem next_eq_some_iff :
    r.next = some (frame, s) ↔
      r.buffer = frame ++ s.buffer ∧ declaredFrameLength? frame = some frame.length := by
  constructor
  · intro h
    unfold next at h
    split at h
    · cases h
    · next size declared =>
      split at h
      · cases h
      · next whole =>
        obtain ⟨rfl, rfl⟩ := Prod.mk.inj (Option.some.inj h)
        have length : (r.buffer.take size).length = size :=
          List.length_take_of_le (Nat.le_of_not_lt whole)
        exact ⟨(List.take_append_drop _ _).symm, by rw [length, declaredFrameLength?_take declared]⟩
  · rintro ⟨split, declared⟩
    unfold next
    rw [split, declaredFrameLength?_append declared]
    dsimp only
    rw [if_neg (by rw [List.length_append]; omega), List.take_left, List.drop_left]

/-- What is done to a reassembly. -/
inductive Action
  /-- Octets arrive. -/
  | extend (piece : Bytes)
  /-- The next frame is asked for. -/
  | next
deriving DecidableEq

/-- The octets that arrive in an action. -/
def Action.octets : Action → Bytes
  | extend piece => piece
  | next => []

/-- The octets that arrive in several actions. -/
def fed (actions : List Action) : Bytes := actions.flatMap Action.octets

/-- The frames that were given, and what is left. -/
structure Progress where
  /-- The frames in the order in which they were given. -/
  frames : List Bytes
  /-- The octets that wait for the rest of their frame. -/
  rest : Reassembly
deriving DecidableEq

/-- One action. -/
def Progress.act (p : Progress) : Action → Progress
  | .extend piece => { p with rest := p.rest.extend piece }
  | .next =>
    match p.rest.next with
    | none => p
    | some (frame, rest) => ⟨p.frames ++ [frame], rest⟩

/-- Several actions, on a stream of which nothing has arrived. -/
def run (actions : List Action) : Progress := actions.foldl Progress.act ⟨[], .empty⟩

/-- Whether no frame would be given. -/
def IsDrained (p : Progress) : Prop := p.rest.next = none

theorem run_append (before later : List Action) :
    run (before ++ later) = later.foldl Progress.act (run before) := List.foldl_append

/-! ### Divisions -/

/-- **Division.** Octets are divided into frames, each of the length that it declares, and a
rest. -/
structure Divides (octets : Bytes) (p : Progress) : Prop where
  /-- Nothing is lost, added or moved. -/
  octets_eq : p.frames.flatten ++ p.rest.buffer = octets
  /-- Each frame ends where it says. -/
  declared : ∀ frame ∈ p.frames, declaredFrameLength? frame = some frame.length

/-- One action keeps a division. -/
theorem Divides.act {octets : Bytes} {p : Progress} (h : Divides octets p) (a : Action) :
    Divides (octets ++ a.octets) (p.act a) := by
  cases a with
  | extend piece =>
    refine ⟨?_, h.declared⟩
    rw [← h.octets_eq, List.append_assoc]
    rfl
  | next =>
    rw [Action.octets, List.append_nil, Progress.act]
    split
    · exact h
    · next frame rest given =>
      obtain ⟨split, declared⟩ := next_eq_some_iff.1 given
      refine ⟨?_, List.forall_mem_append.2 ⟨h.declared, by simpa using declared⟩⟩
      rw [← h.octets_eq, split, List.flatten_append, List.flatten_singleton, List.append_assoc]

/-- **Every run divides what arrived.** -/
theorem divides_run (actions : List Action) : Divides (fed actions) (run actions) := by
  induction actions using List.reverseRecOn with
  | nil => exact ⟨rfl, nofun⟩
  | append_singleton actions a ih =>
    have more : fed (actions ++ [a]) = fed actions ++ a.octets := by
      rw [fed, List.flatMap_append, List.flatMap_singleton]
      rfl
    rw [more, run_append]
    exact ih.act a

/-- The first frame of a division is what would be given first. -/
theorem Divides.next_eq {frames : List Bytes} {rest : Reassembly} {octets : Bytes}
    (h : Divides octets ⟨frame :: frames, rest⟩) :
    Reassembly.next ⟨octets⟩ = some (frame, ⟨frames.flatten ++ rest.buffer⟩) := by
  refine next_eq_some_iff.2 ⟨?_, h.declared frame List.mem_cons_self⟩
  rw [← List.append_assoc, ← List.flatten_cons]
  exact h.octets_eq.symm

/-- What follows the first frame is divided as well. -/
theorem Divides.tail {frames : List Bytes} {rest : Reassembly} {octets : Bytes}
    (h : Divides octets ⟨frame :: frames, rest⟩) :
    Divides (frames.flatten ++ rest.buffer) ⟨frames, rest⟩ :=
  ⟨rfl, fun f hf => h.declared f (List.mem_cons_of_mem _ hf)⟩

/-- **There is one division only** whose rest holds no whole frame. -/
theorem Divides.unique {octets : Bytes} {p q : Progress} (hp : Divides octets p)
    (hq : Divides octets q) (drained : IsDrained p) (drained' : IsDrained q) : p = q := by
  obtain ⟨fs, r⟩ := p
  obtain ⟨gs, s⟩ := q
  -- a division without frames leaves everything, in which then no frame begins
  have whole {octets : Bytes} {r : Reassembly} (h : Divides octets ⟨[], r⟩) : r = ⟨octets⟩ := by
    rw [← h.octets_eq]
    rfl
  induction fs generalizing octets gs with
  | nil =>
    obtain rfl := whole hp
    cases gs with
    | nil =>
      obtain rfl := whole hq
      rfl
    | cons g gs => cases drained.symm.trans hq.next_eq
  | cons f fs ih =>
    cases gs with
    | nil =>
      obtain rfl := whole hq
      cases drained'.symm.trans hp.next_eq
    | cons g gs =>
      -- both begin with the same frame and go on with the same octets
      have same := hp.next_eq.symm.trans hq.next_eq
      simp only [Option.some.injEq, Prod.mk.injEq, Reassembly.mk.injEq] at same
      obtain ⟨rfl, rest⟩ := same
      have later := ih hp.tail drained gs (rest ▸ hq.tail) drained'
      simp only [Progress.mk.injEq] at later ⊢
      exact ⟨congrArg _ later.1, later.2⟩

/-- Asking often enough leaves no whole frame. -/
theorem exists_isDrained (p : Progress) :
    ∃ n, IsDrained ((List.replicate n Action.next).foldl Progress.act p) := by
  match given : p.rest.next with
  | none => exact ⟨0, given⟩
  | some (frame, rest) =>
    obtain ⟨n, drained⟩ := exists_isDrained ⟨p.frames ++ [frame], rest⟩
    refine ⟨n + 1, ?_⟩
    rw [List.replicate_succ, List.foldl_cons, Progress.act, given]
    exact drained
termination_by p.rest.buffer.length
decreasing_by exact length_of_next given

/-- **Where frames begin and end does not depend on how the octets arrive.** In every run, the
frames that were given and the octets that are left are those that arrived, and each frame has
the length that its third and fourth octet declare. Asking often enough leaves no whole frame; the
frames and the rest are then the same for all runs in which the same octets arrived. So messages
that were written one behind the other are given one after the other, and nothing is left. -/
theorem frames_independent_of_pieces :
    (∀ actions, (run actions).frames.flatten ++ (run actions).rest.buffer = fed actions ∧
      ∀ frame ∈ (run actions).frames, frame.length
        = Header.size + ((frame.getD 2 0).toNat * 256 + (frame.getD 3 0).toNat)) ∧
    (∀ actions, ∃ n, IsDrained (run (actions ++ List.replicate n .next))) ∧
    (∀ actions others, fed actions = fed others → IsDrained (run actions) →
      IsDrained (run others) → run actions = run others) ∧
    (∀ frames, (∀ frame ∈ frames, ∃ (m : Message) (key : Option Bytes), m.encode key = .ok frame) →
      ∀ actions, fed actions = frames.flatten → IsDrained (run actions) →
        run actions = ⟨frames, .empty⟩) := by
  refine ⟨fun actions => ⟨(divides_run actions).octets_eq, fun frame given => ?_⟩,
    fun actions => ?_, fun actions others same drained drained' => ?_,
    fun frames written actions arrived drained => ?_⟩
  · exact eq_of_declaredFrameLength? ((divides_run actions).declared frame given)
  · simp only [run_append]
    exact exists_isDrained (run actions)
  · exact (divides_run actions).unique (same ▸ divides_run others) drained drained'
  · refine (divides_run actions).unique ⟨?_, fun frame hf => ?_⟩ drained rfl
    · rw [arrived]
      exact List.append_nil _
    · obtain ⟨m, key, encoded⟩ := written frame hf
      exact Message.declaredFrameLength?_of_encode encoded

end Reassembly

end RelayDevice
