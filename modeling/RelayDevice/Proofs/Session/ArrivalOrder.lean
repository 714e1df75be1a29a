import Mathlib.Data.List.Induction
import RelayDevice.Proofs.Session.Course

/-!
# The order in which messages are handled

Between its inbox and its dispatcher a message passes through one of two hands. While the session
is opened, an attempt takes messages out of the inbox and puts aside those that do not answer it,
for as many attempts as it takes; the main loop takes first what was put aside and then what is in
the inbox. `Course.dispatched_in_order` says that no message is lost, repeated or overtaken on the
way, whatever happens to the device and in whatever order.

The invariant is `Course.Ordered`, and its clause `Course.Settled` carries the order: what was taken
out of the inbox and is no answer was dispatched already or lies in the backlog, in this order. It
splits by the stage of the device, since it is the attempts that hold the backlog at first and the
main loop later. Each incident preserves it (`Course.Ordered.act`), and so does a course of them
(`Course.ordered_run`).

A message counts as an answer (`Receipt.answered`) only to the attempt that waits when it is taken
out. A late answer to an attempt that was given up is a message as any other, and is dispatched.
-/

namespace RelayDevice

/-! ### What an inbox records -/

namespace Inlet

variable (i : Inlet)

/-- What is for the dispatcher: all messages that were delivered, without the answers. -/
def forDispatcher : List Message := i.kept ++ i.queue.items

/-- Nothing is delivered but what was taken out, in this order, or still waits. -/
def IsWhole : Prop := i.delivered = i.receipts.map (·.message) ++ i.queue.items

variable {i} {m : Message}

@[simp] theorem kept_handOut (r : Receipt) (others : BoundedQueue Message) :
    (i.handOut r others).kept = i.kept ++ if r.answered = none then [r.message] else [] := by
  unfold kept handOut
  rw [List.filter_append, List.map_append]
  cases answered : r.answered <;> simp [answered]

@[simp] theorem answers_handOut (r : Receipt) (others : BoundedQueue Message) :
    (i.handOut r others).answers = i.answers ++ r.answered.toList := by
  unfold answers handOut
  rw [List.filterMap_append]
  cases answered : r.answered <;> simp [answered]

theorem answers_handOut_of_none {r : Receipt} (unanswered : r.answered = none)
    (others : BoundedQueue Message) : (i.handOut r others).answers = i.answers := by
  rw [answers_handOut, unanswered]
  exact List.append_nil _

theorem receipts_deliver : (i.deliver m).receipts = i.receipts := by
  unfold deliver
  split
  · split <;> rfl
  · rfl

theorem IsWhole.deliver (whole : i.IsWhole) : (i.deliver m).IsWhole := by
  unfold Inlet.deliver
  split
  · split
    · next queue pushed =>
      rw [IsWhole, BoundedQueue.items_of_push pushed, ← List.append_assoc]
      exact congrArg (· ++ [m]) whole
    · exact whole
  · exact whole

theorem deliver_of_deserted (deserted : i.isServed = false) : i.deliver m = i := by
  rw [Inlet.deliver, deserted]
  rfl

theorem IsWhole.handOut {rest : List Message} (whole : i.IsWhole)
    (waiting : i.queue.items = m :: rest) (awaiting : Option Attempt) :
    (i.handOut ⟨m, awaiting⟩ { i.queue with items := rest }).IsWhole := by
  rw [IsWhole, waiting] at whole
  simp [IsWhole, Inlet.handOut, whole]

end Inlet

/-! ### The invariant -/

namespace Course

variable {σ φ : Type}

/-- What the device waits for. -/
def awaited? (c : Course σ φ) : Option TransactionId :=
  match c.stage with
  | .underway s => s.awaited?
  | _ => none

/-- What was taken out of the inbox and is no answer was dispatched already, or was put aside and
is still to come. Nothing is left to come once the worker has gone away and the loop has ended. A
device that has failed dispatches nothing. -/
def Settled (c : Course σ φ) : Prop :=
  match c.stage with
  | .underway s => c.dispatched = [] ∧ (s.IsFailed ∨ s.aside = c.inlet.kept)
  | .running l | .left l => c.dispatched ++ l.backlog = c.inlet.kept
  | .deserted _ =>
    c.dispatched = c.inlet.kept ∧ c.inlet.queue.items = [] ∧ c.inlet.isServed = false

/-- What holds of a course at any time. -/
structure Ordered (c : Course σ φ) : Prop where
  whole : c.inlet.IsWhole
  /-- No attempt is answered twice. -/
  nodup : c.inlet.answers.Nodup
  /-- The attempts that were answered are among those that there were. -/
  made : ∀ n ∈ c.inlet.answers, n ≤ c.attempts
  /-- The attempt that waits for an answer has none. -/
  unanswered : c.awaited? ≠ none → c.attempts ∉ c.inlet.answers
  settled : c.Settled

variable {c : Course σ φ}

theorem settled_underway {s : Startup σ φ} (stage : c.stage = .underway s) :
    c.Settled ↔ c.dispatched = [] ∧ (s.IsFailed ∨ s.aside = c.inlet.kept) := by
  rw [Settled, stage]

theorem settled_running {l : MainLoop σ φ} (stage : c.stage = .running l) :
    c.Settled ↔ c.dispatched ++ l.backlog = c.inlet.kept := by
  rw [Settled, stage]

theorem settled_left {l : MainLoop σ φ} (stage : c.stage = .left l) :
    c.Settled ↔ c.dispatched ++ l.backlog = c.inlet.kept := by
  rw [Settled, stage]

theorem settled_deserted {l : MainLoop σ φ} (stage : c.stage = .deserted l) :
    c.Settled ↔ c.dispatched = c.inlet.kept ∧ c.inlet.queue.items = [] ∧
      c.inlet.isServed = false := by
  rw [Settled, stage]

theorem awaited?_of_underway {s : Startup σ φ} (stage : c.stage = .underway s) :
    c.awaited? = s.awaited? := by
  rw [awaited?, stage]

theorem ordered_start (d : DeviceSession σ φ) (capacity : Nat) : (start d capacity).Ordered where
  whole := rfl
  nodup := List.nodup_nil
  made _ answered := absurd answered List.not_mem_nil
  unanswered _ := List.not_mem_nil
  settled := ⟨rfl, .inr rfl⟩

namespace Ordered

/-! ### Every incident preserves it -/

theorem deliver (ordered : c.Ordered) (m : Message) :
    { c with inlet := c.inlet.deliver m : Course σ φ }.Ordered := by
  have kept : (c.inlet.deliver m).kept = c.inlet.kept := by
    rw [Inlet.kept, Inlet.receipts_deliver, ← Inlet.kept]
  have answers : (c.inlet.deliver m).answers = c.inlet.answers := by
    rw [Inlet.answers, Inlet.receipts_deliver, ← Inlet.answers]
  refine ⟨ordered.whole.deliver, ?_, ?_, ?_, ?_⟩
  · exact answers ▸ ordered.nodup
  · exact answers ▸ ordered.made
  · exact answers ▸ ordered.unanswered
  · have settled := ordered.settled
    cases stage : c.stage with
    | underway s =>
      rw [settled_underway stage] at settled
      exact (settled_underway rfl).2 ⟨settled.1, kept ▸ settled.2⟩
    | running l =>
      rw [settled_running stage] at settled
      exact (settled_running rfl).2 (settled.trans kept.symm)
    | left l =>
      rw [settled_left stage] at settled
      exact (settled_left rfl).2 (settled.trans kept.symm)
    | deserted l =>
      rw [settled_deserted stage] at settled
      rw [Inlet.deliver_of_deserted settled.2.2]
      exact (settled_deserted rfl).2 settled

theorem forsake (ordered : c.Ordered) :
    { c with inlet := c.inlet.forsake : Course σ φ }.Ordered := by
  refine ⟨ordered.whole, ordered.nodup, ordered.made, ordered.unanswered, ?_⟩
  have settled := ordered.settled
  cases stage : c.stage with
  | underway s => exact (settled_underway rfl).2 ((settled_underway stage).1 settled)
  | running l => exact (settled_running rfl).2 ((settled_running stage).1 settled)
  | left l => exact (settled_left rfl).2 ((settled_left stage).1 settled)
  | deserted l =>
    obtain ⟨all, none, -⟩ := (settled_deserted stage).1 settled
    exact (settled_deserted rfl).2 ⟨all, none, rfl⟩

theorem notice {s : Startup σ φ} (ordered : c.Ordered) (stage : c.stage = .underway s)
    {e : StartupEvent} (other : ∀ m, e ≠ .opening (.received m)) : (c.notice s e).Ordered := by
  obtain ⟨fresh, settled⟩ := (settled_underway stage).1 ordered.settled
  refine ⟨ordered.whole, ordered.nodup, ?_, ?_, (settled_underway rfl).2 ⟨fresh, ?_⟩⟩
  · intro n answered
    have made := ordered.made n answered
    simp only [Course.notice]
    split <;> omega
  · intro waiting answered
    simp only [Course.notice] at answered
    split at answered
    · -- a new attempt has a number that no earlier one had
      have made := ordered.made _ answered
      omega
    · next same =>
      refine ordered.unanswered (fun none => same ⟨?_, waiting⟩) answered
      exact (awaited?_of_underway stage).symm.trans none
  · obtain failed | kept := settled
    · exact .inl (Startup.isFailed_step failed e)
    · obtain failed | aside := Startup.step_of_not_received other (s := s)
      · exact .inl failed
      · exact .inr (aside.trans kept)

theorem receive {s : Startup σ φ} {tid : TransactionId} {m : Message} {rest : List Message}
    (ordered : c.Ordered) (stage : c.stage = .underway s) (waits : s.awaited? = some tid)
    (waiting : c.inlet.queue.items = m :: rest) :
    { c with
      stage := .underway (s.step (.opening (.received m))).startup
      inlet := c.inlet.handOut ⟨m, some ⟨c.attempts, tid⟩⟩ { c.inlet.queue with items := rest } :
      Course σ φ }.Ordered := by
  obtain ⟨fresh, settled⟩ := (settled_underway stage).1 ordered.settled
  have unanswered : c.attempts ∉ c.inlet.answers := by
    refine ordered.unanswered ?_
    rw [awaited?_of_underway stage, waits]
    exact Option.some_ne_none tid
  have aside : s.aside = c.inlet.kept :=
    settled.resolve_left fun failed => by
      cases (Startup.awaited?_of_isFailed failed).symm.trans waits
  have whole := ordered.whole.handOut waiting (some ⟨c.attempts, tid⟩)
  obtain ⟨answer, ended, next⟩ | ⟨answer, still, more⟩ := Startup.step_received waits m
  · -- the attempt has its answer, and waits no longer
    have answered : (⟨m, some ⟨c.attempts, tid⟩⟩ : Receipt).answered = some c.attempts := by
      rw [Receipt.answered_of_awaiting, if_pos answer]
    refine ⟨whole, ?_, ?_, fun waiting => absurd ended waiting,
      (settled_underway rfl).2 ⟨fresh, ?_⟩⟩
    · rw [Inlet.answers_handOut, answered]
      refine List.nodup_append.2 ⟨ordered.nodup, List.pairwise_singleton _ _, ?_⟩
      rintro n earlier _ last rfl
      exact unanswered (List.mem_singleton.1 last ▸ earlier)
    · rw [Inlet.answers_handOut, answered]
      intro n made
      obtain earlier | last := List.mem_append.1 made
      · exact ordered.made n earlier
      · exact Nat.le_of_eq (List.mem_singleton.1 last)
    · rw [Inlet.kept_handOut, answered, if_neg (Option.some_ne_none _), List.append_nil]
      exact next.imp_right fun same => same.trans aside
  · -- the message is put aside, and the attempt goes on
    have answered : (⟨m, some ⟨c.attempts, tid⟩⟩ : Receipt).answered = none := by
      rw [Receipt.answered_of_awaiting, answer]
      rfl
    have answers := Inlet.answers_handOut_of_none (i := c.inlet) answered
    refine ⟨whole, ?_, ?_, fun _ => ?_, (settled_underway rfl).2 ⟨fresh, .inr ?_⟩⟩
    · exact (answers _).symm ▸ ordered.nodup
    · exact (answers _).symm ▸ ordered.made
    · exact (answers _).symm ▸ unanswered
    · rw [Inlet.kept_handOut, answered, if_pos rfl, more, aside]

theorem look {s : Startup σ φ} (ordered : c.Ordered) (stage : c.stage = .underway s) :
    (c.look s).Ordered := by
  unfold Course.look
  cases waits : s.awaited? with
  | none => exact ordered
  | some tid =>
    dsimp only
    cases waiting : c.inlet.queue.items with
    | nil =>
      rw [Inlet.take_of_nil waiting]
      cases c.inlet.isServed with
      | true => exact ordered
      | false => exact ordered.notice stage (by simp)
    | cons m rest =>
      rw [Inlet.take_of_cons waiting]
      exact ordered.receive stage waits waiting

theorem enter {s : Startup σ φ} (ordered : c.Ordered) (stage : c.stage = .underway s)
    (now : Nanoseconds) (o : Outbox) : (c.enter s now o).Ordered := by
  obtain ⟨fresh, settled⟩ := (settled_underway stage).1 ordered.settled
  unfold Course.enter
  split
  · next backlog phase =>
    refine ⟨ordered.whole, ordered.nodup, ordered.made, fun waits => absurd rfl waits,
      (settled_running rfl).2 ?_⟩
    have aside : s.aside = backlog := by rw [Startup.aside, phase]
    have kept : s.aside = c.inlet.kept := by
      refine settled.resolve_left ?_
      rintro ⟨cause, failed⟩
      cases failed.symm.trans phase
    rw [fresh]
    exact aside.symm.trans kept
  · exact ordered

theorem iterate {l : MainLoop σ φ} (ordered : c.Ordered) (stage : c.stage = .running l)
    (now : Nanoseconds) (o : Outbox) : (c.iterate l now o).Ordered := by
  have settled := (settled_running stage).1 ordered.settled
  cases backlog : l.backlog with
  | cons m rest =>
    obtain ⟨next, left, iterated⟩ := c.iterate_of_backlog backlog now o
    rw [iterated]
    refine ⟨ordered.whole, ordered.nodup, ordered.made, fun waits => absurd rfl waits,
      (settled_running rfl).2 ?_⟩
    calc c.dispatched ++ [m] ++ next.backlog
        = c.dispatched ++ l.backlog := by rw [left, backlog, List.append_assoc]; rfl
      _ = c.inlet.kept := settled
  | nil =>
    rw [backlog, List.append_nil] at settled
    cases waiting : c.inlet.queue.items with
    | cons m rest =>
      obtain ⟨next, left, iterated⟩ := c.iterate_of_waiting backlog waiting now o
      rw [iterated]
      have answers := Inlet.answers_handOut_of_none (i := c.inlet) (r := ⟨m, none⟩) rfl
      refine ⟨ordered.whole.handOut waiting none, ?_, ?_, fun waits => absurd rfl waits,
        (settled_running rfl).2 ?_⟩
      · exact (answers _).symm ▸ ordered.nodup
      · exact (answers _).symm ▸ ordered.made
      · rw [left, List.append_nil, Inlet.kept_handOut, settled]
        rfl
    | nil =>
      obtain ⟨next, left, iterated⟩ := c.iterate_of_nothing backlog waiting now o
      rw [iterated]
      refine ⟨ordered.whole, ordered.nodup, ordered.made, ?_, ?_⟩
      · cases c.inlet.isServed <;> exact fun waits => absurd rfl waits
      · cases served : c.inlet.isServed with
        | true =>
          refine (settled_running rfl).2 ?_
          rw [left, List.append_nil]
          exact settled
        | false => exact (settled_deserted rfl).2 ⟨settled, waiting, served⟩

theorem leave {l : MainLoop σ φ} (ordered : c.Ordered) (stage : c.stage = .running l) :
    { c with stage := .left l : Course σ φ }.Ordered :=
  ⟨ordered.whole, ordered.nodup, ordered.made, fun waits => absurd rfl waits,
    (settled_left rfl).2 ((settled_running stage).1 ordered.settled)⟩

/-- **The step.** Whatever happens next, the order is kept. -/
theorem act (ordered : c.Ordered) (e : Incident) : (c.act e).Ordered := by
  unfold Course.act
  split
  · exact ordered.deliver _
  · exact ordered.forsake
  · exact ordered
  · next e s other stage => exact ordered.notice stage other
  · next s stage => exact ordered.look stage
  · next now o s stage => exact ordered.enter stage now o
  · next now o l stage => exact ordered.iterate stage now o
  · next l stage => exact ordered.leave stage
  · exact ordered

end Ordered

/-- **The run.** The order is kept in every course. -/
theorem ordered_run (d : DeviceSession σ φ) (capacity : Nat) (incidents : List Incident) :
    ((start d capacity).run incidents).Ordered := by
  induction incidents using List.reverseRecOn with
  | nil => exact ordered_start d capacity
  | append_singleton incidents e ordered =>
    rw [run_append_singleton]
    exact ordered.act e

/-! ### Messages in order -/

/-- The messages that wait for the main loop are those for the dispatcher that it was not handed
yet, in their order. -/
theorem Ordered.forDispatcher_eq {l : MainLoop σ φ} (ordered : c.Ordered)
    (stage : c.stage = .running l) :
    c.inlet.forDispatcher = c.dispatched ++ (l.backlog ++ c.inlet.queue.items) := by
  rw [Inlet.forDispatcher, ← (settled_running stage).1 ordered.settled, List.append_assoc]

theorem Ordered.dispatched_isPrefix (ordered : c.Ordered) :
    c.dispatched <+: c.inlet.forDispatcher := by
  have settled := ordered.settled
  cases stage : c.stage with
  | underway s => exact ((settled_underway stage).1 settled).1 ▸ List.nil_prefix
  | running l => exact ⟨_, (ordered.forDispatcher_eq stage).symm⟩
  | left l =>
    refine ⟨l.backlog ++ c.inlet.queue.items, ?_⟩
    rw [Inlet.forDispatcher, ← (settled_left stage).1 settled, List.append_assoc]
  | deserted l =>
    obtain ⟨all, -, -⟩ := (settled_deserted stage).1 settled
    exact ⟨c.inlet.queue.items, congrArg (· ++ c.inlet.queue.items) all⟩

/-- An iteration handles the first message that waits. -/
theorem handled_eq_head? (i : Inlet) (l : MainLoop σ φ) (now : Nanoseconds) (o : Outbox) :
    (l.iterate (Inlet.take none) now o i).handled = (l.backlog ++ i.queue.items).head? := by
  cases backlog : l.backlog with
  | cons m rest => exact (MainLoop.iterate_of_backlog (Inlet.take none) now o i backlog).1
  | nil =>
    rw [(MainLoop.iterate_of_no_backlog (Inlet.take none) now o i backlog).1]
    cases waiting : i.queue.items with
    | cons m rest => rw [Inlet.take_of_cons waiting]; rfl
    | nil =>
      rw [Inlet.take_of_nil waiting]
      cases i.isServed <;> rfl

/-- **Messages are handled in the order of their arrival, each exactly once.** Nothing is lost in
the inbox (`Inlet.IsWhole`), and no attempt to open the session takes more than one message for its
answer. What was dispatched is, at any time, a beginning of what was delivered without the answers.
An iteration of the main loop dispatches the next message of that, if there is one, and no other;
and once the loop has ended because the worker went away, all of it was dispatched. -/
theorem dispatched_in_order (d : DeviceSession σ φ) (capacity : Nat) (incidents : List Incident) :
    let c := (start d capacity).run incidents
    c.inlet.IsWhole ∧ c.inlet.answers.Nodup ∧ c.dispatched <+: c.inlet.forDispatcher ∧
    (∀ l now o, c.stage = .running l →
      let done := l.iterate (Inlet.take none) now o c.inlet
      done.handled = c.inlet.forDispatcher[c.dispatched.length]? ∧
      (c.act (.iteration now o)).dispatched = c.dispatched ++ done.handled.toList ∧
      done.mainLoop.dispatcher = done.handled.toList.foldl
        (fun d m => (d.dispatch (l.prepare now o).2.1.stamp.1.time m).dispatcher)
        (l.prepare now o).1.dispatcher) ∧
    (∀ l, c.stage = .deserted l →
      c.inlet.isServed = false ∧ c.inlet.queue.items = [] ∧
      c.dispatched = c.inlet.forDispatcher) := by
  intro c
  have ordered : c.Ordered := ordered_run d capacity incidents
  refine ⟨ordered.whole, ordered.nodup, ordered.dispatched_isPrefix, ?_, ?_⟩
  · intro l now o stage
    refine ⟨?_, ?_, l.dispatcher_iterate (Inlet.take none) now o c.inlet⟩
    · rw [handled_eq_head?, ordered.forDispatcher_eq stage,
        List.getElem?_append_right (Nat.le_refl _), Nat.sub_self, List.head?_eq_getElem?]
    · rw [act_iteration stage]
      rfl
  · intro l stage
    obtain ⟨all, none, deserted⟩ := (settled_deserted stage).1 ordered.settled
    refine ⟨deserted, none, ?_⟩
    rw [Inlet.forDispatcher, none, List.append_nil]
    exact all

/-- A device that does nothing by itself. -/
def lamp : DeviceSession Unit Unit :=
  { name := "lamp", uuid := ⟨List.replicate 16 1, rfl⟩, isNew := false, state := .registered
    timing := .standard
    device := ⟨fun s => (s, none), fun s => .done (s, none), fun _ => none⟩
    dispatcher :=
      { state := (), registry := ⟨⟨[], [], [], .unknown⟩, rfl⟩, features := []
        account := ⟨"", ""⟩ } }

/-- The stamp of an attempt. -/
def attemptStamp (n : UInt8) : Stamp := ⟨⟨List.replicate 12 n, rfl⟩, 0⟩

/-- What the relay answers to an attempt. -/
def attemptAnswer (n : UInt8) : Message := ⟨.success, .binding, (attemptStamp n).transactionId, []⟩

/-- A request of the relay. -/
def relayRequest : Message := ⟨.request, .statusRequest, (attemptStamp 9).transactionId, []⟩

/-- The first attempt of the lamp is in vain. A request and the answer to that attempt come
meanwhile; the answer to the second attempt comes with another request behind it, and then the
worker goes away. -/
def lateAnswer : List Incident :=
  let outbox : Outbox := ⟨.empty 9, fun _ => attemptStamp 3, 0⟩
  [.notice .launched, .notice (.attached (.ok ())), .notice (.published (.ok ())),
    .notice (.opening (.sending (attemptStamp 1))), .delivery relayRequest, .look,
    .notice (.opening .timedOut), .delivery (attemptAnswer 1),
    .notice (.opening (.sending (attemptStamp 2))), .look,
    .delivery (attemptAnswer 2), .delivery relayRequest, .look, .desertion, .entry 0 outbox]
    ++ List.replicate 4 (.iteration 0 outbox)

/-- The late answer is dispatched in its turn. Only the answer to the attempt that waits is not. -/
theorem dispatched_in_order_lateAnswer :
    ((start lamp 9).run lateAnswer).inlet.queue.items = [] ∧
      ((start lamp 9).run lateAnswer).dispatched =
        [relayRequest, attemptAnswer 1, relayRequest] := by
  obtain ⟨-, -, -, -, afterwards⟩ := dispatched_in_order lamp 9 lateAnswer
  obtain ⟨l, deserted⟩ : ∃ l, ((start lamp 9).run lateAnswer).stage = .deserted l := ⟨_, rfl⟩
  obtain ⟨-, none, all⟩ := afterwards l deserted
  refine ⟨none, ?_⟩
  rw [all]
  decide +kernel

end Course

end RelayDevice
