import RelayDevice.Proofs.Link.Departure
import RelayDevice.Proofs.Link.Handover

/-!
# When a connection counts as down

A heartbeat keeps one time, and compares it with the clock when it is asked whether the connection
is up. Here that time is read off the history of the heartbeat (`Heartbeat.Event`), whatever was
offered, answered, asked and renewed before.

* `Heartbeat.AnswersOwner` says which answers are for the owner: those that name it, and those that
  name nobody. Who owns the heartbeat is again a matter of the history (`Heartbeat.owner_replay`).
* `Heartbeat.Outdates` says which events make an earlier answer to the owner count no longer: a
  later one, a new connection, and a check that fails.
* `Heartbeat.LastAnswer` is the answer that is left. `Heartbeat.lastAnswer_append_singleton` is what
  one event does to it, `Heartbeat.lastOwnerAnswer_meet` the same for the time that the heartbeat
  keeps, and `Heartbeat.lastOwnerAnswer_replay` the run.

`Heartbeat.silent_iff` is then the verdict on a connection. That a check which fails is itself among
the events that outdate an answer makes the verdict come once (`Heartbeat.silent_once`).
-/

namespace RelayDevice

namespace Heartbeat

variable {h : Heartbeat} {timeout now t : Nanoseconds} {m : Message} {events later : List Event}
  {cause : NetworkError}

/-! ### What a call does to the time of the last answer -/

theorem lastOwnerAnswer_offer {device : Uuid} :
    (h.offer device).2.lastOwnerAnswer = h.lastOwnerAnswer := by
  rw [offer_eq]

theorem lastOwnerAnswer_gate {frame : Bytes} :
    (h.gate frame).2.lastOwnerAnswer = h.lastOwnerAnswer := by
  unfold gate
  split
  · rfl
  · exact lastOwnerAnswer_offer

/-- **An answer to the owner**: a response to a keepalive that names the owner, or that names nobody
at all. Without an owner there are none. -/
def AnswersOwner (owner? : Option Uuid) (m : Message) : Prop :=
  (m.method = .keepalive ∧ (m.messageClass = .success ∨ m.messageClass = .error)) ∧
    ∃ owner, owner? = some owner ∧ (m.Names owner ∨ ∀ device, ¬ m.Names device)

/-- The answers to the owner are those that are credited to it. -/
theorem answersOwner_iff :
    AnswersOwner h.owner m
      ↔ isAnswer m = true ∧ ∃ owner, h.owner = some owner ∧
        (m.deviceId? <|> h.owner) = some owner := by
  rw [AnswersOwner, isAnswer_eq_true_iff]
  refine and_congr_right fun _ => exists_congr fun owner => and_congr_right fun owned => ?_
  simp only [← Message.deviceId?_eq_some_iff_names]
  cases named : m.deviceId? with
  | none => simp [owned]
  | some device => simp

theorem lastOwnerAnswer_acknowledge (answers : AnswersOwner h.owner m) :
    (h.acknowledge now m).2.lastOwnerAnswer = some now := by
  obtain ⟨answer, owner, owned, credited⟩ := answersOwner_iff.1 answers
  rw [acknowledge_of_credited answer credited]
  exact if_pos owned

theorem lastOwnerAnswer_acknowledge_of_not (others : ¬ AnswersOwner h.owner m) :
    (h.acknowledge now m).2.lastOwnerAnswer = h.lastOwnerAnswer := by
  cases answer : isAnswer m with
  | false => rw [acknowledge_of_not_answer answer]
  | true =>
    cases credited : (m.deviceId? <|> h.owner) with
    | none => rw [acknowledge_of_credited_none answer credited]
    | some device =>
      have another : h.owner ≠ some device := fun owned =>
        others (answersOwner_iff.2 ⟨answer, device, owned, credited⟩)
      rw [acknowledge_of_credited answer credited]
      exact if_neg another

theorem checkLiveness_eq_error_iff :
    (h.checkLiveness now).1 = .error cause
      ↔ ∃ last, h.lastOwnerAnswer = some last ∧ last + h.timeout < now ∧
        cause = .silent (Nanoseconds.seconds (now - last)) := by
  unfold checkLiveness
  cases answered : h.lastOwnerAnswer with
  | none => simp
  | some last =>
    have late : h.timeout < now - last ↔ last + h.timeout < now := Nat.lt_sub_iff_add_lt'
    dsimp only
    split
    · next silent => simp [late.1 silent, eq_comm]
    · next steady => simp [mt late.2 steady]

/-- A check forgets the answer if it fails. -/
theorem lastOwnerAnswer_checkLiveness :
    (h.checkLiveness now).2.lastOwnerAnswer
      = if (h.checkLiveness now).1.isOk then h.lastOwnerAnswer else none := by
  unfold checkLiveness
  cases answered : h.lastOwnerAnswer with
  | none => exact (if_pos rfl).symm ▸ answered
  | some last =>
    dsimp only
    split
    · rfl
    · exact answered

/-! ### The last answer of a history -/

/-- The device that owns the heartbeat after a history: the first to have offered a keepalive on the
present connection. -/
def owner? (events : List Event) : Option Uuid := (offered (sinceRenewal events)).head?

theorem owner_replay : ((start timeout).replay events).owner = owner? events := by
  rw [replay_start]
  exact (tracks_after_reset (start timeout) (sinceRenewal events)).owner_eq

theorem timeout_replay : ((start timeout).replay events).timeout = timeout := by
  rw [replay_start]
  exact timeout_after _ _

/-- A check at a time fails. -/
def Fails (timeout : Nanoseconds) (events : List Event) (now : Nanoseconds) : Prop :=
  ∃ cause, (((start timeout).replay events).checkLiveness now).1 = .error cause

/-- **What makes earlier answers count no longer**, when it comes after a history. -/
def Outdates (timeout : Nanoseconds) (events : List Event) : Event → Prop
  | .called (.offer _) | .called (.gate _) => False
  | .called (.acknowledge _ m) => AnswersOwner (owner? events) m
  | .called (.checkLiveness now) => Fails timeout events now
  | .renewed => True

/-- **The last answer to the owner**, with its time: nothing that came after it has outdated it. -/
def LastAnswer (timeout : Nanoseconds) (events : List Event) (t : Nanoseconds) : Prop :=
  ∃ before m later, events = before ++ .called (.acknowledge t m) :: later ∧
    AnswersOwner (owner? before) m ∧
    ∀ between e rest, later = between ++ e :: rest →
      ¬ Outdates timeout (before ++ .called (.acknowledge t m) :: between) e

theorem not_lastAnswer_nil : ¬ LastAnswer timeout [] t := by
  rintro ⟨before, m, later, parts, -⟩
  cases before <;> cases parts

/-- **One more event** is the last answer itself, or leaves the one before as it was. -/
theorem lastAnswer_append_singleton {e : Event} :
    LastAnswer timeout (events ++ [e]) t
      ↔ (∃ m, e = .called (.acknowledge t m) ∧ AnswersOwner (owner? events) m) ∨
        LastAnswer timeout events t ∧ ¬ Outdates timeout events e := by
  constructor
  · rintro ⟨before, m, later, parts, answers, lasts⟩
    obtain rfl | ⟨between, e', rfl⟩ := later.eq_nil_or_concat'
    · obtain ⟨rfl, rfl⟩ := List.append_singleton_inj.1 parts
      exact .inl ⟨m, rfl, answers⟩
    · rw [← List.cons_append, ← List.append_assoc] at parts
      obtain ⟨rfl, rfl⟩ := List.append_singleton_inj.1 parts
      refine .inr ⟨⟨before, m, between, rfl, answers, ?_⟩, lasts between e [] rfl⟩
      rintro between' e' rest rfl
      exact lasts between' e' (rest ++ [e]) (by simp)
  · rintro (⟨m, rfl, answers⟩ | ⟨⟨before, m, later, rfl, answers, lasts⟩, kept⟩)
    · exact ⟨events, m, [], rfl, answers, fun between e rest nothing => by simp at nothing⟩
    · refine ⟨before, m, later ++ [e], by simp, answers, fun between e' rest parts => ?_⟩
      obtain rfl | ⟨rest, e'', rfl⟩ := rest.eq_nil_or_concat'
      · obtain ⟨rfl, rfl⟩ := List.append_singleton_inj.1 parts
        exact kept
      · rw [← List.cons_append, ← List.append_assoc] at parts
        exact lasts between e' rest (List.append_singleton_inj.1 parts).1

/-- **The step.** The time that a heartbeat keeps changes as the last answer does. -/
theorem lastOwnerAnswer_meet (events : List Event) (e : Event) :
    (((start timeout).replay events).meet e).lastOwnerAnswer = some t
      ↔ (∃ m, e = .called (.acknowledge t m) ∧ AnswersOwner (owner? events) m) ∨
        ((start timeout).replay events).lastOwnerAnswer = some t ∧
          ¬ Outdates timeout events e := by
  cases e with
  | renewed => exact iff_of_false nofun (by simp [Outdates])
  | called c =>
    cases c with
    | offer device =>
      change ((_ : Heartbeat).offer device).2.lastOwnerAnswer = _ ↔ _
      rw [lastOwnerAnswer_offer]
      simp [Outdates]
    | gate frame =>
      change ((_ : Heartbeat).gate frame).2.lastOwnerAnswer = _ ↔ _
      rw [lastOwnerAnswer_gate]
      simp [Outdates]
    | acknowledge now m =>
      change ((_ : Heartbeat).acknowledge now m).2.lastOwnerAnswer = _ ↔ _
      by_cases answers : AnswersOwner (owner? events) m
      · rw [lastOwnerAnswer_acknowledge (owner_replay ▸ answers)]
        simp [Outdates, answers]
      · rw [lastOwnerAnswer_acknowledge_of_not (owner_replay ▸ answers)]
        simp [Outdates, answers]
    | checkLiveness now =>
      change ((_ : Heartbeat).checkLiveness now).2.lastOwnerAnswer = _ ↔ _
      rw [lastOwnerAnswer_checkLiveness]
      unfold Outdates Fails
      cases verdict : (((start timeout).replay events).checkLiveness now).1 with
      | error cause => simp [verdict, Except.isOk, Except.toBool]
      | ok u => simp [verdict, Except.isOk, Except.toBool]

/-- **The run.** The one time that is kept stands for the whole history. -/
theorem lastOwnerAnswer_replay (events : List Event) :
    ((start timeout).replay events).lastOwnerAnswer = some t ↔ LastAnswer timeout events t := by
  induction events using List.reverseRecOn with
  | nil => exact iff_of_false nofun not_lastAnswer_nil
  | append_singleton events e ih =>
    rw [lastAnswer_append_singleton, ← ih, replay_append]
    exact lastOwnerAnswer_meet events e

/-! ### The verdict -/

/-- **Silence.** A check fails just when the owner was answered, and the last answer to it that was
not outdated is longer ago than the time limit. It tells how long the owner has been silent. -/
theorem silent_iff (timeout : Nanoseconds) (events : List Event) (now : Nanoseconds)
    (cause : NetworkError) :
    (((start timeout).replay events).checkLiveness now).1 = .error cause
      ↔ ∃ last, LastAnswer timeout events last ∧ last + timeout < now ∧
        cause = .silent (Nanoseconds.seconds (now - last)) := by
  rw [checkLiveness_eq_error_iff, timeout_replay]
  refine exists_congr fun last => and_congr_left fun _ => ?_
  -- the time that is kept is that of the last answer
  exact lastOwnerAnswer_replay events

/-- **Once per outage.** After a check has failed, no other does until the owner is answered. -/
theorem silent_once (failed : Fails timeout events now)
    (unanswered : ∀ between t m rest, later = between ++ .called (.acknowledge t m) :: rest →
      ¬ AnswersOwner (owner? (events ++ .called (.checkLiveness now) :: between)) m)
    (next : Nanoseconds) :
    ¬ Fails timeout (events ++ .called (.checkLiveness now) :: later) next := by
  rintro ⟨cause, fails⟩
  obtain ⟨last, ⟨before, m, after, parts, answers, lasts⟩, -⟩ := (silent_iff _ _ _ _).1 fails
  rcases List.append_eq_append_iff.1 parts with ⟨more, rfl, rest⟩ | ⟨more, rfl, rest⟩
  · cases more with
    | nil => cases rest
    | cons e between =>
      obtain ⟨rfl, rfl⟩ := List.cons.inj rest
      exact unanswered between last m after rfl answers
  · cases more with
    | nil => cases rest
    | cons e between =>
      -- the answer came first, and the check has outdated it
      obtain ⟨rfl, rfl⟩ := List.cons.inj rest
      exact lasts between _ later rfl failed

/-- The oven is answered once. After three minutes and more without another answer a check fails,
and the next one does not. -/
example :
    let answered : List Event :=
      [.called (.offer oven), .called (.acknowledge 0 (keepaliveAnswer oven))]
    let late := Nanoseconds.ofSeconds 181
    (((start defaultTimeout).replay answered).checkLiveness late).1 = .error (.silent 181) ∧
      (((start defaultTimeout).replay (answered ++ [.called (.checkLiveness late)])).checkLiveness
        late).1 = .ok () := by decide

end Heartbeat

end RelayDevice
