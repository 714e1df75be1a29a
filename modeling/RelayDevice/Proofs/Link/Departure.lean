import RelayDevice.Account
import RelayDevice.Proofs.Link.Run
import RelayDevice.Proofs.Wire.RoundTrip
import RelayDevice.Simulation.Loopback

/-!
# When the owner leaves

The heartbeat of a connection does not learn who is attached, and the worker does not tell it who
leaves. What it learns during a run is its history (`Worker.Moment.history`): each message that
arrives, each frame that is to be sent, each look at the heartbeat and each new connection.
`Worker.Moment.heartbeat_act` is the step, one case for each happening, and
`Worker.Moment.heartbeat_run` the run; attaching and leaving add nothing.

A new connection makes the heartbeat start over, so that only the calls since then count
(`Heartbeat.replay_start`), and what it tells is the record of those calls (`Worker.tracks_run`).
Hence a device is heard (`Worker.Hears`) if it owns the heartbeat or is new to it, also where nobody
is left who owns it: `Worker.hears_someone_unless_owner_left` says in which states someone is heard,
and `Worker.hears_nobody_without_oven` that there are others.
-/

namespace RelayDevice

/-! ### The history of a heartbeat -/

namespace Heartbeat

/-- What becomes of a heartbeat: it is called, or its connection is replaced. -/
inductive Event
  | called (c : Call)
  | renewed
deriving DecidableEq

/-- The heartbeat after an event. -/
def meet (h : Heartbeat) : Event → Heartbeat
  | .called c => (h.call c).2
  | .renewed => h.reset

/-- The heartbeat after several events. -/
def replay (h : Heartbeat) (events : List Event) : Heartbeat := events.foldl meet h

/-- The calls on the present connection, with one more event. -/
def extend (calls : List Call) : Event → List Call
  | .called c => calls ++ [c]
  | .renewed => []

/-- The calls on the present connection. -/
def sinceRenewal (events : List Event) : List Call := events.foldl extend []

theorem replay_append (h : Heartbeat) (before later : List Event) :
    h.replay (before ++ later) = (h.replay before).replay later := List.foldl_append

theorem timeout_call (h : Heartbeat) (c : Call) : (h.call c).2.timeout = h.timeout := by
  have offers (device : Uuid) : (h.offer device).2.timeout = h.timeout := by rw [offer_eq]
  cases c with
  | offer device => exact offers device
  | gate frame =>
    change (h.gate frame).2.timeout = h.timeout
    unfold gate
    split
    · rfl
    · exact offers _
  | acknowledge now m =>
    change (h.acknowledge now m).2.timeout = h.timeout
    cases answer : isAnswer m with
    | false => rw [acknowledge_of_not_answer answer]
    | true =>
      cases credited : (m.deviceId? <|> h.owner) with
      | none => rw [acknowledge_of_credited_none answer credited]
      | some device =>
        rw [acknowledge_of_credited answer credited]
        rfl
  | checkLiveness now =>
    change (h.checkLiveness now).2.timeout = h.timeout
    rw [checkLiveness_eq]

theorem timeout_after (h : Heartbeat) (calls : List Call) :
    (h.after calls).timeout = h.timeout := by
  induction calls generalizing h with
  | nil => rfl
  | cons c calls ih => exact (ih _).trans (timeout_call h c)

/-- **Only the present connection counts.** -/
theorem replay_start (timeout : Nanoseconds) (events : List Event) :
    (start timeout).replay events = (start timeout).after (sinceRenewal events) := by
  induction events using List.reverseRecOn with
  | nil => rfl
  | append_singleton events e ih =>
    have extended : sinceRenewal (events ++ [e]) = extend (sinceRenewal events) e :=
      List.foldl_append
    rw [replay_append, ih, extended]
    cases e with
    | called c => exact (after_append_singleton _ _ _).symm
    | renewed =>
      -- all that a reset keeps is the time limit, which no call changes
      exact congrArg start (timeout_after _ _)

end Heartbeat

/-! ### What a worker does to its heartbeat -/

namespace Worker

variable {τ : Type} {w : Worker} {t : τ} {now : Nanoseconds} {frame : Bytes}

/-- What an operation of the transport means to the heartbeat. -/
def renewal {α : Type} (s : Served τ α) : List Heartbeat.Event :=
  if s.renewed then [.renewed] else []

theorem heartbeat_renew {α : Type} (s : Served τ α) :
    (w.renew s).heartbeat = w.heartbeat.replay (renewal s) := by
  unfold renew renewal
  split <;> rfl

/-- What the arrival of a frame means to the heartbeat. -/
def arrival (now : Nanoseconds) (frame : Bytes) : List Heartbeat.Event :=
  match Message.decode frame with
  | .error _ => []
  | .ok m => [.called (.acknowledge now m)]

theorem heartbeat_route :
    (w.route now frame).1.heartbeat = w.heartbeat.replay (arrival now frame) := by
  unfold arrival
  cases decoded : Message.decode frame with
  | error e =>
    rw [route, decoded]
    rfl
  | ok m =>
    change _ = (w.heartbeat.acknowledge now m).2
    cases answer : Heartbeat.isAnswer m with
    | true => rw [route_of_answer decoded answer]
    | false =>
      rw [route_of_not_answer decoded answer, Heartbeat.acknowledge_of_not_answer answer]
      rfl

variable (T : Transport τ)

/-- What a poll means to the heartbeat. -/
def pollEvents (now : Nanoseconds) (t : τ) : List Heartbeat.Event :=
  renewal (T.receive t) ++
    match (T.receive t).result with
    | .ok (some frame) => arrival now frame
    | .ok none | .error _ => []

theorem heartbeat_poll :
    (poll T now w t).1.heartbeat = w.heartbeat.replay (pollEvents T now t) := by
  unfold poll pollEvents
  rw [Heartbeat.replay_append, ← heartbeat_renew]
  dsimp only
  cases (T.receive t).result with
  | error e => rfl
  | ok received =>
    cases received with
    | none => rfl
    | some frame => exact heartbeat_route

/-- What a frame that is to be sent means to the heartbeat. -/
def sendEvents (frame : Bytes) (h : Heartbeat) (t : τ) : List Heartbeat.Event :=
  .called (.gate frame) :: if (h.gate frame).1 then renewal (T.send t frame) else []

theorem heartbeat_sendOne :
    (sendOne T frame w t).1.heartbeat
      = w.heartbeat.replay (sendEvents T frame w.heartbeat t) := by
  change _ = (w.heartbeat.gate frame).2.replay _
  unfold sendOne
  rcases verdict : w.heartbeat.gate frame with ⟨passes, heartbeat⟩
  cases passes with
  | false => rfl
  | true =>
    dsimp only
    rw [if_pos rfl]
    split
    · rw [heartbeat_renew]
    · rw [heartbeat_renew]

/-- What a look at the heartbeat means to it. -/
def watchEvents (now : Nanoseconds) (h : Heartbeat) (t : τ) : List Heartbeat.Event :=
  .called (.checkLiveness now) ::
    if (h.checkLiveness now).1.isOk then [] else renewal (T.reconnect t)

theorem heartbeat_watch :
    (watch T now w t).1.heartbeat
      = w.heartbeat.replay (watchEvents T now w.heartbeat t) := by
  change _ = (w.heartbeat.checkLiveness now).2.replay _
  unfold watch
  rcases verdict : w.heartbeat.checkLiveness now with ⟨e | _, heartbeat⟩
  · dsimp only
    rw [if_neg (by nofun)]
    split
    · rw [heartbeat_renew]
    · rw [heartbeat_renew]
  · rfl

namespace Moment

/-- What the next frame that is to be sent means to the heartbeat. -/
def sendOldestEvents (x : Moment τ) : List Heartbeat.Event :=
  match x.worker.outbound.items with
  | [] => []
  | frame :: _ => sendEvents T frame x.worker.heartbeat x.link

/-- What a step of the worker means to the heartbeat. -/
def workEvents (now : Nanoseconds) (x : Moment τ) : List Heartbeat.Event :=
  match x.stage with
  | .resting => []
  | .receiving => if x.worker.cancelled then [] else pollEvents T now x.link
  | .sending => if x.worker.cancelled then [] else x.sendOldestEvents T
  | .watching =>
    if x.worker.cancelled then [.called (.checkLiveness now)]
    else watchEvents T now x.worker.heartbeat x.link
  | .clearing => x.sendOldestEvents T

/-- What the heartbeat is told of by a happening. -/
def events (x : Moment τ) : Happening τ → List Heartbeat.Event
  | .work now => x.workEvents T now
  | _ => []

/-- The history of the heartbeat. -/
def history (x : Moment τ) : List (Happening τ) → List Heartbeat.Event
  | [] => []
  | e :: happenings => x.events T e ++ (x.act T e).history happenings

theorem heartbeat_begin (x : Moment τ) : x.begin.worker.heartbeat = x.worker.heartbeat := by
  have applied : x.worker.applyCommands.heartbeat = x.worker.heartbeat := by rw [applyCommands_eq]
  unfold begin
  split
  · rfl
  · split
    · rfl
    · dsimp only
      split <;> exact applied

theorem heartbeat_sendOldest (x otherwise : Moment τ)
    (kept : otherwise.worker.heartbeat = x.worker.heartbeat) :
    ((x.sendOldest T).getD otherwise).worker.heartbeat
      = x.worker.heartbeat.replay (x.sendOldestEvents T) := by
  unfold sendOldest sendOldestEvents BoundedQueue.pop
  cases x.worker.outbound.items with
  | nil => exact kept
  | cons frame frames => exact heartbeat_sendOne T

theorem heartbeat_work (now : Nanoseconds) (x : Moment τ) :
    (x.work T now).worker.heartbeat = x.worker.heartbeat.replay (x.workEvents T now) := by
  unfold work workEvents
  cases x.stage with
  | resting => exact heartbeat_begin x
  | receiving =>
    dsimp only
    split
    · rfl
    · exact heartbeat_poll T
  | sending =>
    dsimp only
    split
    · rfl
    · exact heartbeat_sendOldest T x _ rfl
  | watching =>
    dsimp only
    split
    · rfl
    · exact heartbeat_watch T
  | clearing =>
    refine heartbeat_sendOldest T x _ ?_
    unfold close
    split <;> rfl

theorem heartbeat_change (x : Moment τ) {changed : Except NetworkError Worker}
    (kept : ∀ w, changed = .ok w → w.heartbeat = x.worker.heartbeat) :
    (x.change changed).worker.heartbeat = x.worker.heartbeat := by
  cases outcome : changed with
  | error e => rfl
  | ok w => exact kept w outcome

/-- Whatever devices do, the heartbeat learns of it only from the worker. -/
theorem heartbeat_act (x : Moment τ) (e : Happening τ) :
    (x.act T e).worker.heartbeat = x.worker.heartbeat.replay (x.events T e) := by
  cases e with
  | attach device key =>
    refine heartbeat_change x fun w attached => ?_
    unfold attach at attached
    split at attached
    · cases attached
    · cases attached
      rfl
  | detach device =>
    change (x.worker.detach device).heartbeat = _
    unfold detach
    split <;> rfl
  | queue frame =>
    refine heartbeat_change x fun w queued => ?_
    unfold queue at queued
    split at queued
    · cases queued
      rfl
    · cases queued
    · cases queued
  | read device =>
    change (x.worker.read device).2.heartbeat = _
    unfold read
    split
    · split <;> rfl
    · split
      · split <;> rfl
      · rfl
  | closeInbox device => rfl
  | shutdown => rfl
  | outside change => rfl
  | giveUp =>
    change x.giveUp.worker.heartbeat = _
    unfold giveUp
    split <;> rfl
  | work now => exact heartbeat_work T now x

/-- **The run.** The heartbeat after any happenings is what its history has made of it. -/
theorem heartbeat_run (x : Moment τ) (happenings : List (Happening τ)) :
    (x.run T happenings).worker.heartbeat
      = x.worker.heartbeat.replay (x.history T happenings) := by
  induction happenings generalizing x with
  | nil => rfl
  | cons e happenings ih =>
    rw [run_cons, history, ih, heartbeat_act, Heartbeat.replay_append]

end Moment

end Worker

/-! ### Who is heard -/

/-- What a device sends as its keepalive is the keepalive request of that device. -/
theorem Account.keepaliveOf?_frame {a : Account} {s : Stamp} {device : Uuid} {frame : Bytes}
    (written : a.frame s device .keepalive = .ok frame) :
    Heartbeat.keepaliveOf? frame = some device := by
  obtain ⟨fits, rfl⟩ := Message.frame_of_encode written
  have parsed : Header.parse ((a.request s device .keepalive).frame (some a.key))
      = .ok ((a.request s device .keepalive).header (some a.key)) := Header.parse_toBytes_append _ _
  rw [Heartbeat.keepaliveOf?, parsed, Message.decode_frame fits]
  -- the device is the third to be named, behind the account and the time
  exact Uuid.ofBytes?_octets device

/-- Every device can send one. -/
theorem Heartbeat.exists_keepaliveOf?_eq (device : Uuid) :
    ∃ frame, keepaliveOf? frame = some device := by
  let a : Account := ⟨"", ""⟩
  -- no name, four octets of time, sixteen of the device, and the tag
  have fits : (a.request default device .keepalive).bodyLength (some a.key) ≤ 65535 := by
    change (4 + Bytes.padded 0) + ((4 + Bytes.padded 4)
      + ((4 + Bytes.padded device.octets.length) + 0)) + 24 ≤ 65535
    rw [device.length_eq]
    decide
  exact ⟨_, Account.keepaliveOf?_frame (Message.encode_eq_ok fits)⟩

namespace Worker

variable {τ : Type} {w : Worker} {device : Uuid}

/-- The next keepalive request of a device would be sent. -/
def Hears (w : Worker) (device : Uuid) : Prop :=
  ∀ frame, Heartbeat.keepaliveOf? frame = some device → (w.heartbeat.gate frame).1 = true

/-- Whether a keepalive request is sent depends only on whose it is. -/
theorem hears_iff : w.Hears device ↔ (w.heartbeat.offer device).1 = true := by
  have gate_eq {frame : Bytes} (named : Heartbeat.keepaliveOf? frame = some device) :
      w.heartbeat.gate frame = w.heartbeat.offer device :=
    Heartbeat.call_eq_offer (c := .gate frame) named
  constructor
  · intro hears
    -- there is a keepalive request to ask for
    obtain ⟨frame, named⟩ := Heartbeat.exists_keepaliveOf?_eq device
    rw [← gate_eq named]
    exact hears frame named
  · intro passes frame named
    rw [gate_eq named]
    exact passes

/-- A worker hears its owner, and each device that is new to it. -/
theorem hears_iff_of_tracks {calls : List Heartbeat.Call} (t : w.heartbeat.Tracks calls) :
    w.Hears device
      ↔ Heartbeat.offered calls = [] ∨ w.heartbeat.owner = some device
        ∨ device ∉ Heartbeat.offered calls ∧ device ∉ Heartbeat.answered calls := by
  rw [hears_iff, Heartbeat.offer_fst_iff, ← Bool.not_eq_true, t.hasSeen_iff, not_or]
  refine or_congr_left ?_
  rw [t.owner_eq, List.head?_eq_none_iff]

theorem isAttached_iff : w.isAttached device = true ↔ device ∈ w.attached.map Prod.fst := by
  rw [isAttached, attachment?, List.lookup_isSome_iff, List.mem_map]
  refine exists_congr fun entry => and_congr_right' ?_
  rw [beq_iff_eq, eq_comm]

/-- **The record of a run.** What the heartbeat tells of the present connection. -/
theorem tracks_run (T : Transport τ) (timeout : Nanoseconds) (sizes : QueueSizes) (t : τ)
    (happenings : List (Happening τ)) :
    ((Moment.start timeout sizes t).run T happenings).worker.heartbeat.Tracks
      (Heartbeat.sinceRenewal ((Moment.start timeout sizes t).history T happenings)) := by
  rw [Moment.heartbeat_run]
  change ((Heartbeat.start timeout).replay _).Tracks _
  rw [Heartbeat.replay_start]
  exact Heartbeat.tracks_after_reset (Heartbeat.start timeout) _

/-- **When the owner leaves.** Some attached device is heard where no keepalive was offered on the
present connection, where the owner is attached, and where a device is attached that has neither
offered a keepalive nor been named by an answer. Where the owner has left and each device that is
attached has offered a keepalive, all of them are held back. -/
theorem hears_someone_unless_owner_left (T : Transport τ) (timeout : Nanoseconds)
    (sizes : QueueSizes) (t : τ) (happenings : List (Happening τ)) :
    let w := ((Moment.start timeout sizes t).run T happenings).worker
    let calls := Heartbeat.sinceRenewal ((Moment.start timeout sizes t).history T happenings)
    (w.attached ≠ [] →
      (Heartbeat.offered calls = [] ∨
        (∃ owner, w.heartbeat.owner = some owner ∧ w.isAttached owner = true) ∨
        ∃ device, w.isAttached device = true ∧
          device ∉ Heartbeat.offered calls ∧ device ∉ Heartbeat.answered calls) →
      ∃ device, w.isAttached device = true ∧ w.Hears device) ∧
    ∀ owner, w.heartbeat.owner = some owner → w.isAttached owner = false →
      (∀ device, w.isAttached device = true → device ∈ Heartbeat.offered calls) →
      ∀ device, w.isAttached device = true →
        ∀ frame, Heartbeat.keepaliveOf? frame = some device →
          (w.heartbeat.gate frame).1 = false := by
  intro w calls
  have record : w.heartbeat.Tracks calls := tracks_run T timeout sizes t happenings
  constructor
  · rintro occupied (silent | ⟨owner, owned, present⟩ | ⟨device, present, unheard⟩)
    · obtain ⟨⟨device, a⟩, among⟩ := List.exists_mem_of_ne_nil _ occupied
      have present : w.isAttached device = true :=
        isAttached_iff.2 (List.mem_map.2 ⟨_, among, rfl⟩)
      exact ⟨device, present, (hears_iff_of_tracks record).2 (.inl silent)⟩
    · exact ⟨owner, present, (hears_iff_of_tracks record).2 (.inr (.inl owned))⟩
    · exact ⟨device, present, (hears_iff_of_tracks record).2 (.inr (.inr unheard))⟩
  · intro owner owned absent all device present frame named
    have offers : (Heartbeat.Call.gate frame).offers? = some device := named
    have heldBack : ¬ w.Hears device := by
      rw [hears_iff_of_tracks record]
      rintro (silent | own | ⟨unheard, -⟩)
      · exact List.not_mem_nil (silent ▸ all device present)
      · -- the owner is not attached
        obtain rfl := Option.some.inj (owned.symm.trans own)
        exact Bool.false_ne_true (absent.symm.trans present)
      · exact unheard (all device present)
    rw [hears_iff, ← Heartbeat.call_eq_offer offers] at heldBack
    exact Bool.not_eq_true _ ▸ heldBack

/-- Two devices attach and offer a keepalive each, the oven first, and the worker does a pass. -/
def ovenAndKettle : List (Happening Loopback) :=
  [.attach Heartbeat.oven [0x6B], .attach Heartbeat.kettle [0x6B],
    .queue (Heartbeat.keepaliveFrame Heartbeat.oven),
    .queue (Heartbeat.keepaliveFrame Heartbeat.kettle)] ++ List.replicate 6 (.work 0)

/-- Then the oven leaves, which the worker takes up in its next pass. -/
def ovenLeft : List (Happening Loopback) :=
  ovenAndKettle ++ [.detach Heartbeat.oven, .work 0]

/-- A worker on a transport in memory. -/
def memoryWorker : Moment Loopback := .start Heartbeat.defaultTimeout ⟨64, 256⟩ .start

theorem eq_kettle_of_isAttached
    (present : (memoryWorker.run Loopback.transport ovenLeft).worker.isAttached device = true) :
    device = Heartbeat.kettle := by
  have attached : (memoryWorker.run Loopback.transport ovenLeft).worker.attached.map Prod.fst
      = [Heartbeat.kettle] := by decide +kernel
  rw [isAttached_iff, attached] at present
  exact List.mem_singleton.1 present

theorem hears_someone_beside_oven :
    (∃ device, (memoryWorker.run Loopback.transport ovenAndKettle).worker.isAttached device = true ∧
      (memoryWorker.run Loopback.transport ovenAndKettle).worker.Hears device) ∧
    ((memoryWorker.run Loopback.transport ovenLeft).worker.heartbeat.gate
      (Heartbeat.keepaliveFrame Heartbeat.kettle)).1 = false := by
  constructor
  · refine (hears_someone_unless_owner_left Loopback.transport Heartbeat.defaultTimeout ⟨64, 256⟩
      .start ovenAndKettle).1 (by decide +kernel) (.inr (.inl ⟨Heartbeat.oven, ?_, ?_⟩))
    · decide +kernel
    · decide +kernel
  · refine (hears_someone_unless_owner_left Loopback.transport Heartbeat.defaultTimeout ⟨64, 256⟩
      .start ovenLeft).2 Heartbeat.oven (by decide +kernel) (by decide +kernel) ?_ Heartbeat.kettle
      (by decide +kernel) _ (by decide +kernel)
    intro device present
    rw [eq_kettle_of_isAttached present]
    decide +kernel

/-- **Nobody is heard.** The oven owned the heartbeat and has left; the kettle is attached, and its
keepalives are held back. -/
theorem hears_nobody_without_oven :
    (memoryWorker.run Loopback.transport ovenLeft).worker.attached ≠ [] ∧
      ¬ ∃ device, (memoryWorker.run Loopback.transport ovenLeft).worker.isAttached device = true ∧
        (memoryWorker.run Loopback.transport ovenLeft).worker.Hears device := by
  refine ⟨by decide +kernel, ?_⟩
  rintro ⟨device, present, hears⟩
  obtain rfl := eq_kettle_of_isAttached present
  have passes := hears (Heartbeat.keepaliveFrame Heartbeat.kettle) (by decide +kernel)
  have heldBack : ((memoryWorker.run Loopback.transport ovenLeft).worker.heartbeat.gate
      (Heartbeat.keepaliveFrame Heartbeat.kettle)).1 = false := by decide +kernel
  exact Bool.false_ne_true (heldBack.symm.trans passes)

end Worker

end RelayDevice
