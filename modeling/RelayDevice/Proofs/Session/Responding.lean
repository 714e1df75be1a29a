import RelayDevice.Proofs.Session.Dispatching
import RelayDevice.Proofs.Wire.Signing

/-!
# Answers belong to requests

What a device replies is read by a peer that has to find the request again, and that may be a device
itself. `Message.Answers` is what it can rely on: the method and the identifier are those of the
request, and the class is one that needs no answer. All replies go out signed, refusals too, for the
only refusal of the dispatcher has a number that is not one of the open ones.

The two kinds of answer are built in different ways and meet in `Account.reply`, so what is said of
their frames is said once (`Dispatcher.read_of_reply`). The rest is by the ways of a message: only two
of them end in a frame (`Dispatcher.answers_requests_only`). It follows that no exchange goes on by
itself, whatever devices take part in it (`Dispatcher.answer_unanswered`).
-/

namespace RelayDevice

variable {σ φ : Type}

/-- **A message that answers another.** A refusal is an answer to status requests only. -/
structure Message.Answers (answer m : Message) : Prop where
  transactionId : answer.transactionId = m.transactionId
  method : answer.method = m.method
  content : answer.messageClass = .success ∨
    m.method = Method.statusRequest ∧ answer.messageClass = .error ∧
      ∃ reason, answer.errorCode? = some (604, reason)

/-- Answers are responses. -/
theorem Message.Answers.isResponse {answer m : Message} (answers : answer.Answers m) :
    answer.messageClass.isResponse = true := by
  rcases answers.content with success | ⟨-, error, -⟩
  · rw [success]
    rfl
  · rw [error]
    rfl

/-- What is said of a message to be sent can be said of it as it is read. -/
theorem Message.Answers.delivered {answer m : Message} (answers : answer.Answers m)
    (key : Option Bytes) (frame : Bytes) : (answer.delivered key frame).Answers m where
  transactionId := (transactionId_delivered ..).trans answers.transactionId
  method := (method_delivered ..).trans answers.method
  content := by
    rw [messageClass_delivered, errorCode?, attribute?_delivered (by decide)]
    exact answers.content

theorem Account.success_answers (a : Account) (time : UInt32) (m : Message)
    (extra : List Attribute) (username : Option String) :
    (a.success time m extra username).Answers m :=
  ⟨rfl, rfl, .inl rfl⟩

namespace Dispatcher

/-- Values and refusals are both answers. -/
theorem answers_of_statusAnswer {d : Dispatcher σ φ} {time : UInt32} {m answer : Message}
    (status : m.method = Method.statusRequest)
    (decided : d.statusAnswer time m = .ok answer) : answer.Answers m := by
  rw [statusAnswer] at decided
  split at decided
  · obtain ⟨payload, -, rfl⟩ := Outcome.map_eq_ok_iff.1 decided
    exact d.account.success_answers ..
  · next failure _ =>
    cases decided
    -- the number is read back as it was written, since it is less than 800
    have number := Message.errorCode?_of_attribute
      (m := d.account.refusal time m Refusal.notAvailable failure.reason) rfl
    exact ⟨rfl, rfl, .inr ⟨status, rfl, _, number⟩⟩

/-- **What is read of a reply.** -/
theorem read_of_reply {a : Account} {answer m : Message} {frame : Bytes}
    (answers : answer.Answers m) (sent : a.reply answer = .ok (some frame)) :
    ∃ read, Message.decode frame = .ok read ∧ read.Answers m ∧
      Integrity.verify frame a.key = .ok .verified := by
  have signed := Account.reply_eq_ok_iff.1 sent
  obtain ⟨decoded, verified⟩ := Account.read_of_sign signed
  exact ⟨_, decoded, answers.delivered .., verified⟩

/-- Where a request is answered at all. -/
theorem read_of_fate {d : Dispatcher σ φ} {time : UInt32} {m : Message} {done : Dispatched σ φ}
    {runs : List (DevicePart × HandlerRun)} (way : d.Fate time m done runs) {frame : Bytes}
    (sent : done.reply = .ok (some frame)) :
    m.messageClass.isResponse = false ∧
      (m.method = Method.action ∨ m.method = Method.statusRequest) ∧
      ∃ read, Message.decode frame = .ok read ∧ read.Answers m ∧
        Integrity.verify frame d.account.key = .ok .verified := by
  cases way with
  | ignored => cases sent
  | rejected => cases sent
  | failed => cases sent
  | performed request action =>
    exact ⟨request, .inl action, read_of_reply (d.account.success_answers ..) sent⟩
  | asked request status =>
    rw [reply_answerStatus] at sent
    cases decided : d.statusAnswer time m with
    | error e =>
      rw [decided] at sent
      cases sent
    | ok answer =>
      rw [decided] at sent
      exact ⟨request, .inr status, read_of_reply (answers_of_statusAnswer status decided) sent⟩

/-- Of the ways of a message, only one is open to what is no request for the dispatcher. -/
theorem eq_of_fate_of_other {d : Dispatcher σ φ} {time : UInt32} {m : Message}
    {done : Dispatched σ φ} {runs : List (DevicePart × HandlerRun)} (way : d.Fate time m done runs)
    (other : m.messageClass.isResponse = true ∨
      (m.method ≠ Method.action ∧ m.method ≠ Method.statusRequest)) :
    done = ⟨d, .ok none, []⟩ ∧ runs = [] := by
  have unasked (request : m.messageClass.isResponse = false) :
      m.method ≠ Method.action ∧ m.method ≠ Method.statusRequest := by
    refine other.resolve_left fun response => ?_
    rw [request] at response
    cases response
  cases way with
  | ignored => exact ⟨rfl, rfl⟩
  | rejected request action => exact absurd action (unasked request).1
  | performed request action => exact absurd action (unasked request).1
  | failed request action => exact absurd action (unasked request).1
  | asked request status => exact absurd status (unasked request).2

/-- **Answers belong to requests, and are not answered.** On any device, in any state, and for any
message: if a frame is returned, then the message was a request or an indication for an action or for
the status. The frame is read as an answer to it, and is verified under the key of the account. Of a
response, or of a message about anything else, no notice is taken: no handler is run, nothing is
reported or returned, and the device and all its features are as they were. -/
theorem answers_requests_only (d : Dispatcher σ φ) (time : UInt32) (m : Message) :
    (∀ frame, (d.dispatch time m).reply = .ok (some frame) →
      (m.messageClass = .request ∨ m.messageClass = .indication) ∧
      (m.method = Method.action ∨ m.method = Method.statusRequest) ∧
      ∃ answer, Message.decode frame = .ok answer ∧ answer.Answers m ∧
        Integrity.verify frame d.account.key = .ok .verified) ∧
    (m.messageClass = .success ∨ m.messageClass = .error ∨
        (m.method ≠ Method.action ∧ m.method ≠ Method.statusRequest) →
      d.dispatch time m = ⟨d, .ok none, []⟩ ∧ d.runs time m = []) := by
  refine ⟨fun frame sent => ?_, fun other => ?_⟩
  · obtain ⟨request, method, read⟩ := read_of_fate (d.fate time m) sent
    exact ⟨MessageClass.isResponse_eq_false_iff.1 request, method, read⟩
  · refine eq_of_fate_of_other (d.fate time m) ?_
    rcases other with success | error | method
    · exact .inl (success ▸ rfl)
    · exact .inl (error ▸ rfl)
    · exact .inr method

/-- A clock that cannot be read. -/
def stoppedClock : Dispatcher Unit Unit :=
  ⟨(), ⟨⟨[], [], [⟨"now", .timestamp, fun _ => .error (.ofText "stopped")⟩], .unknown⟩,
    by decide +kernel⟩, [], ⟨"u", "k"⟩⟩

/-- What the stopped clock replies to is answered, and what it replies is not. -/
theorem answers_requests_only_stoppedClock :
    ∃ frame answer, (stoppedClock.dispatch 5 statusRequest).reply = .ok (some frame) ∧
      Message.decode frame = .ok answer ∧ answer.Answers statusRequest ∧
      Integrity.verify frame (Utf8.encode "k") = .ok .verified ∧
      stoppedClock.dispatch 6 answer = ⟨stoppedClock, .ok none, []⟩ := by
  have refused : stoppedClock.statusAnswer 5 statusRequest
      = .ok (stoppedClock.account.refusal 5 statusRequest Refusal.notAvailable
          (StatusFailure.reason ⟨"now", .ofText "stopped"⟩)) := rfl
  obtain ⟨frame, sent, -⟩ := reply_of_statusAnswer_eq_ok refused (by decide +kernel)
  -- the reply is an answer to the request
  obtain ⟨told, -⟩ := stoppedClock.answers_requests_only 5 statusRequest
  obtain ⟨-, -, answer, decoded, answers, verified⟩ := told frame sent
  -- and is taken no notice of by whom it is given to
  obtain ⟨-, silent⟩ := stoppedClock.answers_requests_only 6 answer
  have ended := silent (answers.content.imp_right fun ⟨_, error, _⟩ => .inl error)
  exact ⟨frame, answer, sent, decoded, answers, verified, ended.1⟩

/-- **No exchange goes on by itself**: what one device replies, another one does not reply to. -/
theorem answer_unanswered {σ' φ' : Type} {d : Dispatcher σ φ} {time : UInt32} {m : Message}
    {frame : Bytes} (sent : (d.dispatch time m).reply = .ok (some frame))
    (peer : Dispatcher σ' φ') (later : UInt32) :
    ∃ answer, Message.decode frame = .ok answer ∧
      peer.dispatch later answer = ⟨peer, .ok none, []⟩ := by
  obtain ⟨-, -, answer, decoded, answers, -⟩ := read_of_fate (d.fate time m) sent
  exact ⟨answer, decoded, (eq_of_fate_of_other (peer.fate later answer) (.inl answers.isResponse)).1⟩

end Dispatcher

end RelayDevice
