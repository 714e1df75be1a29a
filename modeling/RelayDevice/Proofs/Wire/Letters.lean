import RelayDevice.Proofs.Outcome
import RelayDevice.Proofs.Wire.Signing

/-!
# What an account writes

An account has several ways to write a frame: for a request of a device, for the registration of a
new one, and for the answers to a request. `Letter` lists them, and `Account.write` writes each by
the function that is made for it.

All of them come down to one: a message is encoded, with the key of the account unless the letter is
an open refusal (`Account.exists_draft`). What a reader makes of the frame is then settled by what
is known of encoded messages. The attributes that others supply, in a request or as extra content of an
answer, matter in one place only: an open refusal repeats none of them. Where there is a key, an
authentication attribute among them is left out when the frame is written.

`Account.sealed_unless_open` says both for every letter.
-/

namespace RelayDevice

/-- Something that an account can write. -/
inductive Letter
  /-- A request on behalf of a device. -/
  | request (s : Stamp) (device : Uuid) (r : DeviceRequest)
  /-- The request that opens a session; its identifier is handed back. -/
  | opening (s : Stamp) (device : Uuid) (name : Option String)
  /-- The request that registers a device; its identifier is handed back. -/
  | registration (s : Stamp) (name : String)
  | success (time : UInt32) (asked : Message) (extra : List Attribute) (username : Option String)
  | refusal (time : UInt32) (asked : Message) (code : UInt16) (reason : String)
  | address (time : UInt32) (asked : Message) (client : PeerAddress) (device : Option Uuid)

namespace Letter

/-- The request that a letter answers. -/
def answered? : Letter → Option Message
  | .success _ asked _ _ | .refusal _ asked _ _ | .address _ asked _ _ => some asked
  | .request _ _ _ | .opening _ _ _ | .registration _ _ => none

/-- Whether a letter is a refusal with a number from 400 to 499. -/
def isOpen : Letter → Bool
  | .refusal _ _ code _ => code.toNat / 100 == 4
  | .request _ _ _ | .opening _ _ _ | .registration _ _ | .success _ _ _ _
  | .address _ _ _ _ => false

end Letter

namespace Account

/-- Writes a letter. With the frame comes the identifier that is handed back, if one is. -/
def write (a : Account) : Letter → Except DeviceError (Option TransactionId × Bytes)
  | .request s device r => ((a.frame s device r).map (none, ·)).mapError .framing
  | .opening s device name =>
    ((a.startSession s device name).map fun (tid, frame) => (some tid, frame)).mapError .framing
  | .registration s name =>
    ((a.registerDevice s name).map fun (tid, frame) => (some tid, frame)).mapError .framing
  | .success time request extra username =>
    ((a.successResponse time request extra username).map (none, ·)).mapError .framing
  | .refusal time request code reason =>
    ((a.errorResponse time request code reason).map (none, ·)).mapError .framing
  | .address time request client device =>
    (a.addressResponse time request client device).map (none, ·)

/-- The key that a letter is encoded with. -/
def keyFor (a : Account) (l : Letter) : Option Bytes := if l.isOpen then none else some a.key

/-! ### The message of a letter -/

/-- What a letter was before it was encoded: a message that fits what the letter answers and the
identifier that was handed back. An open refusal names nobody. -/
structure IsDraft (l : Letter) (tid : Option TransactionId) (m : Message) : Prop where
  handedBack : ∀ t, tid = some t → m.transactionId = t
  answers : ∀ r, l.answered? = some r → m.transactionId = r.transactionId ∧ m.method = r.method
  unnamed : l.isOpen = true →
    m.attribute? .messageIntegrity = none ∧ m.attribute? .username = none

section Draft

variable {l : Letter} {tid : Option TransactionId} {m : Message}

theorem IsDraft.of_unanswering (unanswering : l.answered? = none) (closed : l.isOpen = false)
    (handedBack : ∀ t, tid = some t → m.transactionId = t) : IsDraft l tid m where
  handedBack := handedBack
  answers r answered := by cases unanswering.symm.trans answered
  unnamed isOpen := by cases closed.symm.trans isOpen

theorem IsDraft.of_answering {r : Message} (answering : l.answered? = some r)
    (transactionId : m.transactionId = r.transactionId) (method : m.method = r.method)
    (unnamed : l.isOpen = true →
      m.attribute? .messageIntegrity = none ∧ m.attribute? .username = none) :
    IsDraft l none m where
  handedBack t handed := by cases handed
  answers r' answered := by
    obtain rfl := Option.some.inj (answering.symm.trans answered)
    exact ⟨transactionId, method⟩
  unnamed := unnamed

end Draft

/-- **Every letter is an encoded message.** -/
theorem exists_draft {a : Account} {l : Letter} {tid : Option TransactionId} {frame : Bytes}
    (written : a.write l = .ok (tid, frame)) :
    ∃ m : Message, IsDraft l tid m ∧ m.encode (a.keyFor l) = .ok frame := by
  cases l with
  | request s device r =>
    obtain ⟨f, signed, same⟩ := Outcome.map_eq_ok_iff.1 (Outcome.mapError_eq_ok_iff.1 written)
    obtain ⟨rfl, rfl⟩ := Prod.mk.inj same
    refine ⟨a.request s device r, .of_unanswering rfl rfl ?_, signed⟩
    intro t handed
    cases handed
  | opening s device name =>
    obtain ⟨_, opened, same⟩ := Outcome.map_eq_ok_iff.1 (Outcome.mapError_eq_ok_iff.1 written)
    obtain ⟨f, signed, rfl⟩ := Outcome.map_eq_ok_iff.1 opened
    obtain ⟨rfl, rfl⟩ := Prod.mk.inj same
    refine ⟨a.request s device (.startSession name), .of_unanswering rfl rfl ?_, signed⟩
    intro t handed
    exact Option.some.inj handed
  | registration s name =>
    obtain ⟨_, registered, same⟩ := Outcome.map_eq_ok_iff.1 (Outcome.mapError_eq_ok_iff.1 written)
    obtain ⟨f, signed, rfl⟩ := Outcome.map_eq_ok_iff.1 registered
    obtain ⟨rfl, rfl⟩ := Prod.mk.inj same
    refine ⟨_, .of_unanswering rfl rfl ?_, signed⟩
    intro t handed
    exact Option.some.inj handed
  | success time request extra username =>
    obtain ⟨f, signed, same⟩ := Outcome.map_eq_ok_iff.1 (Outcome.mapError_eq_ok_iff.1 written)
    obtain ⟨rfl, rfl⟩ := Prod.mk.inj same
    refine ⟨a.success time request extra username, .of_answering rfl rfl rfl ?_, signed⟩
    intro isOpen
    exact absurd isOpen Bool.false_ne_true
  | refusal time request code reason =>
    obtain ⟨f, answered, same⟩ := Outcome.map_eq_ok_iff.1 (Outcome.mapError_eq_ok_iff.1 written)
    obtain ⟨rfl, rfl⟩ := Prod.mk.inj same
    cases unsigned : isOpenRefusal code with
    | false =>
      rw [errorResponse_eq unsigned] at answered
      have key : a.keyFor (.refusal time request code reason) = some a.key := by
        rw [keyFor, Letter.isOpen, if_neg]
        exact ne_true_of_eq_false unsigned
      refine ⟨a.refusal time request code reason, .of_answering rfl rfl rfl ?_, key ▸ answered⟩
      intro isOpen
      exact absurd isOpen (ne_true_of_eq_false unsigned)
    | true =>
      have key : a.keyFor (.refusal time request code reason) = none := if_pos unsigned
      rw [errorResponse, unsigned, if_pos rfl] at answered
      refine ⟨_, ?_, key ▸ answered⟩
      refine .of_answering rfl rfl rfl ?_
      -- its three attributes are the number, the clock and the expiry
      intro _
      exact ⟨rfl, rfl⟩
  | address time request client device =>
    obtain ⟨f, answered, same⟩ := Outcome.map_eq_ok_iff.1 written
    obtain ⟨rfl, rfl⟩ := Prod.mk.inj same
    obtain ⟨value, -, signed⟩ := Outcome.bind_eq_ok_iff.1 answered
    refine ⟨_, ?_, Outcome.mapError_eq_ok_iff.1 signed⟩
    refine .of_answering rfl rfl rfl ?_
    intro isOpen
    exact absurd isOpen Bool.false_ne_true

end Account

/-! ### Reading it -/

/-- A frame whose check ends well is read as it would be without a check. -/
theorem Message.decodeVerified_of_verify {frame key : Bytes} {m : Message} {i : Integrity}
    (read : decode frame = .ok m) (checked : Integrity.verify frame key = .ok i) :
    decodeVerified frame key = .ok m := by
  rw [decodeVerified, read, checked]
  rfl

/-- A frame that was encoded without a key from a message without a tag carries none. -/
theorem Integrity.verify_of_encode_none {m : Message} {frame : Bytes} (key : Bytes)
    (written : m.encode none = .ok frame) (untagged : m.attribute? .messageIntegrity = none) :
    verify frame key = .ok .absent := by
  have read : Message.decode frame = .ok m := Message.decode_encoded written
  have nothing : m.hasAttribute .messageIntegrity = false := by
    rw [Message.hasAttribute, untagged]
    rfl
  exact verify_of_locate_none key ((locate_eq_none_iff read).2 nothing)

namespace Account

/-- **Sealed unless an open refusal.** Whatever an account writes is read and accepted under its
key. The frame carries a tag and the tag is right, except that an open refusal has neither tag nor
username. An answer bears the identifier and the method of its request, and the identifier that is
handed back with a frame is that of the frame. -/
theorem sealed_unless_open (a : Account) (l : Letter) (tid : Option TransactionId) (frame : Bytes)
    (written : a.write l = .ok (tid, frame)) :
    ∃ m : Message, Message.decodeVerified frame a.key = .ok m ∧
      Integrity.verify frame a.key = .ok (if l.isOpen then .absent else .verified) ∧
      (l.isOpen = true →
        m.hasAttribute .messageIntegrity = false ∧ m.hasAttribute .username = false) ∧
      (∀ r, l.answered? = some r → m.transactionId = r.transactionId ∧ m.method = r.method) ∧
      ∀ t, tid = some t → m.transactionId = t := by
  obtain ⟨m, draft, encoded⟩ := exists_draft written
  cases isOpen : l.isOpen with
  | false =>
    have signed : a.sign m = .ok frame := by
      rw [keyFor, isOpen] at encoded
      exact encoded
    obtain ⟨read, verified⟩ := read_of_sign signed
    refine ⟨m.delivered (some a.key) frame, Message.decodeVerified_of_verify read verified,
      verified, nofun, ?_, ?_⟩
    · intro r answered
      rw [Message.transactionId_delivered, Message.method_delivered]
      exact draft.answers r answered
    · intro t handed
      rw [Message.transactionId_delivered]
      exact draft.handedBack t handed
  | true =>
    have plain : m.encode none = .ok frame := by
      rw [keyFor, isOpen] at encoded
      exact encoded
    obtain ⟨untagged, unnamed⟩ := draft.unnamed isOpen
    have absent := Integrity.verify_of_encode_none a.key plain untagged
    have read : Message.decode frame = .ok m := Message.decode_encoded plain
    refine ⟨m, Message.decodeVerified_of_verify read absent, absent, ?_, draft.answers,
      draft.handedBack⟩
    intro _
    rw [Message.hasAttribute, Message.hasAttribute, untagged, unnamed]
    exact ⟨rfl, rfl⟩

/-- A request that bears a tag of three octets and names somebody. -/
def taggedRequest : Message :=
  ⟨.request, .action, .zero, [⟨.messageIntegrity, [1, 2, 3]⟩, ⟨.username, [0x78]⟩]⟩

/-- An account of a single letter, with a key of one. -/
def shortAccount : Account := ⟨"u", "k"⟩

/-- Its answer, with the same attributes as extra content. -/
def taggedAnswer : Letter := .success 7 taggedRequest taggedRequest.attributes none

/-- Its refusal. -/
def openRefusal : Letter := .refusal 7 taggedRequest 404 "gone"

/-- The request and the extra content bear a wrong tag and a name. The answer is sealed all the
same, and the refusal has neither tag nor name. -/
theorem sealed_unless_open_taggedRequest : ∃ tagged plain : Bytes,
    shortAccount.write taggedAnswer = .ok (none, tagged) ∧
      Integrity.verify tagged shortAccount.key = .ok .verified ∧
      shortAccount.write openRefusal = .ok (none, plain) ∧
      Integrity.verify plain shortAccount.key = .ok .absent := by
  have fits : (shortAccount.success 7 taggedRequest taggedRequest.attributes none).bodyLength
      (some shortAccount.key) ≤ 65535 := by decide +kernel
  obtain ⟨tagged, signed, -⟩ := sign_eq_ok fits
  have answered : shortAccount.write taggedAnswer = .ok (none, tagged) := by
    rw [taggedAnswer, write, successResponse_eq, signed]
    rfl
  have refused : ∃ plain, shortAccount.write openRefusal = .ok (none, plain) := ⟨_, rfl⟩
  obtain ⟨plain, refused⟩ := refused
  obtain ⟨_, -, verified, -⟩ := sealed_unless_open shortAccount taggedAnswer none tagged answered
  obtain ⟨_, -, absent, -⟩ := sealed_unless_open shortAccount openRefusal none plain refused
  exact ⟨tagged, plain, answered, verified, refused, absent⟩

end Account

end RelayDevice
