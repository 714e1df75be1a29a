import Mathlib.Data.List.DropRight
import RelayDevice.Account
import RelayDevice.Proofs.Wire.RoundTrip

/-!
# Answers as they are read

An account answers a request by a message that it signs. `Account.success` and `Account.refusal` are
these messages before they are signed. Signing replaces the authentication attributes and leaves
everything else (`Message.attribute?_delivered`), so what an answer says is what its message says.

The reason of a refusal is padded with zeros, which are characters of the text that is read until
they are trimmed. `Message.errorCode?_of_attribute` says what becomes of number and reason on the
way: the number survives below 800, the reason unless it ends in zeros itself.
-/

namespace RelayDevice

/-! ### Reading a written frame -/

namespace Message

theorem decode_encoded {m : Message} {key : Option Bytes} {frame : Bytes}
    (written : m.encode key = .ok frame) : decode frame = .ok (m.delivered key frame) := by
  obtain ⟨fits, rfl⟩ := frame_of_encode written
  rw [decode_frame fits, delivered_frame]

@[simp] theorem messageClass_delivered (m : Message) (key : Option Bytes) (frame : Bytes) :
    (m.delivered key frame).messageClass = m.messageClass := by
  cases key <;> rfl

@[simp] theorem method_delivered (m : Message) (key : Option Bytes) (frame : Bytes) :
    (m.delivered key frame).method = m.method := by
  cases key <;> rfl

@[simp] theorem transactionId_delivered (m : Message) (key : Option Bytes) (frame : Bytes) :
    (m.delivered key frame).transactionId = m.transactionId := by
  cases key <;> rfl

/-- **A key leaves all other attributes as they are.** -/
theorem attribute?_delivered {kind : AttributeKind} (other : kind ≠ .messageIntegrity)
    (m : Message) (key : Option Bytes) (frame : Bytes) :
    (m.delivered key frame).attribute? kind = m.attribute? kind := by
  cases key with
  | none => rfl
  | some k =>
    have kept : (m.attributes.filter (·.kind ≠ .messageIntegrity)).find? (·.kind = kind)
        = m.attributes.find? (·.kind = kind) := by
      rw [List.find?_filter]
      congr 1
      funext a
      by_cases h : a.kind = kind <;> simp [h, other]
    -- the fresh tag comes last and is of another kind
    have tag : ∀ value, ([⟨.messageIntegrity, value⟩] : List Attribute).find? (·.kind = kind) = none :=
      fun value => List.find?_cons_of_neg (by simpa using other.symm)
    rw [attribute?, attribute?, delivered, List.find?_append, tag, Option.or_none, kept]

end Message

/-! ### Answers before they are signed -/

namespace Account

/-- The answer that a request succeeded, before it is signed. -/
def success (a : Account) (time : UInt32) (request : Message) (extra : List Attribute)
    (username : Option String) : Message :=
  { messageClass := .success
    method := request.method
    transactionId := request.transactionId
    attributes := extra ++ [⟨.timestamp, Bytes.ofUInt32 time⟩,
      ⟨.username, (username.map Utf8.encode).getD (a.answeredUsername request)⟩] }

theorem successResponse_eq (a : Account) (time : UInt32) (request : Message)
    (extra : List Attribute) (username : Option String) :
    a.successResponse time request extra username
      = a.sign (a.success time request extra username) := rfl

/-- The answer that a request failed, before it is signed. -/
def refusal (a : Account) (time : UInt32) (request : Message) (code : UInt16) (reason : String) :
    Message :=
  { messageClass := .error
    method := request.method
    transactionId := request.transactionId
    attributes := [⟨.errorCode, errorCodeValue code reason⟩, ⟨.serverTime, Bytes.ofUInt32 time⟩,
      ⟨.expirationPolicy, expiryValue⟩, ⟨.username, a.answeredUsername request⟩] }

theorem errorResponse_eq {code : UInt16} (signed : isOpenRefusal code = false) (a : Account)
    (time : UInt32) (request : Message) (reason : String) :
    a.errorResponse time request code reason = a.sign (a.refusal time request code reason) := by
  rw [errorResponse, signed]
  rfl

/-- An answer that fits a frame is signed, and is read as what was to be said. -/
theorem sign_eq_ok {a : Account} {m : Message} (fits : m.bodyLength (some a.key) ≤ 65535) :
    ∃ frame, a.sign m = .ok frame ∧
      Message.decode frame = .ok (m.delivered (some a.key) frame) :=
  have written := Message.encode_eq_ok fits
  ⟨_, written, Message.decode_encoded written⟩

/-- The reply that an answer makes, unless it does not fit a frame. -/
def reply (a : Account) (answer : Message) : Except DeviceError (Option Bytes) :=
  match a.sign answer with
  | .ok frame => .ok (some frame)
  | .error e => .error (.framing e)

theorem reply_eq_ok_iff {a : Account} {answer : Message} {frame : Bytes} :
    a.reply answer = .ok (some frame) ↔ a.sign answer = .ok frame := by
  rw [reply]
  cases a.sign answer with
  | ok written => simp
  | error e => simp

/-- Nothing but its size keeps an answer from being sent. -/
theorem framing_of_reply {a : Account} {answer : Message} {e : DeviceError}
    (refused : a.reply answer = .error e) : ∃ cause, e = .framing cause := by
  rw [reply] at refused
  split at refused
  · cases refused
  · cases refused
    exact ⟨_, rfl⟩

end Account

/-! ### Numbers and reasons -/

namespace Utf8

theorem encode_append (s t : String) : encode (s ++ t) = encode s ++ encode t := by
  rw [encode, String.toByteArray_append, ByteArray.data_append, Array.toList_append]
  rfl

theorem encode_replicate_zero (n : Nat) :
    encode (String.ofList (List.replicate n '\x00')) = List.replicate n 0 := by
  rw [encode, String.toByteArray_ofList]
  induction n with
  | zero => rfl
  | succ n ih =>
    rw [List.replicate_succ, List.utf8Encode_cons, ByteArray.data_append, Array.toList_append, ih,
      List.replicate_succ]
    rfl

end Utf8

/-- A text without the zeros at its end. -/
def trimZeros (s : String) : String := String.ofList (s.toList.rdropWhile (· = '\x00'))

theorem trimZeros_append_zeros (s : String) (n : Nat) :
    trimZeros (s ++ String.ofList (List.replicate n '\x00')) = trimZeros s := by
  rw [trimZeros, String.toList_append, String.toList_ofList, List.rdropWhile, List.reverse_append,
    List.reverse_replicate, List.dropWhile_append_of_pos]
  · rfl
  · intro c h
    exact decide_eq_true (List.eq_of_mem_replicate h)

/-- A text with another character at its end stays as it is. -/
theorem trimZeros_append {s t : String} (solid : t.toList ≠ [])
    (other : t.toList.getLast solid ≠ '\x00') : trimZeros (s ++ t) = s ++ t := by
  -- the last character is that of `t`, and it is none to be trimmed
  have whole : (s ++ t).toList.rdropWhile (· = '\x00') = (s ++ t).toList := by
    rw [List.rdropWhile_eq_self_iff]
    intro _
    simp only [String.toList_append, List.getLast_append_of_ne_nil _ solid]
    simpa using other
  rw [trimZeros, whole, String.ofList_toList]

/-- **What is read of a refusal.** -/
theorem Message.errorCode?_of_attribute {m : Message} {code : UInt16} {reason : String}
    (carried : m.attribute? .errorCode = some (errorCodeValue code reason)) :
    m.errorCode? = some (code.toNat / 100 % 256 % 8 * 100 + code.toNat % 100, trimZeros reason) := by
  -- the padding of the reason is read as part of it
  have padded : ∃ n, Bytes.zeroPad (Utf8.encode reason)
      = Utf8.encode (reason ++ String.ofList (List.replicate n '\x00')) :=
    ⟨_, by rw [Utf8.encode_append, Utf8.encode_replicate_zero]; rfl⟩
  obtain ⟨n, padded⟩ := padded
  have rest : (UInt8.ofNat (code.toNat % 100)).toNat = code.toNat % 100 := by
    rw [UInt8.toNat_ofNat']
    omega
  rw [errorCode?, carried, errorCodeValue, padded]
  dsimp only
  rw [Utf8.repair_encode, UInt8.toNat_ofNat', rest]
  exact congrArg (fun text => some (_, text)) (trimZeros_append_zeros reason n)

end RelayDevice
