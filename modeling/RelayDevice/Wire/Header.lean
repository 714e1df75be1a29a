import RelayDevice.Bytes
import RelayDevice.Wire.Code

/-!
# The frame header

Every frame opens with twenty octets: the message type, the length of the body, a fixed cookie
and a transaction identifier of twelve octets.

* `MessageClass`, `MessageType.compose`, `MessageType.classOf`, `MessageType.methodOf` — the
  message type interleaves the twelve method bits with the two class bits, of which the low one
  is bit 4 and the high one bit 8;
* `Header.toBytes`, `Header.parse` — the header as octets and back;
* `declaredFrameLength?` — the length of a whole frame, read from its first four octets.

`methodOf_compose` and `classOf_compose` say that a composed message type gives back both parts.
-/

namespace RelayDevice

/-! ### Message classes and types -/

/-- The four classes of message. -/
inductive MessageClass
  | request
  | indication
  | success
  | error
deriving DecidableEq, Repr

namespace MessageClass

/-- The class bits at their place in the message type. -/
def bits : MessageClass → Nat
  | request => 0
  | indication => 16
  | success => 256
  | error => 272

/-- Success and error responses answer a request. -/
def isResponse : MessageClass → Bool
  | success | error => true
  | request | indication => false

theorem isResponse_eq_false_iff {c : MessageClass} :
    c.isResponse = false ↔ c = .request ∨ c = .indication := by
  cases c <;> decide

/-- The name of a class in reports. -/
def name : MessageClass → String
  | request => "request"
  | indication => "indication"
  | success => "success"
  | error => "error"

end MessageClass

namespace MessageType

/-- The message type of a class and a method: method bits 0 to 3 stay in place, bits 4 to 6 move
up by one and bits 7 to 11 by two, which leaves room for the class bits. -/
def compose (c : MessageClass) (m : Method) : UInt16 :=
  .ofNat (m.val % 16 + m.val / 16 % 8 * 32 + m.val / 128 * 512 + c.bits)

/-- The class of a message type. -/
def classOf (t : UInt16) : MessageClass :=
  match t.toNat / 256 % 2, t.toNat / 16 % 2 with
  | 0, 0 => .request
  | 0, _ => .indication
  | _, 0 => .success
  | _, _ => .error

/-- The method of a message type; the two topmost bits do not count. -/
def methodOf (t : UInt16) : Method :=
  ⟨t.toNat % 16 + t.toNat / 32 % 8 * 16 + t.toNat / 512 % 32 * 128, by omega⟩

theorem toNat_compose (c : MessageClass) (m : Method) :
    (compose c m).toNat = m.val % 16 + m.val / 16 % 8 * 32 + m.val / 128 * 512 + c.bits := by
  have := m.isLt
  cases c <;> simp only [compose, MessageClass.bits, UInt16.toNat_ofNat'] <;> omega

theorem methodOf_compose (c : MessageClass) (m : Method) : methodOf (compose c m) = m := by
  have := m.isLt
  apply Fin.ext
  simp only [methodOf, toNat_compose]
  cases c <;> simp only [MessageClass.bits] <;> omega

theorem classOf_compose (c : MessageClass) (m : Method) : classOf (compose c m) = c := by
  have := m.isLt
  have high : (compose c m).toNat / 256 % 2 = c.bits / 256 := by
    rw [toNat_compose]; cases c <;> simp only [MessageClass.bits] <;> omega
  have low : (compose c m).toNat / 16 % 2 = c.bits / 16 % 2 := by
    rw [toNat_compose]; cases c <;> simp only [MessageClass.bits] <;> omega
  simp only [classOf, high, low]
  cases c <;> rfl

end MessageType

/-! ### Transaction identifiers -/

/-- The twelve octets that tie a response to its request. -/
structure TransactionId where
  /-- The octets in wire order. -/
  octets : Bytes
  /-- There are exactly twelve. -/
  length_eq : octets.length = 12
deriving DecidableEq

namespace TransactionId

/-- The identifier spelled by exactly twelve octets. -/
def ofBytes? (bs : Bytes) : Option TransactionId :=
  if h : bs.length = 12 then some ⟨bs, h⟩ else none

/-- The identifier of twelve zeros. -/
def zero : TransactionId := ⟨List.replicate 12 0, rfl⟩

instance : Inhabited TransactionId := ⟨zero⟩

/-- The identifier as hexadecimal digits. -/
def text (t : TransactionId) : String := Bytes.hex t.octets

end TransactionId

/-! ### Malformed frames -/

/-- Why octets are not a frame, or a message cannot become one. -/
inductive FramingError
  | shortFrame (size : Nat)
  | topBitsSet
  | wrongCookie
  | transactionIdSize (size : Nat)
  | lengthMismatch (declared body : Nat)
  | truncatedAttribute (offset : Nat)
  | attributeOverrun (kind : AttributeKind) (declared left : Nat)
  | bodyTooLarge (size : Nat)
  | attributeTooLarge (kind : AttributeKind)
  | truncatedIntegrity
  | stated (reason : String)
deriving DecidableEq, Repr

/-! ### Headers -/

/-- The fixed part of every frame. -/
structure Header where
  /-- The class of the message. -/
  messageClass : MessageClass
  /-- What the message is about. -/
  method : Method
  /-- The number of octets that follow the header. -/
  length : UInt16
  /-- What ties a response to its request. -/
  transactionId : TransactionId
deriving DecidableEq

namespace Header

/-- The octets of a header. -/
def size : Nat := 20

/-- The fixed octets 4 to 7 of every frame. -/
def cookie : Bytes := [0x21, 0x12, 0xA4, 0x42]

/-- The octets of a header in wire order. -/
def toBytes (h : Header) : Bytes :=
  Bytes.ofUInt16 (MessageType.compose h.messageClass h.method) ++ Bytes.ofUInt16 h.length ++ cookie
    ++ h.transactionId.octets

@[simp] theorem length_toBytes (h : Header) : h.toBytes.length = 20 := by
  simp [toBytes, cookie, h.transactionId.length_eq]

/-- Reads the header of a frame; what follows it is not looked at. -/
def parse (frame : Bytes) : Except FramingError Header :=
  match frame with
  | t₀ :: t₁ :: l₀ :: l₁ :: c₀ :: c₁ :: c₂ :: c₃ :: rest =>
    if h : (rest.take 12).length = 12 then
      if t₀.toNat / 64 ≠ 0 then .error .topBitsSet
      else if [c₀, c₁, c₂, c₃] ≠ cookie then .error .wrongCookie
      else
        let type := Bytes.toUInt16 t₀ t₁
        .ok {
          messageClass := MessageType.classOf type
          method := MessageType.methodOf type
          length := Bytes.toUInt16 l₀ l₁
          transactionId := ⟨rest.take 12, h⟩ }
    else .error (.shortFrame frame.length)
  | _ => .error (.shortFrame frame.length)

end Header

/-- The length of the whole frame, as its first four octets declare it. -/
def declaredFrameLength? : Bytes → Option Nat
  | _ :: _ :: l₀ :: l₁ :: _ => some (Header.size + (Bytes.toUInt16 l₀ l₁).toNat)
  | _ => none

end RelayDevice
