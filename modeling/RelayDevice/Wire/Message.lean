import RelayDevice.Text.Utf8
import RelayDevice.Uuid
import RelayDevice.Wire.Header

/-!
# Messages and their attributes

A message is a header and a list of attributes in wire order. On the wire an attribute is its kind,
the length of its value, the value, and zeros up to a multiple of four octets.

* `Attribute.toBytes`, `Attribute.decodeList` — attributes as octets and back;
* `Message.decode` — reads a whole frame; only the padding of the last attribute may be cut short,
  and what the padding holds does not matter;
* `Message.attribute?` and the accessors built on it — the first attribute of a kind counts.

Writing a frame involves its authentication and is found in `Message.encode`.
-/

namespace RelayDevice

/-! ### Attributes -/

/-- A value with the code of what it means. -/
structure Attribute where
  /-- What the value means. -/
  kind : AttributeKind
  /-- The value without padding. -/
  value : Bytes
deriving DecidableEq

namespace Attribute

/-- The octets that an attribute takes on the wire. -/
def wireLength (a : Attribute) : Nat := 4 + Bytes.padded a.value.length

/-- The attribute on the wire. The length has two octets, so the value must be shorter than 65536
octets for it to be read back. -/
def toBytes (a : Attribute) : Bytes :=
  Bytes.ofUInt16 a.kind ++ Bytes.ofUInt16 (.ofNat a.value.length) ++ Bytes.zeroPad a.value

@[simp] theorem length_toBytes (a : Attribute) : a.toBytes.length = a.wireLength := by
  simp only [toBytes, wireLength, List.length_append, Bytes.length_ofUInt16, Bytes.length_zeroPad]

/-- The octets that a list of attributes takes on the wire. -/
def wireLengthAll : List Attribute → Nat
  | [] => 0
  | a :: as => a.wireLength + wireLengthAll as

/-- Reads attributes up to the end of a frame; the offset is that of the first octet. -/
def decodeList (offset : Nat) (bytes : Bytes) : Except FramingError (List Attribute) :=
  match bytes with
  | [] => .ok []
  | k₀ :: k₁ :: l₀ :: l₁ :: rest =>
    let kind := Bytes.toUInt16 k₀ k₁
    let size := (Bytes.toUInt16 l₀ l₁).toNat
    let value := rest.take size
    if value.length < size then .error (.attributeOverrun kind size value.length)
    else
      -- where the padding is cut short, nothing is left to read
      (decodeList (offset + 4 + Bytes.padded size) (rest.drop (Bytes.padded size))).map
        (⟨kind, value⟩ :: ·)
  | _ => .error (.truncatedAttribute offset)
termination_by bytes.length
decreasing_by simp only [List.length_cons, List.length_drop]; omega

end Attribute

/-! ### Messages -/

/-- A message of the protocol. -/
structure Message where
  /-- Request, indication, or the kind of response. -/
  messageClass : MessageClass
  /-- What the message is about. -/
  method : Method
  /-- What ties a response to its request. -/
  transactionId : TransactionId
  /-- The attributes in wire order. -/
  attributes : List Attribute
deriving DecidableEq

namespace Message

/-- A message without attributes. -/
def empty (c : MessageClass) (m : Method) (t : TransactionId) : Message := ⟨c, m, t, []⟩

/-- Appends an attribute. -/
def push (m : Message) (kind : AttributeKind) (value : Bytes) : Message :=
  { m with attributes := m.attributes ++ [⟨kind, value⟩] }

/-- Reads a whole frame. -/
def decode (frame : Bytes) : Except FramingError Message := do
  let header ← Header.parse frame
  let body := frame.drop Header.size
  if header.length.toNat ≠ body.length then
    .error (.lengthMismatch header.length.toNat body.length)
  else
    let attributes ← Attribute.decodeList Header.size body
    return ⟨header.messageClass, header.method, header.transactionId, attributes⟩

/-! ### Looking attributes up -/

/-- The value of the first attribute of a kind. -/
def attribute? (m : Message) (kind : AttributeKind) : Option Bytes :=
  (m.attributes.find? (·.kind = kind)).map (·.value)

/-- Whether the message has an attribute of a kind. -/
def hasAttribute (m : Message) (kind : AttributeKind) : Bool :=
  (m.attribute? kind).isSome

/-- The text of an attribute. -/
def text? (m : Message) (kind : AttributeKind) : Option String :=
  m.attribute? kind >>= Utf8.decode?

/-- The word in the first four octets of an attribute. -/
def word? (m : Message) (kind : AttributeKind) : Option UInt32 :=
  match m.attribute? kind with
  | some (a :: b :: c :: d :: _) => some (Bytes.toUInt32 a b c d)
  | _ => none

/-- The account the message belongs to. -/
def username? (m : Message) : Option String := m.text? .username

/-- The device the message is about. -/
def deviceId? (m : Message) : Option Uuid :=
  m.attribute? .deviceId >>= Uuid.ofBytes?

/-- The number and the reason of a refusal. The number has its hundreds in the low three bits of
one octet and the rest in the next; zeros at the end of the reason are padding. -/
def errorCode? (m : Message) : Option (Nat × String) :=
  match m.attribute? .errorCode with
  | some (_ :: _ :: hundreds :: rest :: reason) =>
    let text := (Utf8.repair reason).toList.reverse.dropWhile (· = '\x00')
    some (hundreds.toNat % 8 * 100 + rest.toNat, String.ofList text.reverse)
  | _ => none

end Message

end RelayDevice
