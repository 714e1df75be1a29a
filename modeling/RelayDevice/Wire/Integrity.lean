import RelayDevice.Digest.Hmac
import RelayDevice.Wire.Message

/-!
# Authenticated frames

A signed frame ends in an attribute that holds a keyed tag over all octets before it. The length in
the header already counts that attribute when the tag is taken.

* `Message.encode` — writes a frame, and signs it when a key is given;
* `Integrity.locate` — where a frame's first authentication attribute begins;
* `Integrity.verify` — takes the tag again and compares;
* `Message.decodeVerified` — reads a frame whose tag, if it has one, is right.
-/

namespace RelayDevice

/-! ### Writing -/

/-- The octets of the authentication attribute. -/
def Integrity.attributeSize : Nat := 24

namespace Message

/-- The attributes that are written: all of them without a key, and all but authentication
attributes with one. -/
def writtenAttributes (m : Message) (key : Option Bytes) : List Attribute :=
  match key with
  | none => m.attributes
  | some _ => m.attributes.filter (·.kind ≠ .messageIntegrity)

/-- The number of octets behind the header. -/
def bodyLength (m : Message) (key : Option Bytes) : Nat :=
  Attribute.wireLengthAll (m.writtenAttributes key)
    + if key.isSome then Integrity.attributeSize else 0

/-- The header of the frame, which counts the authentication attribute when there is a key. -/
def header (m : Message) (key : Option Bytes) : Header :=
  ⟨m.messageClass, m.method, .ofNat (m.bodyLength key), m.transactionId⟩

/-- Header and attributes, without authentication. -/
def unsigned (m : Message) (key : Option Bytes) : Bytes :=
  (m.header key).toBytes ++ (m.writtenAttributes key).flatMap Attribute.toBytes

end Message

namespace Integrity

/-- Appends the authentication attribute. -/
def sign (key frame : Bytes) : Bytes :=
  frame ++ Attribute.toBytes ⟨.messageIntegrity, Hmac.tag key frame⟩

end Integrity

namespace Message

/-- Writes a message as a frame. With a key, the frame is signed and authentication attributes
that the message already has are left out. The body and each value must fit their lengths of two
octets. -/
def encode (m : Message) (key : Option Bytes) : Except FramingError Bytes :=
  if 65535 < m.bodyLength key then .error (.bodyTooLarge (m.bodyLength key))
  else
    -- a value too long for its own length is too long for the body, so this finds none
    match (m.writtenAttributes key).find? (65535 < ·.value.length), key with
    | some a, _ => .error (.attributeTooLarge a.kind)
    | none, none => .ok (m.unsigned none)
    | none, some k => .ok (Integrity.sign k (m.unsigned (some k)))

end Message

/-! ### Checking -/

/-- What is known of a frame whose check did not fail. -/
inductive Integrity
  | verified
  | absent
deriving DecidableEq, Repr

/-- Why the check of a frame failed. -/
inductive IntegrityError
  | truncated
  | mismatch
deriving DecidableEq, Repr

namespace Integrity

/-- Looks for an authentication attribute among the attributes from an offset on. The values are
skipped unread, also where they reach past the end of the frame. -/
def locateFrom (offset : Nat) (bytes : Bytes) : Option Nat :=
  match bytes with
  | k₀ :: k₁ :: l₀ :: l₁ :: rest =>
    if Bytes.toUInt16 k₀ k₁ = AttributeKind.messageIntegrity then some offset
    else
      let size := Bytes.padded (Bytes.toUInt16 l₀ l₁).toNat
      locateFrom (offset + 4 + size) (rest.drop size)
  | _ => none
termination_by bytes.length
decreasing_by simp only [List.length_cons, List.length_drop]; omega

/-- The offset of the first authentication attribute of a frame. -/
def locate (frame : Bytes) : Option Nat :=
  locateFrom Header.size (frame.drop Header.size)

/-- Compares the tag in the first authentication attribute with that of the octets before it. The
length that the attribute declares does not matter. -/
def verify (frame key : Bytes) : Except IntegrityError Integrity :=
  match locate frame with
  | none => .ok .absent
  | some offset =>
    -- the tag is taken for what it should be, twenty octets, and may reach past the attribute
    let tag := (frame.drop (offset + 4)).take 20
    if tag.length < 20 then .error .truncated
    else if Hmac.tag key (frame.take offset) = tag then .ok .verified
    else .error .mismatch

end Integrity

end RelayDevice
