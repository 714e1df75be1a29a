import RelayDevice.Wire.Message

/-!
# Reflexive addresses

The relay tells a device the address it is seen under, in the clear or masked by the frame cookie.

* `Endpoint` — an address of four octets with its port;
* `PeerAddress.maskedValue` — the attribute value that tells it, masked octet by octet;
* `Message.mappedAddress` — the address that a message tells; the masked form goes first, and its
  words are unmasked as a whole.
-/

namespace RelayDevice

/-- An address of four octets and a port. -/
structure Endpoint where
  /-- The address as a word. -/
  address : UInt32
  /-- The port. -/
  port : UInt16
deriving DecidableEq, Repr

/-- Where a peer is reached. -/
inductive PeerAddress
  | ipv4 (endpoint : Endpoint)
  | ipv6 (octets : Bytes) (port : UInt16)
deriving DecidableEq, Repr

/-- Why a message cannot be used, or a response cannot be built. -/
inductive MessageError
  | addressTooShort
  | addressTruncated
  | addressOfSixteenOctets
  | unknownFamily (family : UInt8)
  | actionWithoutName
  | payloadNeeded (action : String)
  | argumentsNeeded (action : String)
  | startRefused (code : Nat) (reason : String)
  | startRefusedWithoutCode
  | stated (reason : String)
deriving DecidableEq, Repr

namespace Endpoint

/-- The address and port combined with the cookie; a second time gives them back. -/
def masked (e : Endpoint) : Endpoint :=
  ⟨e.address ^^^ 0x2112A442, e.port ^^^ 0x2112⟩

@[simp] theorem masked_masked (e : Endpoint) : e.masked.masked = e := by
  obtain ⟨a, p⟩ := e
  simp only [masked, UInt32.xor_assoc, UInt16.xor_assoc, UInt32.xor_self, UInt16.xor_self,
    UInt32.xor_zero, UInt16.xor_zero]

/-- The attribute value of an address: a zero, the family, the port and the address. -/
def value (e : Endpoint) : Bytes :=
  0 :: 1 :: Bytes.ofUInt16 e.port ++ Bytes.ofUInt32 e.address

/-- Reads an attribute value. -/
def ofValue (value : Bytes) : Except MessageError Endpoint :=
  match value with
  | _ :: family :: p₀ :: p₁ :: rest =>
    if family = 1 then
      match rest with
      | a :: b :: c :: d :: _ => .ok ⟨Bytes.toUInt32 a b c d, Bytes.toUInt16 p₀ p₁⟩
      | _ => .error .addressTruncated
    else if family = 2 then .error .addressOfSixteenOctets
    else .error (.unknownFamily family)
  | _ => .error .addressTooShort

/-- The octets with dots between them, a colon and the port. -/
def text (e : Endpoint) : String :=
  String.intercalate "." ((Bytes.ofUInt32 e.address).map fun b => toString b.toNat)
    ++ ":" ++ toString e.port.toNat

end Endpoint

/-- Combines octets with those of the cookie, one by one from the first. -/
def Bytes.masked (bs : Bytes) : Bytes := List.zipWith (· ^^^ ·) bs Header.cookie

/-- The masked attribute value of a peer's address: a zero and the family in the clear, then the
octets of the port and those of the address, each masked from the start of the cookie. -/
def PeerAddress.maskedValue : PeerAddress → Except MessageError Bytes
  | .ipv4 e =>
    .ok (0 :: 1 :: Bytes.masked (Bytes.ofUInt16 e.port) ++ Bytes.masked (Bytes.ofUInt32 e.address))
  | .ipv6 _ _ => .error .addressOfSixteenOctets

/-- The address that a message tells, if it tells one. -/
def Message.mappedAddress (m : Message) : Except MessageError (Option Endpoint) :=
  match m.attribute? .xorMappedAddress with
  | some value => (Endpoint.ofValue value).map fun e => some e.masked
  | none =>
    match m.attribute? .mappedAddress with
    | some value => (Endpoint.ofValue value).map some
    | none => .ok none

end RelayDevice
