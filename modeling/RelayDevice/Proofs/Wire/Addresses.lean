import RelayDevice.Proofs.Outcome
import RelayDevice.Proofs.Wire.Answers

/-!
# Addresses on their way

The relay tells a client the address that it sees, so that the client knows how others reach it. It
masks the address octet by octet. The client reads words, of two octets for the port and of four for
the address, and unmasks these as a whole. Both come to the same because combining two words never
carries from one octet into the next, which is what `Bytes.ofUInt16_xor` and `Bytes.ofUInt32_xor` say:
a combined word is spelled by the combined octets. So the relay writes the plain value of a masked
endpoint (`PeerAddress.maskedValue_ipv4`), and masking twice gives back the endpoint.

`Message.sighting` is the answer before it is signed. Nothing in it is as long as its sender likes,
so there is room for it in a frame (`Message.bodyLength_sighting_le`), and
`Account.address_reaches_client` says what a client makes of it.
-/

namespace RelayDevice

/-! ### Words and their octets -/

namespace Bytes

theorem ofUInt16_xor (v w : UInt16) :
    ofUInt16 (v ^^^ w) = List.zipWith (· ^^^ ·) (ofUInt16 v) (ofUInt16 w) := by
  have high : (v.toNat ^^^ w.toNat) / 256 = v.toNat / 256 ^^^ w.toNat / 256 :=
    Nat.xor_div_two_pow (n := 8)
  have low : (v.toNat ^^^ w.toNat) % 256 = v.toNat % 256 ^^^ w.toNat % 256 :=
    Nat.xor_mod_two_pow (n := 8)
  rw [ofUInt16, UInt16.toNat_xor, high, low, UInt8.ofNat_xor, UInt8.ofNat_xor]
  rfl

theorem ofUInt32_xor (v w : UInt32) :
    ofUInt32 (v ^^^ w) = List.zipWith (· ^^^ ·) (ofUInt32 v) (ofUInt32 w) := by
  -- an octet from the middle of the word, which begins at some bit
  have middle (bit unit : Nat) (power : unit = 2 ^ bit) :
      UInt8.ofNat ((v.toNat ^^^ w.toNat) / unit % 256)
        = .ofNat (v.toNat / unit % 256) ^^^ .ofNat (w.toNat / unit % 256) := by
    rw [power, Nat.xor_div_two_pow, ← UInt8.ofNat_xor]
    exact congrArg UInt8.ofNat (Nat.xor_mod_two_pow (n := 8))
  have first : (v.toNat ^^^ w.toNat) / 16777216 = v.toNat / 16777216 ^^^ w.toNat / 16777216 :=
    Nat.xor_div_two_pow (n := 24)
  have last : (v.toNat ^^^ w.toNat) % 256 = v.toNat % 256 ^^^ w.toNat % 256 :=
    Nat.xor_mod_two_pow (n := 8)
  rw [ofUInt32, UInt32.toNat_xor, first, middle 16 65536 rfl, middle 8 256 rfl, last,
    UInt8.ofNat_xor, UInt8.ofNat_xor]
  rfl

end Bytes

/-! ### Masked values -/

namespace Endpoint

theorem ofValue_value (e : Endpoint) : ofValue e.value = .ok e := by
  have port : Bytes.toUInt16 (.ofNat (e.port.toNat / 256)) (.ofNat (e.port.toNat % 256)) = e.port :=
    Bytes.toUInt16_ofUInt16 e.port
  have address := Bytes.toUInt32_ofUInt32 e.address
  simp only [value, Bytes.ofUInt16, Bytes.ofUInt32, List.cons_append, List.nil_append, ofValue,
    if_true, port, address]

end Endpoint

/-- **Masking octet by octet** is masking word by word. The octets of the cookie are those of the two
words that a client unmasks with, in this order. -/
theorem PeerAddress.maskedValue_ipv4 (e : Endpoint) :
    maskedValue (.ipv4 e) = .ok e.masked.value := by
  have port : Bytes.ofUInt16 e.masked.port = Bytes.masked (Bytes.ofUInt16 e.port) :=
    Bytes.ofUInt16_xor e.port 0x2112
  have address : Bytes.ofUInt32 e.masked.address = Bytes.masked (Bytes.ofUInt32 e.address) :=
    Bytes.ofUInt32_xor e.address 0x2112A442
  rw [maskedValue, Endpoint.value, port, address]

-- port 32853 at 192.0.2.1
example : PeerAddress.maskedValue (.ipv4 ⟨0xC0000201, 32853⟩)
    = .ok [0, 1, 0xA1, 0x47, 0xE1, 0x12, 0xA6, 0x43] := by decide

/-- **A masked address is read** as the endpoint that was masked. -/
theorem Message.mappedAddress_of_masked {m : Message} {e : Endpoint}
    (carried : m.attribute? .xorMappedAddress = some e.masked.value) :
    m.mappedAddress = .ok (some e) := by
  rw [mappedAddress, carried]
  change (Endpoint.ofValue e.masked.value).map (fun read => some read.masked) = .ok (some e)
  rw [Endpoint.ofValue_value]
  exact congrArg (fun read => Except.ok (some read)) e.masked_masked

/-! ### The answer -/

/-- The answer that tells an address, before it is signed. -/
def Message.sighting (time : UInt32) (request : Message) (value : Bytes) (device : Option Uuid) :
    Message :=
  { messageClass := .success
    method := request.method
    transactionId := request.transactionId
    attributes := [⟨.xorMappedAddress, value⟩, ⟨.timestamp, Bytes.ofUInt32 time⟩,
      ⟨.serverTime, Bytes.ofUInt32 time⟩, ⟨.expirationPolicy, expiryValue⟩]
      ++ device.toList.map fun d => ⟨.deviceId, d.octets⟩ }

namespace Message

variable {time : UInt32} {request : Message} {value : Bytes} {device : Option Uuid}

theorem attribute?_sighting_deviceId :
    (sighting time request value device).attribute? .deviceId = device.map (·.octets) := by
  cases device with
  | none => rfl
  | some d => rfl

/-- Who the answer is about is read from it, and nobody where it names nobody. -/
theorem deviceId?_of_attribute {m : Message}
    (carried : m.attribute? .deviceId = device.map (·.octets)) : m.deviceId? = device := by
  rw [deviceId?, carried]
  cases device with
  | none => rfl
  | some d => exact Uuid.ofBytes?_octets d

/-- **There is room for every address.** The four attributes that tell it take thirty-six octets, the
device that is named takes twenty, and the tag twenty-four. -/
theorem bodyLength_sighting_le (time : UInt32) (request : Message) (e : Endpoint)
    (device : Option Uuid) (key : Bytes) :
    (sighting time request e.value device).bodyLength (some key) ≤ 65535 := by
  have written : (sighting time request e.value device).writtenAttributes (some key)
      = (sighting time request e.value device).attributes := by
    -- none of them is a tag, so none is left out
    cases device with
    | none => rfl
    | some d => rfl
  have eight : e.value.length = 8 := rfl
  have told : Attribute.wireLengthAll [⟨.xorMappedAddress, e.value⟩,
      ⟨.timestamp, Bytes.ofUInt32 time⟩, ⟨.serverTime, Bytes.ofUInt32 time⟩,
      ⟨.expirationPolicy, expiryValue⟩] = 36 := by
    simp only [Attribute.wireLengthAll, Attribute.wireLength, eight, Bytes.length_ofUInt32,
      expiryValue]
    decide
  have named : Attribute.wireLengthAll (device.toList.map fun d => ⟨.deviceId, d.octets⟩) ≤ 20 := by
    cases device with
    | none => decide
    | some d =>
      rw [Option.toList_some, List.map_cons, List.map_nil, Attribute.wireLengthAll,
        Attribute.wireLength, d.length_eq]
      decide
  have tag : (if (some key).isSome then Integrity.attributeSize else 0) = 24 := rfl
  rw [bodyLength, written, tag, sighting, Attribute.wireLengthAll_append, told]
  omega

end Message

namespace Account

theorem addressResponse_ipv4 (a : Account) (time : UInt32) (request : Message) (e : Endpoint)
    (device : Option Uuid) :
    a.addressResponse time request (.ipv4 e) device
      = (a.sign (Message.sighting time request e.masked.value device)).mapError .framing := by
  rw [addressResponse, PeerAddress.maskedValue_ipv4]
  rfl

/-- **The reflexive address reaches the client.** Whatever is asked, by whomever and about any device
or none, the relay has an answer for every address of four octets. The answer is read as the address
and port that the relay saw and as the device that it named; it is a success, and bears the
identifier and the method of the request. For an address of sixteen octets there is no answer, since
no message can tell it. -/
theorem address_reaches_client (a : Account) (time : UInt32) (request : Message)
    (device : Option Uuid) :
    (∀ client : Endpoint, ∃ frame answer,
      a.addressResponse time request (.ipv4 client) device = .ok frame ∧
        Message.decode frame = .ok answer ∧
        answer.mappedAddress = .ok (some client) ∧
        answer.deviceId? = device ∧
        answer.messageClass = .success ∧
        answer.transactionId = request.transactionId ∧
        answer.method = request.method) ∧
    ∀ octets port, a.addressResponse time request (.ipv6 octets port) device
      = .error (.message .addressOfSixteenOctets) := by
  refine ⟨fun client => ?_, fun _ _ => rfl⟩
  have room := Message.bodyLength_sighting_le time request client.masked device a.key
  obtain ⟨frame, signed, decoded⟩ := sign_eq_ok room
  have answered : a.addressResponse time request (.ipv4 client) device = .ok frame := by
    rw [addressResponse_ipv4, signed]
    rfl
  refine ⟨frame, _, answered, decoded, ?_, ?_, Message.messageClass_delivered ..,
    Message.transactionId_delivered .., Message.method_delivered ..⟩
  · -- the masked address is found first, and the tag is of another kind
    apply Message.mappedAddress_of_masked
    rw [Message.attribute?_delivered (by decide)]
    rfl
  · apply Message.deviceId?_of_attribute
    rw [Message.attribute?_delivered (by decide)]
    exact Message.attribute?_sighting_deviceId

end Account

end RelayDevice
