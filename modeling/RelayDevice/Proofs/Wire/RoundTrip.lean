import RelayDevice.Proofs.Wire.Reader
import RelayDevice.Wire.Integrity

/-!
# Frames read back

A written frame is read as the message it was written from, except that a key replaces the
authentication attributes of the message by a single one at the end (`Message.delivered`).

The header and the attributes are read back on their own (`Header.parse_toBytes_append`,
`Attribute.decodeList_flatMap_toBytes`), and `Message.decode_toBytes_append` joins them wherever the
declared length is that of the attributes. `Message.encode_eq_ok` puts every written frame into that
form: a signed frame is the frame of one more attribute. The limit on the body alone decides whether
a message can be written, since a value that does not fit its own length does not fit the body
either (`Message.find?_oversized_eq_none`).
-/

namespace RelayDevice

/-! ### The header -/

namespace MessageType

/-- The two topmost bits of a message type are clear. -/
theorem toNat_compose_lt (c : MessageClass) (m : Method) : (compose c m).toNat < 16384 := by
  have := m.isLt
  rw [toNat_compose]
  cases c <;> simp only [MessageClass.bits] <;> omega

end MessageType

namespace Header

/-- **The header read back.** What follows it is not looked at. -/
theorem parse_toBytes_append (h : Header) (body : Bytes) : parse (h.toBytes ++ body) = .ok h := by
  -- the transaction ends the header, so nothing of the body is taken for it
  have id : (h.transactionId.octets ++ body).take 12 = h.transactionId.octets :=
    List.take_left' h.transactionId.length_eq
  have top : (UInt8.ofNat ((MessageType.compose h.messageClass h.method).toNat / 256)).toNat / 64
      = 0 := by
    have := MessageType.toNat_compose_lt h.messageClass h.method
    rw [UInt8.toNat_ofNat']
    omega
  simp only [toBytes, Bytes.ofUInt16, cookie, List.cons_append, List.nil_append, parse, id,
    h.transactionId.length_eq, top, Bytes.toUInt16_ofUInt16, MessageType.classOf_compose,
    MessageType.methodOf_compose, ne_eq, not_true_eq_false, if_false, dite_true]

theorem declaredFrameLength?_toBytes_append (h : Header) (body : Bytes) :
    declaredFrameLength? (h.toBytes ++ body) = some (size + h.length.toNat) := by
  simp only [toBytes, Bytes.ofUInt16, List.cons_append, List.nil_append, declaredFrameLength?,
    Bytes.toUInt16_ofUInt16]

end Header

/-! ### Whole frames -/

namespace Message

/-- A header that declares the length of written attributes is read together with them. -/
theorem decode_toBytes_append (h : Header) {as : List Attribute}
    (declared : h.length.toNat = Attribute.wireLengthAll as) :
    decode (h.toBytes ++ as.flatMap Attribute.toBytes)
      = .ok ⟨h.messageClass, h.method, h.transactionId, as⟩ := by
  have body : (h.toBytes ++ as.flatMap Attribute.toBytes).drop Header.size
      = as.flatMap Attribute.toBytes := List.drop_left' h.length_toBytes
  have fits : ∀ a ∈ as, a.value.length ≤ 65535 := by
    intro a ha
    have := Attribute.length_value_le_wireLengthAll ha
    have := h.length.toNat_lt
    omega
  rw [decode, Header.parse_toBytes_append]
  simp only [bind, Except.bind, body]
  rw [Attribute.length_flatMap_toBytes, declared, if_neg (by simp),
    Attribute.decodeList_flatMap_toBytes _ fits]
  rfl

/-- The attributes of a message's frame: with a key, a fresh tag follows the others. -/
def frameAttributes (m : Message) (key : Option Bytes) : List Attribute :=
  m.writtenAttributes key
    ++ key.toList.map fun k => ⟨.messageIntegrity, Hmac.tag k (m.unsigned key)⟩

/-- A message's frame, when nothing is too large for it. -/
def frame (m : Message) (key : Option Bytes) : Bytes :=
  (m.header key).toBytes ++ (m.frameAttributes key).flatMap Attribute.toBytes

theorem frame_none (m : Message) : m.frame none = m.unsigned none := by
  simp only [frame, frameAttributes, unsigned, Option.toList_none, List.map_nil, List.append_nil]

/-- A signed frame is the frame of one more attribute. -/
theorem frame_some (m : Message) (k : Bytes) :
    m.frame (some k) = Integrity.sign k (m.unsigned (some k)) := by
  simp only [frame, frameAttributes, Integrity.sign, unsigned, Option.toList_some, List.map_cons,
    List.map_nil, List.flatMap_append, List.flatMap_cons, List.flatMap_nil, List.append_nil,
    List.append_assoc]

/-- An authentication attribute takes twenty-four octets. -/
theorem wireLength_tag (k frame : Bytes) :
    Attribute.wireLength ⟨.messageIntegrity, Hmac.tag k frame⟩ = Integrity.attributeSize := by
  rw [Attribute.wireLength, Hmac.length_tag]
  rfl

theorem length_sign (k frame : Bytes) :
    (Integrity.sign k frame).length = frame.length + Integrity.attributeSize := by
  rw [Integrity.sign, List.length_append, Attribute.length_toBytes, wireLength_tag]

theorem wireLengthAll_frameAttributes (m : Message) (key : Option Bytes) :
    Attribute.wireLengthAll (m.frameAttributes key) = m.bodyLength key := by
  rw [frameAttributes, Attribute.wireLengthAll_append, bodyLength]
  cases key with
  | none => rfl
  | some k =>
    rw [Option.toList_some, List.map_cons, List.map_nil, Attribute.wireLengthAll, wireLength_tag]
    rfl

theorem length_frame (m : Message) (key : Option Bytes) :
    (m.frame key).length = Header.size + m.bodyLength key := by
  rw [frame, List.length_append, Header.length_toBytes, Attribute.length_flatMap_toBytes,
    wireLengthAll_frameAttributes]
  rfl

/-- No value is too long for its own length as long as the body is not too long for its. -/
theorem find?_oversized_eq_none {m : Message} {key : Option Bytes}
    (fits : m.bodyLength key ≤ 65535) :
    (m.writtenAttributes key).find? (65535 < ·.value.length) = none := by
  rw [List.find?_eq_none]
  intro a ha
  have := Attribute.length_value_le_wireLengthAll ha
  rw [bodyLength] at fits
  simp only [decide_eq_true_eq]
  omega

/-- **Writing succeeds** wherever the body fits. -/
theorem encode_eq_ok {m : Message} {key : Option Bytes} (fits : m.bodyLength key ≤ 65535) :
    m.encode key = .ok (m.frame key) := by
  unfold encode
  rw [if_neg (Nat.not_lt.2 fits), find?_oversized_eq_none fits]
  cases key with
  | none => rw [frame_none]
  | some k => rw [frame_some]

/-- What was written is the frame, so the body was not too large. -/
theorem frame_of_encode {m : Message} {key : Option Bytes} {octets : Bytes}
    (written : m.encode key = .ok octets) :
    m.bodyLength key ≤ 65535 ∧ m.frame key = octets := by
  by_cases large : 65535 < m.bodyLength key
  · unfold encode at written
    rw [if_pos large] at written
    cases written
  · have fits : m.bodyLength key ≤ 65535 := Nat.le_of_not_lt large
    exact ⟨fits, Except.ok.inj ((encode_eq_ok fits).symm.trans written)⟩

/-! ### The round trip -/

/-- The message that a written frame is read as. A key replaces the authentication attributes by a
single one at the end, which holds the tag (twenty octets, by `Hmac.length_tag`) of all octets
before it. -/
def delivered (m : Message) (key : Option Bytes) (frame : Bytes) : Message :=
  match key with
  | none => m
  | some k =>
    { m with
      attributes := m.attributes.filter (·.kind ≠ .messageIntegrity)
        ++ [⟨.messageIntegrity, Hmac.tag k (frame.take (frame.length - Integrity.attributeSize))⟩] }

/-- What the tag of a signed frame covers is the unsigned frame. -/
theorem take_frame_some (m : Message) (k : Bytes) :
    (m.frame (some k)).take ((m.frame (some k)).length - Integrity.attributeSize)
      = m.unsigned (some k) := by
  rw [frame_some, length_sign, Nat.add_sub_cancel, Integrity.sign, List.take_left]

theorem delivered_frame (m : Message) (key : Option Bytes) :
    m.delivered key (m.frame key) = { m with attributes := m.frameAttributes key } := by
  cases key with
  | none => simp only [delivered, frameAttributes, writtenAttributes, Option.toList_none,
      List.map_nil, List.append_nil]
  | some k =>
    rw [delivered, take_frame_some]
    rfl

/-- A frame is read as the message it was written from, with the attributes that were written. -/
theorem decode_frame {m : Message} {key : Option Bytes} (fits : m.bodyLength key ≤ 65535) :
    decode (m.frame key) = .ok { m with attributes := m.frameAttributes key } := by
  have declared : (m.header key).length.toNat = m.bodyLength key := by
    rw [header, UInt16.toNat_ofNat']
    omega
  rw [frame, decode_toBytes_append _ (declared.trans (wireLengthAll_frameAttributes m key).symm)]
  rfl

/-- **Round trip.** A message whose body has at most 65535 octets is written as a frame of the
declared length, and the frame is read as the message it was written from. Any other message is
refused for the size of its body. -/
theorem encode_reads_back (m : Message) (key : Option Bytes) :
    let size := ((m.writtenAttributes key).map Attribute.wireLength).sum
      + if key.isSome then Integrity.attributeSize else 0
    (65535 < size ∧ m.encode key = .error (.bodyTooLarge size)) ∨
      (size ≤ 65535 ∧ ∃ frame, m.encode key = .ok frame ∧ frame.length = Header.size + size ∧
        declaredFrameLength? frame = some frame.length ∧
        decode frame = .ok (m.delivered key frame)) := by
  -- the sum of the lengths is what the writer accumulates
  rw [← Attribute.wireLengthAll_eq_sum]
  change (65535 < m.bodyLength key ∧ m.encode key = .error (.bodyTooLarge (m.bodyLength key))) ∨
    (m.bodyLength key ≤ 65535 ∧ _)
  by_cases large : 65535 < m.bodyLength key
  · refine .inl ⟨large, ?_⟩
    unfold encode
    rw [if_pos large]
  · have fits : m.bodyLength key ≤ 65535 := Nat.le_of_not_lt large
    -- the length field holds the length of the body and has not wrapped
    have declared : (m.header key).length.toNat = m.bodyLength key := by
      rw [header, UInt16.toNat_ofNat']
      omega
    refine .inr ⟨fits, m.frame key, encode_eq_ok fits, m.length_frame key, ?_, ?_⟩
    · rw [length_frame, frame, Header.declaredFrameLength?_toBytes_append, declared]
    · rw [delivered_frame, frame, decode_toBytes_append]
      · rfl
      · rw [declared, wireLengthAll_frameAttributes]

end Message

end RelayDevice
