import RelayDevice.Proofs.Wire.Grammar
import RelayDevice.Proofs.Wire.RoundTrip

/-!
# Passing on what was received

A message that was read from a frame can be written again, and is read again from what is written,
unless it has no room: the padding of the last attribute may be missing in a frame, but it is always
written. So the attributes of a frame take as many octets as its body, rounded up to a multiple of
four (`Attribute.wireLengthAll_of_decodeList`), and this is too much exactly where the body has more
than 65532 octets (`Message.encode_of_decode`). `Message.not_forwarded_crammedFrame` is about such a
frame.
-/

namespace RelayDevice

/-- **What was read is written in whole groups of four octets.** Of the body, only the last padding
can be missing. -/
theorem Attribute.wireLengthAll_of_decodeList {offset : Nat} {bytes : Bytes} {as : List Attribute}
    (read : decodeList offset bytes = .ok as) :
    wireLengthAll as = Bytes.padded bytes.length := by
  induction as generalizing offset bytes with
  | nil =>
    rw [decodeList_eq_nil read]
    rfl
  | cons a as ih =>
    obtain ⟨size, rest, rfl, -, value, later⟩ := decodeList_eq_cons read
    -- the value is all there, and what it leaves of the body was read as the other attributes
    have whole : a.value.length ≤ rest.length := by
      rw [← value]
      exact List.length_take_le' _ _
    have others := ih later
    rw [List.length_drop] at others
    rw [wireLengthAll, wireLength, others]
    simp only [List.length_append, Bytes.length_ofUInt16, Bytes.padded]
    omega

namespace Message

/-- The body of a frame has a length of two octets. -/
theorem length_lt_of_decode {frame : Bytes} {m : Message} (decoded : decode frame = .ok m) :
    frame.length - Header.size < 65536 := by
  have length := (isFrame_iff.2 ⟨m, decoded, rfl⟩).length
  have := (frame.getD 2 0).toNat_lt
  have := (frame.getD 3 0).toNat_lt
  omega

/-- Without a key, the body of a message that was read is that of its frame, its padding
completed. -/
theorem bodyLength_of_decode {frame : Bytes} {m : Message} (decoded : decode frame = .ok m) :
    m.bodyLength none = Bytes.padded (frame.length - Header.size) := by
  rw [← List.length_drop, ← Attribute.wireLengthAll_of_decodeList (decode_eq_ok decoded).2]
  rfl

/-- **What was received can be passed on**, unless its body has more than 65532 octets. A message
with such a body, whose padding is not complete, is refused for its size. -/
theorem encode_of_decode {frame : Bytes} {m : Message} (decoded : decode frame = .ok m) :
    (frame.length ≤ Header.size + 65532 ∧
      ∃ written, m.encode none = .ok written ∧ decode written = .ok m) ∨
    (Header.size + 65532 < frame.length ∧ m.encode none = .error (.bodyTooLarge 65536)) := by
  have body := bodyLength_of_decode decoded
  by_cases room : frame.length ≤ Header.size + 65532
  · have fits : m.bodyLength none ≤ 65535 := by
      rw [body, Bytes.padded]
      omega
    have again := decode_frame fits
    rw [← delivered_frame] at again
    exact .inl ⟨room, m.frame none, encode_eq_ok fits, again⟩
  · have large : m.bodyLength none = 65536 := by
      have := length_lt_of_decode decoded
      rw [body, Bytes.padded]
      omega
    refine .inr ⟨Nat.lt_of_not_le room, ?_⟩
    unfold encode
    rw [large, if_pos (by decide)]

/-- A frame with other octets than zeros for padding in the middle, and with none at the end. -/
def looseFrame : Bytes :=
  [0x00, 0x01, 0x00, 0x0E, 0x21, 0x12, 0xA4, 0x42, 12, 11, 10, 9, 8, 7, 6, 5, 4, 3, 2, 1,
    0x0C, 0x12, 0x00, 0x03, 0x68, 0x6F, 0x62, 0xFF, 0x0C, 0x16, 0x00, 0x02, 0x01, 0x02]

/-- What `looseFrame` is read as. -/
def looseMessage : Message :=
  ⟨.request, .binding, ⟨[12, 11, 10, 9, 8, 7, 6, 5, 4, 3, 2, 1], rfl⟩,
    [⟨.name, [0x68, 0x6F, 0x62]⟩, ⟨.errorLevel, [0x01, 0x02]⟩]⟩

theorem encode_of_decode_looseFrame :
    decode looseFrame = .ok looseMessage ∧
      ∃ written, looseMessage.encode none = .ok written ∧ decode written = .ok looseMessage := by
  have decoded : decode looseFrame = .ok looseMessage := by decide +kernel
  refine ⟨decoded, ?_⟩
  rcases encode_of_decode decoded with ⟨-, again⟩ | ⟨large, -⟩
  · exact again
  · exact absurd large (by decide)

/-! ### A frame without room -/

/-- A header that declares the length of a body is read together with the attributes that the body
spells. -/
theorem decode_toBytes_append_of_spell (h : Header) {body : Bytes} {as : List Attribute}
    (declared : h.length.toNat = body.length) (spelled : Attribute.Spell body as) :
    decode (h.toBytes ++ body) = .ok ⟨h.messageClass, h.method, h.transactionId, as⟩ := by
  have behind : (h.toBytes ++ body).drop Header.size = body := List.drop_left' h.length_toBytes
  rw [decode, Header.parse_toBytes_append]
  simp only [bind, Except.bind, behind]
  rw [if_neg (not_not.2 declared), Attribute.decodeList_of_spell _ spelled]
  rfl

/-- A payload that leaves the body of a frame no room for its padding. -/
def crammedPayload : Bytes := List.replicate 65531 0x61

/-- A binding request with that payload, which ends where the padding should begin. -/
def crammedFrame : Bytes :=
  [0x00, 0x01, 0xFF, 0xFF, 0x21, 0x12, 0xA4, 0x42, 12, 11, 10, 9, 8, 7, 6, 5, 4, 3, 2, 1]
    ++ ([0x0C, 0x18, 0xFF, 0xFB] ++ crammedPayload)

/-- What `crammedFrame` is read as. -/
def crammedMessage : Message :=
  ⟨.request, .binding, ⟨[12, 11, 10, 9, 8, 7, 6, 5, 4, 3, 2, 1], rfl⟩, [⟨.payload, crammedPayload⟩]⟩

theorem length_crammedPayload : crammedPayload.length = 65531 := List.length_replicate

theorem decode_crammedFrame : decode crammedFrame = .ok crammedMessage := by
  have header :
      [0x00, 0x01, 0xFF, 0xFF, 0x21, 0x12, 0xA4, 0x42, 12, 11, 10, 9, 8, 7, 6, 5, 4, 3, 2, 1]
        = Header.toBytes ⟨.request, .binding, 65535, crammedMessage.transactionId⟩ := by decide
  have words : [0x0C, 0x18, 0xFF, 0xFB]
      = Bytes.ofUInt16 AttributeKind.payload ++ Bytes.ofUInt16 (.ofNat 65531) := by decide
  have spelled : Attribute.Spell ([0x0C, 0x18, 0xFF, 0xFB] ++ crammedPayload)
      [⟨.payload, crammedPayload⟩] := by
    rw [words, ← length_crammedPayload]
    refine Attribute.spell_unpadded ⟨.payload, crammedPayload⟩ ?_
    rw [length_crammedPayload]
    decide
  rw [crammedFrame, header, decode_toBytes_append_of_spell _ ?_ spelled]
  · rfl
  · rw [List.length_append, length_crammedPayload]
    decide

/-- **Not everything that is received can be passed on.** -/
theorem not_forwarded_crammedFrame :
    decode crammedFrame = .ok crammedMessage ∧
      ¬ ∃ written, crammedMessage.encode none = .ok written ∧
        decode written = .ok crammedMessage := by
  refine ⟨decode_crammedFrame, ?_⟩
  rintro ⟨written, encoded, -⟩
  have large : crammedMessage.bodyLength none = 65536 := by
    simp only [bodyLength, writtenAttributes, crammedMessage, Attribute.wireLengthAll,
      Attribute.wireLength, length_crammedPayload]
    decide
  have fits := (frame_of_encode encoded).1
  rw [large] at fits
  exact absurd fits (by decide)

end Message

end RelayDevice
