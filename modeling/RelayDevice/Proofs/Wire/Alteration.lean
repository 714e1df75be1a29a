import RelayDevice.Proofs.Wire.Forwarding
import RelayDevice.Proofs.Wire.Signing

/-!
# Frames altered on the way

The check of a frame is a walk over octets that anybody may have changed. It reads two words of each
attribute, kind and length, and nothing else, so a change that spares these words cannot lead it
astray: it stops where it would have stopped (`Integrity.locate_of_spares`). In a signed frame that
is twenty-four octets before the end, and then the tag of all octets before them decides alone
(`Integrity.verify_altered`).

`Integrity.locateFrom_of_spares` carries the argument, an induction on the attributes of the frame.
The altered octets are not known to spell any attributes, so the places of the words are told from
the frame as it was.
-/

namespace RelayDevice

/-! ### Places of attributes -/

/-- Where attributes begin that stand one behind the other, the first of them at an offset. -/
def Attribute.offsets (offset : Nat) : List Attribute → List Nat
  | [] => []
  | a :: as => offset :: offsets (offset + a.wireLength) as

/-- **What a change must spare.** The octets are as many as before, and each attribute has its kind
and its length where they were. Header, values and padding may be anything. -/
structure Message.Spares (m : Message) (frame altered : Bytes) : Prop where
  length_eq : altered.length = frame.length
  words_eq : ∀ offset ∈ Attribute.offsets Header.size m.attributes,
    (altered.drop offset).take 4 = (frame.drop offset).take 4

namespace Integrity

theorem locateFrom_of_spares {frame altered : Bytes} (length : altered.length = frame.length)
    {offset : Nat} {as : List Attribute}
    (read : Attribute.decodeList offset (frame.drop offset) = .ok as)
    (words : ∀ place ∈ Attribute.offsets offset as,
      (altered.drop place).take 4 = (frame.drop place).take 4) :
    locateFrom offset (altered.drop offset) = locateFrom offset (frame.drop offset) := by
  induction as generalizing offset with
  | nil =>
    -- the frame ends here, and so do the altered octets
    have ended : frame.drop offset = [] := Attribute.decodeList_eq_nil read
    have short : altered.length ≤ offset := by
      rw [length]
      exact List.drop_eq_nil_iff.1 ended
    rw [ended, List.drop_eq_nil_of_le short]
  | cons a as ih =>
    obtain ⟨size, rest, octets, hsize, -, later⟩ := Attribute.decodeList_eq_cons read
    rw [Attribute.offsets, List.forall_mem_cons] at words
    obtain ⟨here, behind⟩ := words
    -- the first words are those of the frame, whatever follows them
    have spared : altered.drop offset
        = Bytes.ofUInt16 a.kind ++ Bytes.ofUInt16 size ++ altered.drop (offset + 4) := by
      rw [octets] at here
      calc altered.drop offset
          = (altered.drop offset).take 4 ++ (altered.drop offset).drop 4 :=
            (List.take_append_drop 4 _).symm
        _ = Bytes.ofUInt16 a.kind ++ Bytes.ofUInt16 size ++ altered.drop (offset + 4) := by
            rw [here, List.drop_drop]
            rfl
    rw [octets, spared, locateFrom_words, locateFrom_words]
    by_cases stop : a.kind = .messageIntegrity
    · rw [if_pos stop, if_pos stop]
    · -- both walks go on at the next attribute
      have next : rest.drop (Bytes.padded a.value.length) = frame.drop (offset + a.wireLength) := by
        have skip := Attribute.drop_words a.kind size rest (Bytes.padded a.value.length)
        rw [← octets, List.drop_drop] at skip
        exact skip.symm
      have next' : (altered.drop (offset + 4)).drop (Bytes.padded a.value.length)
          = altered.drop (offset + a.wireLength) := by
        rw [List.drop_drop, Attribute.wireLength, Nat.add_assoc]
      have place : offset + 4 + Bytes.padded a.value.length = offset + a.wireLength := by
        rw [Attribute.wireLength, Nat.add_assoc]
      rw [next] at later
      rw [if_neg stop, if_neg stop, hsize, next, next', place]
      exact ih later behind

/-- **The walk is not led astray.** -/
theorem locate_of_spares {frame altered : Bytes} {m : Message}
    (decoded : Message.decode frame = .ok m) (spares : m.Spares frame altered) :
    locate altered = locate frame :=
  locateFrom_of_spares spares.length_eq (Message.decode_eq_ok decoded).2 spares.words_eq

/-- **Tampering is left to the tag.** Take a signed frame and any octets that spare the kind and the
length of each of its attributes, the authentication attribute included. Under any key, they are
verified if their last twenty octets are the tag of all but the last twenty-four, and are refused as
not authentic otherwise. -/
theorem verify_altered {m : Message} {key frame : Bytes} (signed : m.encode (some key) = .ok frame)
    {altered : Bytes} (spares : (m.delivered (some key) frame).Spares frame altered)
    (key' : Bytes) :
    (verify altered key').mapError IntegrityError.toDeviceError
      = if Hmac.tag key' (altered.take (altered.length - attributeSize))
            = altered.drop (altered.length - 20) then
          .ok .verified
        else .error .authentication := by
  have same : locate altered = locate frame :=
    locate_of_spares (Message.decode_encoded signed) spares
  obtain ⟨fits, rfl⟩ := Message.frame_of_encode signed
  have length : altered.length = (m.unsigned (some key)).length + 24 := by
    rw [spares.length_eq, Message.frame_some, Message.length_sign]
    rfl
  -- the signed frame has its tag at its end, and that is where the walk stops
  have last : locate altered = some (altered.length - attributeSize) := by
    rw [same, locate_frame fits, length]
    rfl
  have tag : altered.length - attributeSize + 4 = altered.length - 20 := by
    rw [attributeSize]
    omega
  have whole : ¬ altered.length < altered.length - 20 + 20 := by omega
  have twenty : (altered.drop (altered.length - 20)).length ≤ 20 := by
    rw [List.length_drop]
    omega
  rw [verify_of_locate_some key' last, tag, if_neg whole, List.take_of_length_le twenty]
  split
  · rfl
  · rfl

/-- The frame of `looseMessage` under the key `[0x6B]`. -/
def signedFrame : Bytes :=
  [0x00, 0x01, 0x00, 0x28, 0x21, 0x12, 0xA4, 0x42, 12, 11, 10, 9, 8, 7, 6, 5, 4, 3, 2, 1,
    0x0C, 0x12, 0x00, 0x03, 0x68, 0x6F, 0x62, 0x00, 0x0C, 0x16, 0x00, 0x02, 0x01, 0x02, 0x00, 0x00,
    0x00, 0x08, 0x00, 0x14, 0x0F, 0xB6, 0xF2, 0xA8, 0x7F, 0x5D, 0x84, 0x2E, 0x48, 0xBA, 0x47, 0x5B,
    0xA2, 0xB5, 0x60, 0x47, 0xB5, 0x44, 0xD9, 0xDF]

/-- `signedFrame` with another header, other values and other padding, and the tag of all this under
the key `[0x6C]`. -/
def forgedFrame : Bytes :=
  List.replicate 20 0xFF ++
    [0x0C, 0x12, 0x00, 0x03, 0x48, 0x4F, 0x42, 0x07, 0x0C, 0x16, 0x00, 0x02, 0x09, 0x09, 0x09, 0x09,
      0x00, 0x08, 0x00, 0x14, 0x0D, 0xC6, 0x73, 0x9C, 0xEF, 0x30, 0xB3, 0xE7, 0x3E, 0xCB, 0x1E,
      0xCD, 0xC4, 0xBB, 0x51, 0xDE, 0x14, 0x62, 0x8A, 0xC8]

/-- Only who knows the key of the forger takes the forged frame for authentic. -/
theorem verify_altered_forgedFrame :
    Message.looseMessage.encode (some [0x6B]) = .ok signedFrame ∧
      (Message.looseMessage.delivered (some [0x6B]) signedFrame).Spares signedFrame forgedFrame ∧
      (verify forgedFrame [0x6C]).mapError IntegrityError.toDeviceError = .ok .verified ∧
      (verify forgedFrame [0x6B]).mapError IntegrityError.toDeviceError
        = .error .authentication := by
  have signed : Message.looseMessage.encode (some [0x6B]) = .ok signedFrame := by decide +kernel
  have spares :
      (Message.looseMessage.delivered (some [0x6B]) signedFrame).Spares signedFrame forgedFrame :=
    ⟨by decide, by decide +kernel⟩
  refine ⟨signed, spares, ?_, ?_⟩
  · exact (verify_altered signed spares [0x6C]).trans (if_pos (by decide +kernel))
  · exact (verify_altered signed spares [0x6B]).trans (if_neg (by decide +kernel))

end Integrity

end RelayDevice
