import RelayDevice.Proofs.Wire.Alteration

/-!
# Frames signed again

Who has a signed frame and a key can sign it anew: the frame is read and what was read is written
again (`Message.resign`). The tag that was read is one of the authentication attributes that the
writer leaves out, so nothing is left of the first signature (`Message.frame_delivered`), and the
new frame is the one that the message would have got under the new key at once. So of several
signatures in a row only the last one counts (`Message.foldlM_resign`), and a frame that is signed
again under its own key stays as it is.
-/

namespace RelayDevice

namespace Message

/-- Signs a frame anew: reads it, and writes what was read. -/
def resign (frame key : Bytes) : Except FramingError Bytes := do
  (← decode frame).encode (some key)

theorem writtenAttributes_some (m : Message) (key : Bytes) :
    m.writtenAttributes (some key) = m.attributes.filter (·.kind ≠ .messageIntegrity) := rfl

theorem attributes_delivered (m : Message) (key frame : Bytes) :
    (m.delivered (some key) frame).attributes
      = m.writtenAttributes (some key) ++ [⟨.messageIntegrity,
          Hmac.tag key (frame.take (frame.length - Integrity.attributeSize))⟩] := rfl

/-- With a key, the others are written as they were, and the tag that was read is left out. -/
theorem writtenAttributes_delivered (m : Message) (key frame key' : Bytes) :
    (m.delivered (some key) frame).writtenAttributes (some key')
      = m.writtenAttributes (some key') := by
  rw [writtenAttributes_some, attributes_delivered, List.filter_append,
    List.filter_cons_of_neg (by simp), List.filter_nil, List.append_nil, writtenAttributes_some,
    List.filter_filter, writtenAttributes_some]
  simp only [Bool.and_self]

/-- **Nothing is left of a signature** when the message is written with a key again. -/
theorem frame_delivered (m : Message) (key frame key' : Bytes) :
    (m.delivered (some key) frame).frame (some key') = m.frame (some key') := by
  have written := m.writtenAttributes_delivered key frame key'
  have length : (m.delivered (some key) frame).bodyLength (some key') = m.bodyLength (some key') := by
    rw [bodyLength, written, bodyLength]
  -- the header has the same class, method, transaction and length
  have header : (m.delivered (some key) frame).header (some key') = m.header (some key') := by
    rw [Message.header, length, messageClass_delivered, method_delivered, transactionId_delivered]
    rfl
  rw [frame_some, frame_some, unsigned, header, written, ← unsigned]

/-- All signatures take the same room, so a message that fits with one of them fits with any. -/
theorem encode_of_encode {m : Message} {key frame : Bytes}
    (signed : m.encode (some key) = .ok frame) (key' : Bytes) :
    m.encode (some key') = .ok (m.frame (some key')) := by
  have fits : m.bodyLength (some key') ≤ 65535 := (frame_of_encode signed).1
  exact encode_eq_ok fits

/-- **One signature for another.** -/
theorem encode_delivered {m : Message} {key frame : Bytes}
    (signed : m.encode (some key) = .ok frame) (key' : Bytes) :
    (m.delivered (some key) frame).encode (some key') = .ok (m.frame (some key')) := by
  have fits : (m.delivered (some key) frame).bodyLength (some key') ≤ 65535 := by
    rw [bodyLength, writtenAttributes_delivered]
    exact (frame_of_encode signed).1
  rw [encode_eq_ok fits, frame_delivered]

theorem resign_of_encode {m : Message} {key frame : Bytes}
    (signed : m.encode (some key) = .ok frame) (key' : Bytes) :
    resign frame key' = .ok (m.frame (some key')) := by
  rw [resign, decode_encoded signed]
  exact encode_delivered signed key'

/-- **Of several signatures the last one counts.** -/
theorem foldlM_resign {m : Message} {key frame : Bytes} (signed : m.encode (some key) = .ok frame)
    (keys : List Bytes) :
    keys.foldlM resign frame = m.encode (some (keys.getLastD key)) := by
  induction keys generalizing key frame with
  | nil => exact signed.symm
  | cons key' keys ih =>
    -- after one step the frame is again one of the message, signed with the first of the keys
    rw [List.foldlM_cons, resign_of_encode signed key', List.getLastD_cons]
    exact ih (encode_of_encode signed key')

/-- **Signing again replaces the signature.** A signed frame can be read, and what is read can be
written under any key: this gives what the message itself gives under that key, whatever
authentication attributes it had. However many keys a frame is signed with in turn, the message has
the signature of the last one, and under its own key a frame stays as it is. -/
theorem signature_replaced {m : Message} {key frame : Bytes}
    (signed : m.encode (some key) = .ok frame) :
    (∀ key', ∃ read again, decode frame = .ok read ∧ read.encode (some key') = .ok again ∧
        m.encode (some key') = .ok again) ∧
      (∀ keys : List Bytes, keys.foldlM resign frame = m.encode (some (keys.getLastD key))) ∧
      ∀ n, (List.replicate n key).foldlM resign frame = .ok frame := by
  refine ⟨fun key' => ?_, foldlM_resign signed, fun n => ?_⟩
  · exact ⟨_, m.frame (some key'), decode_encoded signed, encode_delivered signed key',
      encode_of_encode signed key'⟩
  · have last : (List.replicate n key).getLastD key = key := by
      cases n with
      | zero => rfl
      | succ n => rw [List.replicate_succ', List.getLastD_concat]
    rw [foldlM_resign signed, last, signed]

/-- `looseMessage` with authentication attributes of no use before, between and behind the others. -/
def taggedMessage : Message :=
  { looseMessage with
    attributes := ⟨.messageIntegrity, [1, 2]⟩ :: looseMessage.attributes.intersperse
      ⟨.messageIntegrity, []⟩ ++ [⟨.messageIntegrity, [3]⟩] }

theorem signature_replaced_taggedMessage :
    taggedMessage.encode (some [0x6B]) = .ok Integrity.signedFrame ∧
      (∃ read again, decode Integrity.signedFrame = .ok read ∧
        read.encode (some [0x6C]) = .ok again ∧ taggedMessage.encode (some [0x6C]) = .ok again) ∧
      [[0x6C], [0x6B]].foldlM resign Integrity.signedFrame = .ok Integrity.signedFrame ∧
      (List.replicate 3 [0x6B]).foldlM resign Integrity.signedFrame = .ok Integrity.signedFrame := by
  have signed : taggedMessage.encode (some [0x6B]) = .ok Integrity.signedFrame := by decide +kernel
  obtain ⟨once, often, same⟩ := signature_replaced signed
  exact ⟨signed, once [0x6C], (often [[0x6C], [0x6B]]).trans signed, same 3⟩

end Message

end RelayDevice
