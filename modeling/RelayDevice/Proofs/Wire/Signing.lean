import RelayDevice.Account
import RelayDevice.Proofs.Wire.Authentication
import RelayDevice.Proofs.Wire.Answers

/-!
# Frames that pass their own check

A frame that is written with a key ends in its authentication attribute, and has no other: those of
the message are left out. The check of a frame stops at the first attribute of that kind, so here it
finds the tag where it was put (`Message.integrityOffset_signed`) and compares it with what it was
made from. `Integrity.verify_of_encode` says that every signed frame is verified under its own key,
whatever the message, and `Account.read_of_sign` what is known of a frame that an account signed.
-/

namespace RelayDevice

namespace Message

/-- **The tag begins where the unsigned frame ends.** -/
theorem integrityOffset_signed (m : Message) (key : Bytes) :
    ({ m with attributes := m.frameAttributes (some key) } : Message).integrityOffset
      = (m.unsigned (some key)).length := by
  -- the attributes in front of the tag are those that were written, and none is of its kind
  have others : ∀ a ∈ m.writtenAttributes (some key), a.kind ≠ .messageIntegrity := by
    intro a written
    have kept := (List.mem_filter.1 written).2
    simpa using kept
  have split : ({ m with attributes := m.frameAttributes (some key) } : Message).attributes
      = m.writtenAttributes (some key)
        ++ ⟨.messageIntegrity, Hmac.tag key (m.unsigned (some key))⟩ :: [] := rfl
  rw [integrityOffset_eq split rfl others, unsigned, List.length_append, Header.length_toBytes,
    Attribute.length_flatMap_toBytes]
  rfl

end Message

namespace Integrity

/-- Behind kind and size of the tag's attribute stand its twenty octets. -/
theorem take_drop_sign (key unsigned : Bytes) :
    ((sign key unsigned).drop (unsigned.length + 4)).take 20 = Hmac.tag key unsigned := by
  have twenty := Hmac.length_tag key unsigned
  rw [sign, ← List.drop_drop, List.drop_left, Attribute.toBytes]
  have behind := Attribute.drop_words AttributeKind.messageIntegrity (.ofNat (Hmac.tag key unsigned).length)
    (Bytes.zeroPad (Hmac.tag key unsigned)) 0
  rw [Nat.add_zero] at behind
  rw [behind, List.drop_zero, Bytes.zeroPad]
  exact List.take_left' twenty

/-- The walk over a signed frame ends where the unsigned frame does. -/
theorem locate_frame {m : Message} {key : Bytes} (fits : m.bodyLength (some key) ≤ 65535) :
    locate (m.frame (some key)) = some (m.unsigned (some key)).length := by
  refine (locate_eq_some_iff (Message.decode_frame fits)).2 ⟨?_, m.integrityOffset_signed key⟩
  rw [Message.hasAttribute_eq_any, Message.frameAttributes, List.any_append]
  simp

/-- **A signed frame passes its own check**, whatever the message. -/
theorem verify_of_encode {m : Message} {key frame : Bytes}
    (written : m.encode (some key) = .ok frame) : verify frame key = .ok .verified := by
  obtain ⟨fits, rfl⟩ := Message.frame_of_encode written
  have long : (m.unsigned (some key)).length + 4 + 20 ≤ (m.frame (some key)).length := by
    rw [Message.frame_some, Message.length_sign, Nat.add_assoc]
    exact Nat.le_refl _
  refine verify_eq_verified_iff.2 ⟨_, locate_frame fits, long, ?_⟩
  rw [Message.frame_some, take_drop_sign, sign, List.take_left]

end Integrity

/-- **What an account has signed** is read as the message, and passes the check. -/
theorem Account.read_of_sign {a : Account} {m : Message} {frame : Bytes}
    (signed : a.sign m = .ok frame) :
    Message.decode frame = .ok (m.delivered (some a.key) frame) ∧
      Integrity.verify frame a.key = .ok .verified :=
  ⟨Message.decode_encoded signed, Integrity.verify_of_encode signed⟩

end RelayDevice
