import Mathlib.Control.Monad.Basic
import RelayDevice.Error
import RelayDevice.Proofs.Wire.Reader

/-!
# What an accepted tag says

Reading a frame and checking its tag are two walks over the same octets.
`Integrity.locate_of_decode` says that they agree on every frame that can be read: the check finds
the first authentication attribute of the message where the attributes before it end
(`Message.integrityOffset`).

The check compares the twenty octets behind that attribute's kind and size with the tag of all
octets before it. It looks neither at the size that the attribute declares nor at what comes behind
the tag, so a verified message may go on behind its tag. `Message.IsSealed` is what a verified
message should be; `Integrity.isSealed_iff_of_verified` says what the check would have to ask for.

* `verify_eq_absent_iff`, `verify_eq_truncated_iff`, `verify_eq_verified_iff` — when the check ends
  in each of its outcomes;
* `Message.take_size_eq_iff`, `Message.eq_value_of_decode` — what the octets of an attribute of the
  message were.
-/

namespace RelayDevice

/-! ### Two walks over a frame -/

namespace Integrity

/-- **One step of the walk.** -/
theorem locateFrom_words (offset : Nat) (kind : AttributeKind) (size : UInt16) (rest : Bytes) :
    locateFrom offset (Bytes.ofUInt16 kind ++ Bytes.ofUInt16 size ++ rest)
      = if kind = .messageIntegrity then some offset
        else locateFrom (offset + 4 + Bytes.padded size.toNat)
          (rest.drop (Bytes.padded size.toNat)) := by
  simp only [Bytes.ofUInt16, List.cons_append, List.nil_append]
  rw [locateFrom]
  simp only [Bytes.toUInt16_ofUInt16]

/-- **The walks agree** on every list that can be read. -/
theorem locateFrom_of_decodeList {offset : Nat} {bytes : Bytes} {as : List Attribute}
    (read : Attribute.decodeList offset bytes = .ok as) :
    locateFrom offset bytes
      = if as.any (·.kind = .messageIntegrity) then
          some (offset + Attribute.wireLengthAll (as.takeWhile (·.kind ≠ .messageIntegrity)))
        else none := by
  induction as generalizing offset bytes with
  | nil =>
    have empty : bytes = [] := Attribute.decodeList_eq_nil read
    subst empty
    simp [locateFrom]
  | cons a as ih =>
    obtain ⟨size, rest, rfl, hsize, -, later⟩ := Attribute.decodeList_eq_cons read
    rw [locateFrom_words]
    by_cases hk : a.kind = .messageIntegrity
    · -- the walk stops here, with nothing before
      have found : (a :: as).any (·.kind = .messageIntegrity) = true := by simp [hk]
      have before : (a :: as).takeWhile (·.kind ≠ .messageIntegrity) = [] := by simp [hk]
      rw [if_pos hk, if_pos found, before]
      rfl
    · -- both walks skip the value and its padding
      have found : (a :: as).any (·.kind = .messageIntegrity)
          = as.any (·.kind = .messageIntegrity) := by simp [hk]
      have before : (a :: as).takeWhile (·.kind ≠ .messageIntegrity)
          = a :: as.takeWhile (·.kind ≠ .messageIntegrity) := by simp [hk]
      have skipped : offset + 4 + Bytes.padded size.toNat = offset + a.wireLength := by
        rw [hsize, Attribute.wireLength, Nat.add_assoc]
      rw [if_neg hk, skipped, hsize, ih later, found, before, Attribute.wireLengthAll,
        Nat.add_assoc]

end Integrity

namespace Message

/-- Where the first authentication attribute of a message begins in its frame: behind the header and
the attributes before it. -/
def integrityOffset (m : Message) : Nat :=
  Header.size + Attribute.wireLengthAll (m.attributes.takeWhile (·.kind ≠ .messageIntegrity))

theorem hasAttribute_eq_any (m : Message) (kind : AttributeKind) :
    m.hasAttribute kind = m.attributes.any (·.kind = kind) := by
  rw [hasAttribute, attribute?, Option.isSome_map, Bool.eq_iff_iff, List.find?_isSome,
    List.any_eq_true]

end Message

namespace Integrity

/-- The walk over a frame that can be read ends at its first authentication attribute. -/
theorem locate_of_decode {frame : Bytes} {m : Message} (decoded : Message.decode frame = .ok m) :
    locate frame
      = if m.hasAttribute .messageIntegrity then some m.integrityOffset else none := by
  rw [locate, locateFrom_of_decodeList (Message.decode_eq_ok decoded).2,
    Message.hasAttribute_eq_any]
  rfl

/-- Nothing is found exactly where the message has no authentication attribute. -/
theorem locate_eq_none_iff {frame : Bytes} {m : Message}
    (decoded : Message.decode frame = .ok m) :
    locate frame = none ↔ m.hasAttribute .messageIntegrity = false := by
  rw [locate_of_decode decoded]
  split
  · next has => simp only [has, reduceCtorEq]
  · next has => simp only [has]

/-- What is found is the first authentication attribute. -/
theorem locate_eq_some_iff {frame : Bytes} {m : Message} {offset : Nat}
    (decoded : Message.decode frame = .ok m) :
    locate frame = some offset ↔
      m.hasAttribute .messageIntegrity = true ∧ m.integrityOffset = offset := by
  rw [locate_of_decode decoded]
  split
  · next has => simp only [has, Option.some.injEq, true_and]
  · next has => simp only [has, reduceCtorEq, Bool.false_eq_true, false_and]

/-! ### The check and its outcomes -/

theorem verify_of_locate_none {frame : Bytes} (key : Bytes) (h : locate frame = none) :
    verify frame key = .ok .absent := by
  rw [verify, h]

/-- Twenty octets can be compared wherever the frame goes on that far. -/
theorem verify_of_locate_some {frame : Bytes} {offset : Nat} (key : Bytes)
    (h : locate frame = some offset) :
    verify frame key
      = if frame.length < offset + 4 + 20 then .error .truncated
        else if Hmac.tag key (frame.take offset) = (frame.drop (offset + 4)).take 20 then
          .ok .verified
        else .error .mismatch := by
  -- fewer octets are taken only where the frame ends before them
  have short : ((frame.drop (offset + 4)).take 20).length < 20
      ↔ frame.length < offset + 4 + 20 := by
    rw [List.length_take, List.length_drop]
    omega
  rw [verify, h]
  simp only [short]

theorem verify_eq_absent_iff {frame key : Bytes} :
    verify frame key = .ok .absent ↔ locate frame = none := by
  refine ⟨fun h => ?_, verify_of_locate_none key⟩
  cases located : locate frame with
  | none => rfl
  | some offset =>
    rw [verify_of_locate_some key located] at h
    split at h
    · cases h
    · split at h <;> cases h

theorem verify_eq_truncated_iff {frame key : Bytes} :
    verify frame key = .error .truncated ↔
      ∃ offset, locate frame = some offset ∧ frame.length < offset + 4 + 20 := by
  constructor
  · intro h
    cases located : locate frame with
    | none =>
      rw [verify_of_locate_none key located] at h
      cases h
    | some offset =>
      rw [verify_of_locate_some key located] at h
      split at h
      · next short => exact ⟨offset, rfl, short⟩
      · split at h <;> cases h
  · rintro ⟨offset, located, short⟩
    rw [verify_of_locate_some key located, if_pos short]

/-- A frame is verified where the octets behind the first authentication attribute's kind and size
are the tag of those before it. -/
theorem verify_eq_verified_iff {frame key : Bytes} :
    verify frame key = .ok .verified ↔
      ∃ offset, locate frame = some offset ∧ offset + 4 + 20 ≤ frame.length ∧
        Hmac.tag key (frame.take offset) = (frame.drop (offset + 4)).take 20 := by
  constructor
  · intro h
    cases located : locate frame with
    | none =>
      rw [verify_of_locate_none key located] at h
      cases h
    | some offset =>
      rw [verify_of_locate_some key located] at h
      split at h
      · cases h
      · next long =>
        split at h
        · next same => exact ⟨offset, rfl, Nat.le_of_not_lt long, same⟩
        · cases h
  · rintro ⟨offset, located, long, same⟩
    rw [verify_of_locate_some key located, if_neg (Nat.not_lt.2 long), if_pos same]

/-- A caller is told of a truncated tag only where the check says so. -/
theorem toDeviceError_eq_truncatedIntegrity_iff {outcome : Except IntegrityError Integrity} :
    outcome.mapError IntegrityError.toDeviceError = .error (.framing .truncatedIntegrity) ↔
      outcome = .error .truncated := by
  rw [Outcome.mapError_eq_error_iff]
  constructor
  · rintro ⟨cause, rfl, same⟩
    cases cause with
    | truncated => rfl
    | mismatch => cases same
  · rintro rfl
    exact ⟨.truncated, rfl, rfl⟩

/-- **The two walks agree.** On a frame that can be read, the check finds the first authentication
attribute of the message, behind the header and the attributes before it. So it reports a missing
attribute exactly where the message has none, and a truncated tag exactly where fewer than twenty
octets follow the attribute's kind and size. -/
theorem locate_and_verify_of_decode {frame : Bytes} {m : Message}
    (decoded : Message.decode frame = .ok m) :
    locate frame = (if m.hasAttribute .messageIntegrity then some m.integrityOffset else none) ∧
      ∀ key,
        (verify frame key = .ok .absent ↔ m.hasAttribute .messageIntegrity = false) ∧
        ((verify frame key).mapError IntegrityError.toDeviceError
            = .error (.framing .truncatedIntegrity) ↔
          m.hasAttribute .messageIntegrity = true ∧
            frame.length < m.integrityOffset + 4 + 20) := by
  refine ⟨locate_of_decode decoded, fun key => ⟨?_, ?_⟩⟩
  · rw [verify_eq_absent_iff, locate_eq_none_iff decoded]
  · rw [toDeviceError_eq_truncatedIntegrity_iff, verify_eq_truncated_iff]
    constructor
    · rintro ⟨offset, located, short⟩
      obtain ⟨has, rfl⟩ := (locate_eq_some_iff decoded).1 located
      exact ⟨has, short⟩
    · rintro ⟨has, short⟩
      exact ⟨m.integrityOffset, (locate_eq_some_iff decoded).2 ⟨has, rfl⟩, short⟩

/-- A frame that ends inside its authentication attribute: the attribute declares two octets, and
not even its padding is there. -/
def cutShort : Bytes :=
  [0x00, 0x01, 0x00, 0x12, 0x21, 0x12, 0xA4, 0x42, 1, 2, 3, 4, 5, 6, 7, 8, 9, 10, 11, 12,
    0x0C, 0x12, 0x00, 0x05, 0x6F, 0x76, 0x65, 0x6E, 0x73, 0, 0, 0,
    0x00, 0x08, 0x00, 0x02, 0xAA, 0xBB]

/-- What `cutShort` is read as. -/
def cutShortMessage : Message :=
  ⟨.request, .binding, ⟨[1, 2, 3, 4, 5, 6, 7, 8, 9, 10, 11, 12], rfl⟩,
    [⟨.name, [0x6F, 0x76, 0x65, 0x6E, 0x73]⟩, ⟨.messageIntegrity, [0xAA, 0xBB]⟩]⟩

theorem locate_and_verify_cutShort :
    Message.decode cutShort = .ok cutShortMessage ∧ locate cutShort = some 32 ∧
      ∀ key, (verify cutShort key).mapError IntegrityError.toDeviceError
        = .error (.framing .truncatedIntegrity) := by
  have decoded : Message.decode cutShort = .ok cutShortMessage := by decide +kernel
  have agree := locate_and_verify_of_decode decoded
  exact ⟨decoded, agree.1.trans (by decide), fun key => (agree.2 key).2.2 (by decide)⟩

end Integrity

/-! ### Sealed messages -/

namespace Message

/-- The first authentication attribute splits the attributes of a message. -/
theorem exists_split_of_hasAttribute {m : Message} (h : m.hasAttribute .messageIntegrity = true) :
    ∃ content checked rest, m.attributes = content ++ checked :: rest ∧
      checked.kind = .messageIntegrity ∧ ∀ a ∈ content, a.kind ≠ .messageIntegrity := by
  rw [hasAttribute, attribute?, Option.isSome_map, Option.isSome_iff_exists] at h
  obtain ⟨checked, found⟩ := h
  obtain ⟨kind, content, rest, split, before⟩ := List.find?_eq_some_iff_append.1 found
  exact ⟨content, checked, rest, split, by simpa using kind, by simpa using before⟩

theorem integrityOffset_eq {m : Message} {content rest : List Attribute} {checked : Attribute}
    (split : m.attributes = content ++ checked :: rest)
    (kind : checked.kind = .messageIntegrity) (before : ∀ a ∈ content, a.kind ≠ .messageIntegrity) :
    m.integrityOffset = Header.size + Attribute.wireLengthAll content := by
  have first : m.attributes.takeWhile (·.kind ≠ .messageIntegrity) = content := by
    rw [split, List.takeWhile_append_of_pos (by simpa using before),
      List.takeWhile_cons_of_neg (by simpa using kind), List.append_nil]
  rw [integrityOffset, first]

/-- The octets of an attribute stand behind those of the attributes before it. -/
theorem exists_octets_of_decode {frame : Bytes} {m : Message} {content rest : List Attribute}
    {a : Attribute} (decoded : decode frame = .ok m) (split : m.attributes = content ++ a :: rest) :
    ∃ offset size tail,
      frame.drop (Header.size + Attribute.wireLengthAll content)
        = Bytes.ofUInt16 a.kind ++ Bytes.ofUInt16 size ++ tail ∧
      size.toNat = a.value.length ∧ tail.take a.value.length = a.value ∧
      Attribute.decodeList offset (tail.drop (Bytes.padded a.value.length)) = .ok rest := by
  have read := (decode_eq_ok decoded).2
  rw [split] at read
  obtain ⟨size, tail, octets, declared, value, later⟩ :=
    Attribute.decodeList_eq_cons (Attribute.decodeList_append read)
  rw [List.drop_drop] at octets
  exact ⟨_, size, tail, octets, declared, value, later⟩

/-- The size that an attribute declares stands two octets behind its kind. -/
theorem take_size_eq_iff {frame : Bytes} {m : Message} {content rest : List Attribute}
    {a : Attribute} (decoded : decode frame = .ok m) (split : m.attributes = content ++ a :: rest)
    (size : UInt16) :
    (frame.drop (Header.size + Attribute.wireLengthAll content + 2)).take 2 = Bytes.ofUInt16 size
      ↔ a.value.length = size.toNat := by
  obtain ⟨_, declared, tail, octets, same, -, -⟩ := exists_octets_of_decode decoded split
  have word : (frame.drop (Header.size + Attribute.wireLengthAll content + 2)).take 2
      = Bytes.ofUInt16 declared := by
    rw [← List.drop_drop, octets]
    rfl
  rw [word, Bytes.ofUInt16_inj, ← same, UInt16.toNat_inj]

/-- **Nothing follows a value that runs to the end of the frame.** -/
theorem eq_value_of_decode {frame : Bytes} {m : Message} {content rest : List Attribute}
    {a : Attribute} (decoded : decode frame = .ok m) (split : m.attributes = content ++ a :: rest)
    (last : frame.length = Header.size + Attribute.wireLengthAll content + 4 + a.value.length) :
    rest = [] ∧ frame.drop (Header.size + Attribute.wireLengthAll content + 4) = a.value := by
  obtain ⟨_, size, tail, octets, -, value, later⟩ := exists_octets_of_decode decoded split
  -- behind kind and size there is room for the value alone
  have whole : tail.length = a.value.length := by
    have := congrArg List.length octets
    simp only [List.length_drop, List.length_append, Bytes.length_ofUInt16] at this
    omega
  -- so the padding, where there should be some, is not there either
  have behind : tail.drop (Bytes.padded a.value.length) = [] := by
    have := Bytes.le_padded a.value.length
    exact List.drop_eq_nil_of_le (by omega)
  constructor
  · rw [behind, Attribute.decodeList] at later
    cases later
    rfl
  · rw [← List.drop_drop, octets, ← value, List.take_of_length_le (Nat.le_of_eq whole)]
    rfl

theorem decode_of_decodeVerified {frame key : Bytes} {m : Message}
    (h : decodeVerified frame key = .ok m) : decode frame = .ok m := by
  obtain ⟨read, decoded, h⟩ := Outcome.bind_eq_ok_iff.1 h
  obtain ⟨_, _, h⟩ := Outcome.bind_eq_ok_iff.1 h
  cases h
  exact Outcome.mapError_eq_ok_iff.1 decoded

/-- **Sealed.** The attribute that is checked is the last one, holds a tag of twenty octets and
takes the last twenty-four of the frame, so that the tag covers all other attributes. -/
def IsSealed (m : Message) (frame key : Bytes) : Prop :=
  ∃ content tag, m.attributes = content ++ [⟨.messageIntegrity, tag⟩] ∧
    (∀ a ∈ content, a.kind ≠ .messageIntegrity) ∧ tag.length = 20 ∧
    frame.length = Header.size + Attribute.wireLengthAll content + Integrity.attributeSize ∧
    Hmac.tag key (frame.take (Header.size + Attribute.wireLengthAll content)) = tag

end Message

namespace Integrity

/-- The checked attribute of a sealed message declares twenty octets and begins where the last
twenty-four of the frame do. -/
theorem locate_of_isSealed {frame key : Bytes} {m : Message}
    (decoded : Message.decode frame = .ok m) (h : m.IsSealed frame key) :
    locate frame = some (frame.length - 24)
      ∧ (frame.drop (frame.length - 22)).take 2 = [0, 20] := by
  obtain ⟨content, tag, split, before, twenty, long, -⟩ := h
  rw [attributeSize] at long
  have has : m.hasAttribute .messageIntegrity = true := by
    rw [Message.hasAttribute_eq_any, split, List.any_append]
    simp
  have place : m.integrityOffset = Header.size + Attribute.wireLengthAll content :=
    Message.integrityOffset_eq split rfl before
  constructor
  · refine (locate_eq_some_iff decoded).2 ⟨has, ?_⟩
    rw [place]
    omega
  · have size : frame.length - 22 = Header.size + Attribute.wireLengthAll content + 2 := by omega
    rw [size]
    exact (Message.take_size_eq_iff decoded split 20).2 twenty

/-- An attribute that begins twenty-four octets before the end and declares a value of twenty leaves
room for nothing behind it, so a right tag in it seals the message. -/
theorem isSealed_of_locate {frame key : Bytes} {m : Message}
    (decoded : Message.decode frame = .ok m) (verified : verify frame key = .ok .verified)
    (last : locate frame = some (frame.length - 24))
    (size : (frame.drop (frame.length - 22)).take 2 = [0, 20]) : m.IsSealed frame key := by
  obtain ⟨offset, located, long, same⟩ := verify_eq_verified_iff.1 verified
  obtain rfl : frame.length - 24 = offset := Option.some.inj (last.symm.trans located)
  obtain ⟨has, place⟩ := (locate_eq_some_iff decoded).1 last
  obtain ⟨content, checked, rest, split, kind, before⟩ := Message.exists_split_of_hasAttribute has
  rw [Message.integrityOffset_eq split kind before] at place
  have twenty : checked.value.length = 20 := by
    refine (Message.take_size_eq_iff decoded split 20).1 ?_
    rw [place, show frame.length - 24 + 2 = frame.length - 22 by omega, size]
    rfl
  -- four octets and twenty are all that the frame has left
  obtain ⟨nothing, value⟩ := Message.eq_value_of_decode decoded split (by omega)
  refine ⟨content, checked.value, ?_, before, twenty, ?_, ?_⟩
  · rw [split, nothing, ← kind]
  · rw [place, attributeSize]
    omega
  · rw [place, same, ← place, value, ← twenty, List.take_length]

/-- **What a right tag covers.** The octets before the first authentication attribute, whatever that
attribute declares and whatever follows it. The message is sealed exactly where the attribute begins
twenty-four octets before the end of the frame and declares a value of twenty. -/
theorem isSealed_iff_of_verified {frame key : Bytes} {m : Message}
    (decoded : Message.decodeVerified frame key = .ok m)
    (verified : verify frame key = .ok .verified) :
    (∃ content checked rest, m.attributes = content ++ checked :: rest ∧
        checked.kind = .messageIntegrity ∧ (∀ a ∈ content, a.kind ≠ .messageIntegrity) ∧
        Hmac.tag key (frame.take (Header.size + Attribute.wireLengthAll content))
          = (frame.drop (Header.size + Attribute.wireLengthAll content + 4)).take 20) ∧
      (m.IsSealed frame key ↔
        locate frame = some (frame.length - 24) ∧
          (frame.drop (frame.length - 22)).take 2 = [0, 20]) := by
  have read : Message.decode frame = .ok m := Message.decode_of_decodeVerified decoded
  constructor
  · -- this much holds of every verified frame
    obtain ⟨offset, located, -, same⟩ := verify_eq_verified_iff.1 verified
    obtain ⟨has, place⟩ := (locate_eq_some_iff read).1 located
    obtain ⟨content, checked, rest, split, kind, before⟩ := Message.exists_split_of_hasAttribute has
    rw [Message.integrityOffset_eq split kind before] at place
    exact ⟨content, checked, rest, split, kind, before, by rw [place, same]⟩
  · constructor
    · exact locate_of_isSealed read
    · rintro ⟨last, size⟩
      exact isSealed_of_locate read verified last size

/-- A signed keepalive request with a name, under the key `[0x6B]`. -/
def sealedFrame : Bytes :=
  [0x3A, 0xCA, 0x00, 0x20, 0x21, 0x12, 0xA4, 0x42, 1, 2, 3, 4, 5, 6, 7, 8, 9, 10, 11, 12,
    0x0C, 0x12, 0x00, 0x04, 0x6F, 0x76, 0x65, 0x6E,
    0x00, 0x08, 0x00, 0x14, 0x24, 0x8C, 0x03, 0x85, 0x41, 0x46, 0xD9, 0xD7, 0x3C, 0x83, 0xB3, 0x42,
    0xA0, 0x99, 0xF2, 0x28, 0x8F, 0x4D, 0xF6, 0xEE]

/-- What `sealedFrame` is read as. -/
def sealedMessage : Message :=
  ⟨.request, .keepalive, ⟨[1, 2, 3, 4, 5, 6, 7, 8, 9, 10, 11, 12], rfl⟩,
    [⟨.name, [0x6F, 0x76, 0x65, 0x6E]⟩, ⟨.messageIntegrity, sealedFrame.drop 32⟩]⟩

theorem isSealed_sealedMessage :
    Message.decodeVerified sealedFrame [0x6B] = .ok sealedMessage ∧
      verify sealedFrame [0x6B] = .ok .verified ∧ sealedMessage.IsSealed sealedFrame [0x6B] := by
  have decoded : Message.decodeVerified sealedFrame [0x6B] = .ok sealedMessage := by decide +kernel
  have verified : verify sealedFrame [0x6B] = .ok .verified := by decide +kernel
  have last : locate sealedFrame = some (sealedFrame.length - 24) := by decide +kernel
  exact ⟨decoded, verified, (isSealed_iff_of_verified decoded verified).2.2 ⟨last, by decide⟩⟩

/-- A keepalive request with a name behind its tag, which covers the header alone. -/
def tailedFrame : Bytes :=
  [0x3A, 0xCA, 0x00, 0x20, 0x21, 0x12, 0xA4, 0x42, 1, 2, 3, 4, 5, 6, 7, 8, 9, 10, 11, 12,
    0x00, 0x08, 0x00, 0x14, 0x33, 0x4B, 0x36, 0x1A, 0x1F, 0x82, 0x8F, 0x98, 0xA4, 0x5D, 0x99, 0x27,
    0x70, 0x41, 0x08, 0x16, 0x49, 0x01, 0xFB, 0x4C,
    0x0C, 0x12, 0x00, 0x04, 0x6F, 0x76, 0x65, 0x6E]

/-- What `tailedFrame` is read as. -/
def tailedMessage : Message :=
  ⟨.request, .keepalive, ⟨[1, 2, 3, 4, 5, 6, 7, 8, 9, 10, 11, 12], rfl⟩,
    [⟨.messageIntegrity, (tailedFrame.drop 24).take 20⟩, ⟨.name, [0x6F, 0x76, 0x65, 0x6E]⟩]⟩

/-- **A right tag need not seal a frame.** The name stands behind the tag, so nothing vouches for
it, and yet the frame is accepted. -/
theorem not_isSealed_tailedMessage :
    Message.decodeVerified tailedFrame [0x6B] = .ok tailedMessage ∧
      verify tailedFrame [0x6B] = .ok .verified ∧
      ¬ tailedMessage.IsSealed tailedFrame [0x6B] := by
  have decoded : Message.decodeVerified tailedFrame [0x6B] = .ok tailedMessage := by decide +kernel
  have verified : verify tailedFrame [0x6B] = .ok .verified := by decide +kernel
  have first : locate tailedFrame = some 20 := by decide +kernel
  refine ⟨decoded, verified, fun h => ?_⟩
  -- sealed, the tag would begin eight octets later, behind the name
  have last := (locate_of_isSealed (Message.decode_of_decodeVerified decoded) h).1
  rw [first] at last
  exact absurd last (by decide)

end Integrity

end RelayDevice
