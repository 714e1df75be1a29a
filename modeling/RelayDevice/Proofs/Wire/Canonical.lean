import Mathlib.Logic.ExistsUnique
import RelayDevice.Proofs.Wire.Forwarding

/-!
# Frames that are written as they were read

A message that was read is written as the very frame it was read from, exactly if all padding in
that frame is there to its end and holds nothing but zeros (`Message.encode_eq_self_iff`). So
padding is all in which two frames of one message can differ.

The octets of a body are cut into padded attributes in one way only (`Attribute.Cut.unique`), which
is what makes "the padding of a frame" a notion. The crux is that what stands behind a value in its
groups of four octets belongs to it (`PaddedAttribute.take_padded`), whether the padding is complete
or the body ends there. The header leaves no freedom either: of the sixteen bits of the message type
two are always clear, and the other fourteen are those of class and method
(`MessageType.compose_classOf_methodOf`).
-/

namespace RelayDevice

/-! ### The header -/

namespace MessageType

/-- The class bits of a message type stay in their places. -/
theorem bits_classOf (t : UInt16) :
    (classOf t).bits = t.toNat / 256 % 2 * 256 + t.toNat / 16 % 2 * 16 := by
  have high : t.toNat / 256 % 2 = 0 ∨ t.toNat / 256 % 2 = 1 := by omega
  have low : t.toNat / 16 % 2 = 0 ∨ t.toNat / 16 % 2 = 1 := by omega
  rw [classOf]
  rcases high with high | high <;> rcases low with low | low <;> rw [high, low] <;> rfl

/-- A message type whose two topmost bits are clear consists of its class and its method. -/
theorem compose_classOf_methodOf {t : UInt16} (clear : t.toNat < 16384) :
    compose (classOf t) (methodOf t) = t := by
  -- from the low end: method, class, method, class, method
  have split : t.toNat = t.toNat % 16 + t.toNat / 16 % 2 * 16 + t.toNat / 32 % 8 * 32
      + t.toNat / 256 % 2 * 256 + t.toNat / 512 * 512 := by omega
  have top : t.toNat / 512 < 32 := by omega
  have low : (methodOf t).val % 16 = t.toNat % 16 := by
    simp only [methodOf]
    omega
  have middle : (methodOf t).val / 16 % 8 = t.toNat / 32 % 8 := by
    simp only [methodOf]
    omega
  have high : (methodOf t).val / 128 = t.toNat / 512 := by
    simp only [methodOf, Nat.mod_eq_of_lt top]
    omega
  apply UInt16.toNat_inj.1
  rw [toNat_compose, bits_classOf, low, middle, high]
  exact (split.trans (by omega)).symm

end MessageType

namespace Header

/-- **The header written again.** -/
theorem toBytes_of_parse {frame : Bytes} {h : Header} (parsed : parse frame = .ok h) :
    h.toBytes ++ frame.drop size = frame := by
  obtain ⟨t₀, t₁, l₀, l₁, c₀, c₁, c₂, c₃, rest, rfl, whole⟩ :=
    exists_octets_of_size_le (size_le_of_parse parsed)
  rw [parse, dif_pos whole] at parsed
  split at parsed
  · cases parsed
  · next top =>
    split at parsed
    · cases parsed
    · next same =>
      -- the two checks that were passed fix the octets that the header has no field for
      cases parsed
      have clear : (Bytes.toUInt16 t₀ t₁).toNat < 16384 := by
        have := t₁.toNat_lt
        rw [Bytes.toNat_toUInt16]
        omega
      have cookie : Header.cookie = [c₀, c₁, c₂, c₃] := (not_not.1 same).symm
      have behind : rest.take 12 ++ rest.drop 12 = rest := List.take_append_drop 12 rest
      rw [toBytes, MessageType.compose_classOf_methodOf clear, Bytes.ofUInt16_toUInt16,
        Bytes.ofUInt16_toUInt16, cookie]
      simp [size, behind]

end Header

/-! ### Cutting a body -/

namespace PaddedAttribute

/-- Padding as it is written: there to its end, and nothing but zeros. -/
def IsCanonical (p : PaddedAttribute) : Prop := p.IsComplete ∧ ∀ octet ∈ p.padding, octet = 0

instance (p : PaddedAttribute) : Decidable p.IsComplete := inferInstanceAs (Decidable (_ = _))

instance (p : PaddedAttribute) : Decidable p.IsCanonical := inferInstanceAs (Decidable (_ ∧ _))

/-- **What belongs to a value.** The groups of four octets that it fills or begins, as far as there
are any. -/
theorem take_padded {p : PaddedAttribute} {rest : Bytes} (ends : p.IsComplete ∨ rest = []) :
    (p.value ++ p.padding ++ rest).take (Bytes.padded p.value.length) = p.value ++ p.padding := by
  rcases ends with complete | rfl
  · refine List.take_left' ?_
    rw [List.length_append]
    exact complete
  · rw [List.append_nil]
    refine List.take_of_length_le ?_
    rw [List.length_append]
    exact p.padding_le

theorem drop_padded {p : PaddedAttribute} {rest : Bytes} (ends : p.IsComplete ∨ rest = []) :
    (p.value ++ p.padding ++ rest).drop (Bytes.padded p.value.length) = rest := by
  rcases ends with complete | rfl
  · exact drop_of_isComplete complete rest
  · rw [List.append_nil]
    exact p.drop_eq_nil

/-- Octets begin with an attribute and its padding in one way only. -/
theorem octets_append_inj {p q : PaddedAttribute} {rest rest' : Bytes}
    (ends : p.IsComplete ∨ rest = []) (ends' : q.IsComplete ∨ rest' = [])
    (same : p.octets ++ rest = q.octets ++ rest') : p = q ∧ rest = rest' := by
  -- kind and length come first and have two octets each, and equal lengths make equal values
  simp only [octets, List.append_assoc] at same
  obtain ⟨kind, same⟩ := List.append_inj same rfl
  obtain ⟨size, same⟩ := List.append_inj same rfl
  have length : p.value.length = q.value.length := by
    rw [← p.toNat_length, ← q.toNat_length, Bytes.ofUInt16_inj.1 size]
  obtain ⟨value, -⟩ := List.append_inj same length
  -- how long the padding is has to be told from what follows it
  rw [← List.append_assoc, ← List.append_assoc] at same
  have group := take_padded ends
  rw [same, length, take_padded ends'] at group
  have behind := drop_padded ends
  rw [same, length, drop_padded ends'] at behind
  refine ⟨?_, behind.symm⟩
  obtain ⟨⟨pkind, pvalue⟩, ppadding, _, _⟩ := p
  obtain ⟨⟨qkind, qvalue⟩, qpadding, _, _⟩ := q
  obtain rfl : pkind = qkind := Bytes.ofUInt16_inj.1 kind
  obtain rfl : pvalue = qvalue := value
  obtain rfl : qpadding = ppadding := List.append_cancel_left group
  rfl

/-- The attribute with the padding that is written. -/
def filled (p : PaddedAttribute) : PaddedAttribute where
  toAttribute := p.toAttribute
  padding := List.replicate (Bytes.padded p.value.length - p.value.length) 0
  length_lt := p.length_lt
  padding_le := by
    have := Bytes.le_padded p.value.length
    rw [List.length_replicate]
    omega

theorem isCanonical_filled (p : PaddedAttribute) : p.filled.IsCanonical := by
  refine ⟨?_, fun octet h => List.eq_of_mem_replicate h⟩
  have := Bytes.le_padded p.value.length
  simp only [IsComplete, filled, List.length_replicate]
  omega

theorem IsCanonical.filled_eq {p : PaddedAttribute} (canonical : p.IsCanonical) : p.filled = p := by
  obtain ⟨complete, zeros⟩ := canonical
  have length : p.padding.length = Bytes.padded p.value.length - p.value.length := by
    rw [IsComplete] at complete
    omega
  have padding : p.filled.padding = p.padding :=
    (List.eq_replicate_iff.2 ⟨length, zeros⟩).symm
  obtain ⟨a, padding', _, _⟩ := p
  simp only [filled] at padding ⊢
  simp only [padding]

end PaddedAttribute

namespace Attribute

/-- **How a body is cut**: into attributes with their padding, which is complete except perhaps
behind the last one. -/
def Cut (bytes : Bytes) (ps : List PaddedAttribute) : Prop :=
  bytes = ps.flatMap PaddedAttribute.octets ∧ ∀ p ∈ ps.dropLast, p.IsComplete

instance (bytes : Bytes) (ps : List PaddedAttribute) : Decidable (Cut bytes ps) :=
  inferInstanceAs (Decidable (_ ∧ _))

theorem spell_iff {bytes : Bytes} {as : List Attribute} :
    Spell bytes as ↔ ∃ ps, Cut bytes ps ∧ ps.map PaddedAttribute.toAttribute = as := by
  simp only [Spell, Cut, and_comm, and_left_comm]

theorem Cut.eq_nil {bytes : Bytes} (cut : Cut bytes []) : bytes = [] := cut.1

theorem Cut.exists_of_cons {bytes : Bytes} {p : PaddedAttribute} {ps : List PaddedAttribute}
    (cut : Cut bytes (p :: ps)) :
    ∃ rest, bytes = p.octets ++ rest ∧ Cut rest ps ∧ (p.IsComplete ∨ rest = []) := by
  obtain ⟨rfl, complete⟩ := cut
  refine ⟨ps.flatMap PaddedAttribute.octets, List.flatMap_cons, ?_⟩
  cases ps with
  | nil => exact ⟨⟨rfl, nofun⟩, .inr rfl⟩
  | cons q ps =>
    rw [List.dropLast_cons_cons] at complete
    obtain ⟨first, complete⟩ := List.forall_mem_cons.1 complete
    exact ⟨⟨rfl, complete⟩, .inl first⟩

/-- **A body is cut in one way only.** -/
theorem Cut.unique {bytes : Bytes} {ps qs : List PaddedAttribute} (cut : Cut bytes ps)
    (cut' : Cut bytes qs) : ps = qs := by
  induction ps generalizing bytes qs with
  | nil =>
    cases qs with
    | nil => rfl
    | cons q qs =>
      obtain ⟨rest, same, -⟩ := cut'.exists_of_cons
      rw [cut.eq_nil] at same
      exact absurd same.symm (List.append_ne_nil_of_left_ne_nil q.octets_ne_nil rest)
  | cons p ps ih =>
    obtain ⟨rest, rfl, later, ends⟩ := cut.exists_of_cons
    cases qs with
    | nil => exact absurd cut'.eq_nil (List.append_ne_nil_of_left_ne_nil p.octets_ne_nil rest)
    | cons q qs =>
      -- both begin with the same attribute, so what is left is cut twice as well
      obtain ⟨rest', same, later', ends'⟩ := cut'.exists_of_cons
      obtain ⟨rfl, rfl⟩ := PaddedAttribute.octets_append_inj ends ends' same
      rw [ih later later']

theorem cut_filled (ps : List PaddedAttribute) :
    Cut ((ps.map PaddedAttribute.toAttribute).flatMap toBytes) (ps.map PaddedAttribute.filled) := by
  refine ⟨?_, fun p hp => ?_⟩
  · rw [List.flatMap_map, List.flatMap_map]
    rfl
  · obtain ⟨q, -, rfl⟩ := List.mem_map.1 (List.dropLast_subset _ hp)
    exact q.isCanonical_filled.1

/-- **A body is that of the written attributes** exactly if its padding is canonical. -/
theorem Cut.eq_flatMap_toBytes_iff {bytes : Bytes} {ps : List PaddedAttribute}
    (cut : Cut bytes ps) :
    bytes = (ps.map PaddedAttribute.toAttribute).flatMap toBytes ↔ ∀ p ∈ ps, p.IsCanonical := by
  constructor
  · intro same p hp
    -- what is written can be cut with its own padding, and that is the only way
    rw [same] at cut
    rw [cut.unique (cut_filled ps)] at hp
    obtain ⟨q, -, rfl⟩ := List.mem_map.1 hp
    exact q.isCanonical_filled
  · intro canonical
    have kept : ps.map PaddedAttribute.filled = ps :=
      (List.map_congr_left fun p hp => (canonical p hp).filled_eq).trans (List.map_id' ps)
    have written := (cut_filled ps).1
    rw [kept] at written
    exact cut.1.trans written.symm

end Attribute

/-! ### Whole frames -/

namespace Message

theorem exists_header_of_decode {frame : Bytes} {m : Message} (decoded : decode frame = .ok m) :
    ∃ length : UInt16, length.toNat = (frame.drop Header.size).length ∧
      Header.parse frame = .ok ⟨m.messageClass, m.method, length, m.transactionId⟩ := by
  obtain ⟨header, parsed, decoded⟩ := Outcome.bind_eq_ok_iff.1 decoded
  dsimp only at decoded
  split at decoded
  · cases decoded
  · next declared =>
    obtain ⟨attributes, -, decoded⟩ := Outcome.bind_eq_ok_iff.1 decoded
    cases decoded
    exact ⟨header.length, not_not.1 declared, parsed⟩

/-- **A message is written as its frame** exactly if its attributes are written as the body of the
frame. -/
theorem encode_eq_self_iff_body {frame : Bytes} {m : Message} (decoded : decode frame = .ok m) :
    m.encode none = .ok frame ↔
      frame.drop Header.size = m.attributes.flatMap Attribute.toBytes := by
  constructor
  · intro written
    obtain ⟨-, rfl⟩ := frame_of_encode written
    rw [frame_none]
    exact List.drop_left' (m.header none).length_toBytes
  · intro body
    obtain ⟨length, declared, parsed⟩ := exists_header_of_decode decoded
    have size : m.bodyLength none = length.toNat := by
      rw [declared, body, Attribute.length_flatMap_toBytes]
      rfl
    have fits : m.bodyLength none ≤ 65535 := by
      have := length.toNat_lt
      omega
    -- the length in the header is that of the body, so the header is the one that was read
    have header : m.header none = ⟨m.messageClass, m.method, length, m.transactionId⟩ := by
      rw [Message.header, size, UInt16.ofNat_toNat]
    have whole := Header.toBytes_of_parse parsed
    rw [encode_eq_ok fits, frame_none, unsigned, header]
    rw [body] at whole
    exact congrArg Except.ok whole

/-- **Canonical frames.** The body of a frame that can be read is cut in exactly one way into the
attributes of its message with their padding, and the message is written as that very frame exactly
if all of the padding is complete, that of the last attribute included, and zero. -/
theorem encode_eq_self_iff {frame : Bytes} {m : Message} (decoded : decode frame = .ok m) :
    (∃! ps, Attribute.Cut (frame.drop Header.size) ps) ∧
      ∀ ps, Attribute.Cut (frame.drop Header.size) ps →
        ps.map PaddedAttribute.toAttribute = m.attributes ∧
        (m.encode none = .ok frame ↔ ∀ p ∈ ps, p.IsCanonical) := by
  have spelled := Attribute.decodeList_eq_ok_iff.1 (decode_eq_ok decoded).2
  obtain ⟨ps, cut, attributes⟩ := Attribute.spell_iff.1 spelled
  refine ⟨⟨ps, cut, fun qs cut' => cut'.unique cut⟩, fun qs cut' => ?_⟩
  obtain rfl := cut'.unique cut
  refine ⟨attributes, ?_⟩
  rw [encode_eq_self_iff_body decoded, ← attributes]
  exact cut.eq_flatMap_toBytes_iff

/-- The frame of `looseMessage` whose padding is complete and zero. -/
def evenFrame : Bytes :=
  [0x00, 0x01, 0x00, 0x10, 0x21, 0x12, 0xA4, 0x42, 12, 11, 10, 9, 8, 7, 6, 5, 4, 3, 2, 1,
    0x0C, 0x12, 0x00, 0x03, 0x68, 0x6F, 0x62, 0x00, 0x0C, 0x16, 0x00, 0x02, 0x01, 0x02, 0x00, 0x00]

/-- The name in both frames, with the given padding. -/
def paddedName (octet : UInt8) : PaddedAttribute :=
  ⟨⟨.name, [0x68, 0x6F, 0x62]⟩, [octet], by decide, Nat.le_refl 4⟩

theorem encode_eq_self_evenFrame :
    (decode evenFrame = .ok looseMessage ∧ looseMessage.encode none = .ok evenFrame) ∧
      decode looseFrame = .ok looseMessage ∧ ¬ looseMessage.encode none = .ok looseFrame := by
  have even : decode evenFrame = .ok looseMessage := by decide +kernel
  have loose : decode looseFrame = .ok looseMessage := by decide +kernel
  refine ⟨⟨even, ?_⟩, loose, ?_⟩
  · have cut : Attribute.Cut (evenFrame.drop Header.size)
        [paddedName 0, ⟨⟨.errorLevel, [1, 2]⟩, [0, 0], by decide, by decide⟩] := by decide +kernel
    exact ((encode_eq_self_iff even).2 _ cut).2.2 (by decide +kernel)
  · have cut : Attribute.Cut (looseFrame.drop Header.size)
        [paddedName 0xFF, ⟨⟨.errorLevel, [1, 2]⟩, [], by decide, by decide⟩] := by decide +kernel
    intro written
    have canonical := ((encode_eq_self_iff loose).2 _ cut).2.1 written
    exact absurd (canonical (paddedName 0xFF) List.mem_cons_self) (by decide +kernel)

end Message

end RelayDevice
