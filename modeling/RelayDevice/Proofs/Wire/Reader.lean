import Mathlib.Algebra.Ring.Nat
import RelayDevice.Proofs.Outcome
import RelayDevice.Wire.Message

/-!
# Reading frames

What `Attribute.decodeList` does, one attribute at a time and in both directions:

* `decodeList_toBytes_append` — a written attribute is read back, whatever follows it;
* `decodeList_eq_nil`, `decodeList_eq_cons` — what the octets were, when a list was read: two words
  and a value, and behind the padding the octets of the remaining list.

The first direction gives `decodeList_flatMap_toBytes`, the reading of a written list. The second
holds for every list that can be read, also where padding is not zero or is cut short at the end,
and is what facts about received frames start from: `decodeList_append` finds the octets from which
any part of the list was read, and `Message.decode_eq_ok` says the same of the whole frame.
-/

namespace RelayDevice

namespace Attribute

/-! ### Lengths -/

theorem wireLengthAll_append (as bs : List Attribute) :
    wireLengthAll (as ++ bs) = wireLengthAll as + wireLengthAll bs := by
  induction as with
  | nil => simp [wireLengthAll]
  | cons a as ih => simp only [List.cons_append, wireLengthAll, ih, Nat.add_assoc]

theorem wireLengthAll_eq_sum (as : List Attribute) :
    wireLengthAll as = (as.map wireLength).sum := by
  induction as with
  | nil => rfl
  | cons a as ih => rw [wireLengthAll, ih, List.map_cons, List.sum_cons]

theorem length_flatMap_toBytes (as : List Attribute) :
    (as.flatMap toBytes).length = wireLengthAll as := by
  induction as with
  | nil => rfl
  | cons a as ih => rw [List.flatMap_cons, List.length_append, length_toBytes, ih, wireLengthAll]

/-- A list takes at least the octets of each of its values. -/
theorem length_value_le_wireLengthAll {as : List Attribute} {a : Attribute} (h : a ∈ as) :
    a.value.length ≤ wireLengthAll as := by
  induction as with
  | nil => cases h
  | cons b bs ih =>
    rw [wireLengthAll, wireLength]
    rcases List.mem_cons.1 h with rfl | hb
    · have := Bytes.le_padded a.value.length
      omega
    · have := ih hb
      omega

/-! ### Reading what was written -/

/-- **One step of the reader.** From two words on, the first is the kind and the second the size of
the value. -/
theorem decodeList_words (offset : Nat) (kind size : UInt16) (rest : Bytes) :
    decodeList offset (Bytes.ofUInt16 kind ++ Bytes.ofUInt16 size ++ rest)
      = if (rest.take size.toNat).length < size.toNat then
          .error (.attributeOverrun kind size.toNat (rest.take size.toNat).length)
        else
          (decodeList (offset + 4 + Bytes.padded size.toNat)
            (rest.drop (Bytes.padded size.toNat))).map (⟨kind, rest.take size.toNat⟩ :: ·) := by
  simp only [Bytes.ofUInt16, List.cons_append, List.nil_append]
  rw [decodeList]
  simp only [Bytes.toUInt16_ofUInt16]

/-- **One attribute read back.** The size fits its word, and the padding is written in full. -/
theorem decodeList_toBytes_append (offset : Nat) (a : Attribute) (rest : Bytes)
    (fits : a.value.length ≤ 65535) :
    decodeList offset (a.toBytes ++ rest)
      = (decodeList (offset + a.wireLength) rest).map (a :: ·) := by
  -- the length of the value has not wrapped in its word
  have size : (UInt16.ofNat a.value.length).toNat = a.value.length := by
    rw [UInt16.toNat_ofNat']
    omega
  have value : (Bytes.zeroPad a.value ++ rest).take a.value.length = a.value := by
    rw [Bytes.zeroPad, List.append_assoc, List.take_left]
  have behind : (Bytes.zeroPad a.value ++ rest).drop (Bytes.padded a.value.length) = rest :=
    List.drop_left' (Bytes.length_zeroPad a.value)
  rw [toBytes, List.append_assoc, decodeList_words, size, value, behind,
    if_neg (Nat.lt_irrefl _), wireLength, Nat.add_assoc]

theorem decodeList_flatMap_toBytes (offset : Nat) {as : List Attribute}
    (fits : ∀ a ∈ as, a.value.length ≤ 65535) :
    decodeList offset (as.flatMap toBytes) = .ok as := by
  induction as generalizing offset with
  | nil => rw [List.flatMap_nil, decodeList]
  | cons a as ih =>
    have later : decodeList (offset + a.wireLength) (as.flatMap toBytes) = .ok as :=
      ih _ fun b hb => fits b (List.mem_cons_of_mem a hb)
    rw [List.flatMap_cons, decodeList_toBytes_append _ _ _ (fits a List.mem_cons_self), later]
    rfl

/-! ### What was read -/

theorem decodeList_eq_nil {offset : Nat} {bytes : Bytes} (h : decodeList offset bytes = .ok []) :
    bytes = [] := by
  revert h
  fun_cases decodeList offset bytes with
  | case1 => exact fun _ => rfl
  | case2 => intro h; cases h
  | case3 =>
    intro h
    obtain ⟨as, -, h⟩ := Outcome.map_eq_ok_iff.1 h
    cases h
  | case4 => intro h; cases h

/-- **The octets of an attribute that was read.** Of the padding nothing is said: it may hold
anything and, behind the last attribute, end early. -/
theorem decodeList_eq_cons {offset : Nat} {bytes : Bytes} {a : Attribute} {as : List Attribute}
    (h : decodeList offset bytes = .ok (a :: as)) :
    ∃ size rest, bytes = Bytes.ofUInt16 a.kind ++ Bytes.ofUInt16 size ++ rest ∧
      size.toNat = a.value.length ∧ rest.take a.value.length = a.value ∧
      decodeList (offset + a.wireLength) (rest.drop (Bytes.padded a.value.length)) = .ok as := by
  revert h
  fun_cases decodeList offset bytes with
  | case1 => intro h; cases h
  | case2 => intro h; cases h
  | case3 k₀ k₁ l₀ l₁ rest kind size value long =>
    intro h
    obtain ⟨later, hlater, heq⟩ := Outcome.map_eq_ok_iff.1 h
    obtain ⟨rfl, rfl⟩ := List.cons.inj heq
    -- the reader takes what is there, and it did not report an overrun
    have whole : value.length = size := by
      have := List.length_take_le size rest
      exact Nat.le_antisymm this (Nat.le_of_not_lt long)
    refine ⟨Bytes.toUInt16 l₀ l₁, rest, ?_, whole.symm, ?_, ?_⟩
    · rw [Bytes.ofUInt16_toUInt16, Bytes.ofUInt16_toUInt16]
      rfl
    · rw [whole]
    · rw [wireLength, whole, ← Nat.add_assoc]
      exact hlater
  | case4 => intro h; cases h

/-- Two words are four octets. -/
theorem drop_words (kind size : UInt16) (rest : Bytes) (n : Nat) :
    (Bytes.ofUInt16 kind ++ Bytes.ofUInt16 size ++ rest).drop (4 + n) = rest.drop n := by
  rw [Nat.add_comm]
  rfl

/-- What follows in a list was read from what follows in the octets. -/
theorem decodeList_append {offset : Nat} {bytes : Bytes} {before after : List Attribute}
    (h : decodeList offset bytes = .ok (before ++ after)) :
    decodeList (offset + wireLengthAll before) (bytes.drop (wireLengthAll before)) = .ok after := by
  induction before generalizing offset bytes with
  | nil => exact h
  | cons a before ih =>
    obtain ⟨size, rest, rfl, -, -, later⟩ := decodeList_eq_cons h
    have step := ih later
    rw [List.drop_drop] at step
    -- the first attribute takes its two words and its padded value off the octets
    have skip : (Bytes.ofUInt16 a.kind ++ Bytes.ofUInt16 size ++ rest).drop
          (wireLengthAll (a :: before))
        = rest.drop (Bytes.padded a.value.length + wireLengthAll before) := by
      rw [wireLengthAll, wireLength, Nat.add_assoc 4, drop_words]
    rw [skip, wireLengthAll, ← Nat.add_assoc]
    exact step

end Attribute

/-! ### Whole frames -/

namespace Header

/-- No header is read from fewer than twenty octets. -/
theorem size_le_of_parse {frame : Bytes} {h : Header} (parsed : parse frame = .ok h) :
    size ≤ frame.length := by
  revert parsed
  fun_cases parse frame with
  | case3 t₀ t₁ l₀ l₁ c₀ c₁ c₂ c₃ rest whole =>
    -- the only case that succeeds: eight octets, and twelve for the transaction
    intro _
    have := List.length_take_le 12 rest
    have := List.length_take_le' 12 rest
    simp only [size, List.length_cons]
    omega
  | _ => intro parsed; cases parsed

end Header

namespace Message

/-- **The octets of a message that was read.** -/
theorem decode_eq_ok {frame : Bytes} {m : Message} (h : decode frame = .ok m) :
    Header.size ≤ frame.length ∧
      Attribute.decodeList Header.size (frame.drop Header.size) = .ok m.attributes := by
  obtain ⟨header, parsed, h⟩ := Outcome.bind_eq_ok_iff.1 h
  refine ⟨Header.size_le_of_parse parsed, ?_⟩
  dsimp only at h
  split at h
  · cases h
  · obtain ⟨attributes, read, h⟩ := Outcome.bind_eq_ok_iff.1 h
    cases h
    exact read

end Message

end RelayDevice
