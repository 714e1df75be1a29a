import RelayDevice.Error
import RelayDevice.Proofs.Wire.Reader

/-!
# The grammar of frames

What a frame is, said without the reader. The body of a frame is a row of attributes, each with the
octets that pad it (`PaddedAttribute`). The padding may hold anything; it fills the last group of
four octets, except behind the last attribute, where it may be cut short (`Attribute.Spell`). Four
conditions on the header complete the grammar (`Message.IsFrame`).

* `Attribute.decodeList_eq_ok_iff` — the reader of the body accepts exactly the octets that spell
  attributes, and reads those attributes;
* `Header.exists_parse_eq_ok_iff` — when a header is read, and what length it then declares;
* `Message.decode_accepts_frames` — the reader of frames accepts exactly the grammar.

One attribute of the body is the crux. What the reader skips behind a value is its padding, be it
complete (`PaddedAttribute.drop_of_isComplete`) or not (`PaddedAttribute.drop_eq_nil`); and what it
skips can be taken for padding, which is complete as soon as anything is left behind it
(`PaddedAttribute.exists_of_take`).
-/

namespace RelayDevice

/-! ### Attributes with their padding -/

/-- An attribute as it stands in a frame, with the octets between its value and what follows. -/
structure PaddedAttribute extends Attribute where
  /-- What stands behind the value. -/
  padding : Bytes
  /-- The length of the value fits its two octets. -/
  length_lt : value.length < 65536
  /-- The padding does not reach past the group of four octets in which the value ends. -/
  padding_le : value.length + padding.length ≤ Bytes.padded value.length

namespace PaddedAttribute

/-- The octets of an attribute with its padding. -/
def octets (p : PaddedAttribute) : Bytes :=
  Bytes.ofUInt16 p.kind ++ Bytes.ofUInt16 (.ofNat p.value.length) ++ (p.value ++ p.padding)

/-- The padding is there to its end. -/
def IsComplete (p : PaddedAttribute) : Prop :=
  p.value.length + p.padding.length = Bytes.padded p.value.length

theorem octets_ne_nil (p : PaddedAttribute) : p.octets ≠ [] := nofun

/-- The length of the value has not wrapped in its word. -/
theorem toNat_length (p : PaddedAttribute) :
    (UInt16.ofNat p.value.length).toNat = p.value.length := by
  have := p.length_lt
  rw [UInt16.toNat_ofNat']
  omega

/-- Behind a value, the reader skips its complete padding and nothing else. -/
theorem drop_of_isComplete {p : PaddedAttribute} (complete : p.IsComplete) (rest : Bytes) :
    (p.value ++ p.padding ++ rest).drop (Bytes.padded p.value.length) = rest := by
  refine List.drop_left' ?_
  rw [List.length_append]
  exact complete

/-- Behind the last value, the reader skips all that is left. -/
theorem drop_eq_nil (p : PaddedAttribute) :
    (p.value ++ p.padding).drop (Bytes.padded p.value.length) = [] := by
  refine List.drop_eq_nil_of_le ?_
  rw [List.length_append]
  exact p.padding_le

/-- **What is skipped is padding.** Behind a value there are as many octets of padding as the reader
skips, or fewer if nothing is left then. -/
theorem exists_of_take {a : Attribute} {rest : Bytes} (fits : a.value.length < 65536)
    (value : rest.take a.value.length = a.value) :
    ∃ p : PaddedAttribute, p.toAttribute = a ∧
      p.value ++ p.padding ++ rest.drop (Bytes.padded a.value.length) = rest ∧
      (rest.drop (Bytes.padded a.value.length) ≠ [] → p.IsComplete) := by
  have le := Bytes.le_padded a.value.length
  -- the octets that are skipped: the value, and those behind it
  have skipped : a.value ++ (rest.take (Bytes.padded a.value.length)).drop a.value.length
      = rest.take (Bytes.padded a.value.length) := by
    have := List.take_append_drop a.value.length (rest.take (Bytes.padded a.value.length))
    rwa [List.take_take, Nat.min_eq_left le, value] at this
  have size := congrArg List.length skipped
  rw [List.length_append, List.length_take (i := Bytes.padded a.value.length)] at size
  refine ⟨⟨a, (rest.take (Bytes.padded a.value.length)).drop a.value.length, fits, ?_⟩, rfl, ?_, ?_⟩
  · rw [size]
    exact Nat.min_le_left _ _
  · change a.value ++ _ ++ _ = rest
    rw [skipped, List.take_append_drop]
  · intro left
    have more : Bytes.padded a.value.length < rest.length :=
      Nat.lt_of_not_le fun short => left (List.drop_eq_nil_of_le short)
    exact size.trans (Nat.min_eq_left (Nat.le_of_lt more))

end PaddedAttribute

/-! ### The body -/

namespace Attribute

/-- **Octets that spell attributes.** They are those of the attributes, each with its padding, in
order. Only behind the last attribute may the padding be incomplete. -/
def Spell (bytes : Bytes) (as : List Attribute) : Prop :=
  ∃ ps : List PaddedAttribute, bytes = ps.flatMap PaddedAttribute.octets ∧
    ps.map PaddedAttribute.toAttribute = as ∧ ∀ p ∈ ps.dropLast, p.IsComplete

/-- An attribute that ends with its value spells itself. -/
theorem spell_unpadded (a : Attribute) (fits : a.value.length < 65536) :
    Spell (Bytes.ofUInt16 a.kind ++ Bytes.ofUInt16 (.ofNat a.value.length) ++ a.value) [a] := by
  refine ⟨[⟨a, [], fits, Bytes.le_padded _⟩], ?_, rfl, nofun⟩
  rw [List.flatMap_cons, List.flatMap_nil, List.append_nil, PaddedAttribute.octets, List.append_nil]

/-- What is read was spelled. -/
theorem spell_of_decodeList {offset : Nat} {bytes : Bytes} {as : List Attribute}
    (read : decodeList offset bytes = .ok as) : Spell bytes as := by
  induction as generalizing offset bytes with
  | nil => exact ⟨[], decodeList_eq_nil read, rfl, nofun⟩
  | cons a as ih =>
    obtain ⟨size, rest, rfl, hsize, value, later⟩ := decodeList_eq_cons read
    obtain ⟨ps, spelled, rfl, complete⟩ := ih later
    obtain ⟨p, rfl, split, full⟩ := PaddedAttribute.exists_of_take (hsize ▸ size.toNat_lt) value
    refine ⟨p :: ps, ?_, rfl, ?_⟩
    · have word : UInt16.ofNat p.value.length = size := by rw [← hsize, UInt16.ofNat_toNat]
      rw [List.flatMap_cons, PaddedAttribute.octets, List.append_assoc _ _ (List.flatMap _ _),
        ← spelled, split, word]
    · cases ps with
      | nil => exact nofun
      | cons q ps =>
        -- more attributes follow, so the reader had octets left behind the padding
        have left : rest.drop (Bytes.padded p.value.length) ≠ [] := by
          rw [spelled, List.flatMap_cons]
          exact List.append_ne_nil_of_left_ne_nil q.octets_ne_nil _
        rw [List.dropLast_cons_cons]
        exact List.forall_mem_cons.2 ⟨full left, complete⟩

/-- One attribute is read off its octets, when its padding is skipped. -/
theorem decodeList_octets_append (offset : Nat) (p : PaddedAttribute) {rest : Bytes}
    (skip : (p.value ++ p.padding ++ rest).drop (Bytes.padded p.value.length) = rest) :
    decodeList offset (p.octets ++ rest)
      = (decodeList (offset + p.wireLength) rest).map (p.toAttribute :: ·) := by
  have value : (p.value ++ p.padding ++ rest).take p.value.length = p.value := by
    rw [List.append_assoc, List.take_left]
  rw [PaddedAttribute.octets, List.append_assoc, decodeList_words, p.toNat_length, value, skip,
    if_neg (Nat.lt_irrefl _), wireLength, Nat.add_assoc]

/-- What is spelled is read. -/
theorem decodeList_of_spell {bytes : Bytes} {as : List Attribute} (offset : Nat)
    (spelled : Spell bytes as) : decodeList offset bytes = .ok as := by
  obtain ⟨ps, rfl, rfl, complete⟩ := spelled
  induction ps generalizing offset with
  | nil => rw [List.flatMap_nil, decodeList, List.map_nil]
  | cons p ps ih =>
    cases ps with
    | nil =>
      rw [List.flatMap_cons, List.flatMap_nil, decodeList_octets_append offset p, decodeList]
      · rfl
      · rw [List.append_nil]
        exact p.drop_eq_nil
    | cons q ps =>
      rw [List.dropLast_cons_cons] at complete
      obtain ⟨full, complete⟩ := List.forall_mem_cons.1 complete
      rw [List.flatMap_cons,
        decodeList_octets_append offset p (PaddedAttribute.drop_of_isComplete full _),
        ih _ complete]
      rfl

/-- **The reader of the body accepts exactly its grammar.** -/
theorem decodeList_eq_ok_iff {offset : Nat} {bytes : Bytes} {as : List Attribute} :
    decodeList offset bytes = .ok as ↔ Spell bytes as :=
  ⟨spell_of_decodeList, decodeList_of_spell offset⟩

end Attribute

/-! ### The header -/

namespace Header

/-- Twenty octets begin with two words and a cookie, and twelve follow. -/
theorem exists_octets_of_size_le {frame : Bytes} (long : size ≤ frame.length) :
    ∃ t₀ t₁ l₀ l₁ c₀ c₁ c₂ c₃ rest,
      frame = t₀ :: t₁ :: l₀ :: l₁ :: c₀ :: c₁ :: c₂ :: c₃ :: rest ∧
        (rest.take 12).length = 12 := by
  rw [size] at long
  obtain _ | ⟨t₀, _ | ⟨t₁, _ | ⟨l₀, _ | ⟨l₁, _ | ⟨c₀, _ | ⟨c₁, _ | ⟨c₂, _ | ⟨c₃, rest⟩⟩⟩⟩⟩⟩⟩⟩ :=
    frame
  -- fewer than eight octets are too few
  iterate 8 · simp at long
  refine ⟨t₀, t₁, l₀, l₁, c₀, c₁, c₂, c₃, rest, rfl, ?_⟩
  simp only [List.length_cons] at long
  rw [List.length_take]
  omega

/-- **When a header is read.** The length that it then declares stands in the third and the fourth
octet. -/
theorem exists_parse_eq_ok_iff {frame : Bytes} {length : Nat} :
    (∃ h, parse frame = .ok h ∧ h.length.toNat = length) ↔
      size ≤ frame.length ∧ (frame.getD 0 0).toNat < 64 ∧ (frame.drop 4).take 4 = cookie ∧
        (frame.getD 2 0).toNat * 256 + (frame.getD 3 0).toNat = length := by
  by_cases long : size ≤ frame.length
  · obtain ⟨t₀, t₁, l₀, l₁, c₀, c₁, c₂, c₃, rest, rfl, whole⟩ := exists_octets_of_size_le long
    simp only [parse, whole, dite_true, List.getD_cons_zero, List.getD_cons_succ,
      List.drop_succ_cons, List.drop_zero, List.take_succ_cons, List.take_zero, long, true_and]
    by_cases top : t₀.toNat / 64 = 0
    · by_cases same : [c₀, c₁, c₂, c₃] = cookie
      · have low : t₀.toNat < 64 := by omega
        simp only [top, same, low, ne_eq, not_true_eq_false, if_false, Except.ok.injEq,
          exists_eq_left', Bytes.toNat_toUInt16, true_and]
      · simp only [top, same, ne_eq, not_true_eq_false, not_false_eq_true, if_false, if_true,
          reduceCtorEq, false_and, exists_false, and_false]
    · have high : ¬ t₀.toNat < 64 := by omega
      simp only [top, high, ne_eq, not_false_eq_true, if_true, reduceCtorEq, false_and,
        exists_false]
  · refine iff_of_false ?_ fun h => long h.1
    rintro ⟨h, parsed, -⟩
    exact long (size_le_of_parse parsed)

end Header

/-! ### Whole frames -/

namespace Message

/-- **The grammar of frames**, with the attributes that a frame holds. -/
structure IsFrame (frame : Bytes) (attributes : List Attribute) : Prop where
  /-- There are twenty octets for the header. -/
  size_le : Header.size ≤ frame.length
  /-- The two topmost bits of the first octet are clear. -/
  top_clear : (frame.getD 0 0).toNat < 64
  /-- The cookie stands in its place. -/
  cookie : (frame.drop 4).take 4 = Header.cookie
  /-- The third and the fourth octet are the length of what follows the header. -/
  length : (frame.getD 2 0).toNat * 256 + (frame.getD 3 0).toNat = frame.length - Header.size
  /-- What follows the header spells the attributes. -/
  body : Attribute.Spell (frame.drop Header.size) attributes

/-- What the reader of frames asks for: a header, the length that it declares, and a body. -/
theorem exists_decode_eq_ok_iff {frame : Bytes} {attributes : List Attribute} :
    (∃ m, decode frame = .ok m ∧ m.attributes = attributes) ↔
      (∃ h, Header.parse frame = .ok h ∧ h.length.toNat = frame.length - Header.size) ∧
        Attribute.decodeList Header.size (frame.drop Header.size) = .ok attributes := by
  rw [← List.length_drop]
  constructor
  · rintro ⟨m, decoded, rfl⟩
    refine ⟨?_, (decode_eq_ok decoded).2⟩
    obtain ⟨header, parsed, decoded⟩ := Outcome.bind_eq_ok_iff.1 decoded
    refine ⟨header, parsed, ?_⟩
    dsimp only at decoded
    split at decoded
    · cases decoded
    · next declared => exact not_not.1 declared
  · rintro ⟨⟨header, parsed, declared⟩, read⟩
    refine ⟨⟨header.messageClass, header.method, header.transactionId, attributes⟩, ?_, rfl⟩
    refine Outcome.bind_eq_ok_iff.2 ⟨header, parsed, ?_⟩
    dsimp only
    rw [if_neg (not_not.2 declared), read]
    rfl

theorem isFrame_iff {frame : Bytes} {attributes : List Attribute} :
    IsFrame frame attributes ↔ ∃ m, decode frame = .ok m ∧ m.attributes = attributes := by
  rw [exists_decode_eq_ok_iff, Header.exists_parse_eq_ok_iff, Attribute.decodeList_eq_ok_iff]
  constructor
  · rintro ⟨long, top, cookie, length, body⟩
    exact ⟨⟨long, top, cookie, length⟩, body⟩
  · rintro ⟨⟨long, top, cookie, length⟩, body⟩
    exact ⟨long, top, cookie, length, body⟩

/-- **The reader accepts exactly the grammar.** It reads the attributes that the frame holds, and
refuses whatever is no frame as malformed. -/
theorem decode_accepts_frames (frame : Bytes) :
    (∀ attributes, (∃ m, decode frame = .ok m ∧ m.attributes = attributes) ↔
      IsFrame frame attributes) ∧
    ((∃ cause, (decode frame).mapError DeviceError.framing = .error (.framing cause)) ↔
      ∀ attributes, ¬ IsFrame frame attributes) := by
  refine ⟨fun attributes => isFrame_iff.symm, ?_⟩
  simp only [isFrame_iff, Outcome.mapError_eq_error_iff]
  cases decode frame with
  | error cause => exact iff_of_true ⟨cause, cause, rfl, rfl⟩ (by rintro _ ⟨_, h, -⟩; cases h)
  | ok m => exact iff_of_false (by rintro ⟨_, _, h, -⟩; cases h) fun none => none _ ⟨m, rfl, rfl⟩

end Message

end RelayDevice
