import RelayDevice.Proofs.Argument.Access
import RelayDevice.Proofs.Wire.Authentication
import RelayDevice.Proofs.Wire.Grammar
import RelayDevice.Wire.Address

/-!
# Frames read by position

Whoever sends a frame chooses its lengths: that of the body, those of the values, and with them the
places where a reader by positions looks next. Here are the readers that go to these places, with
every step guarded, for all that arrives from the wire: the header and the whole length of a frame,
its attributes, its authentication, the fields of a message, and by `ArgumentList.decodeGuarded` the
arguments in it.

None of them can be made to lose its footing, `readers_keep_footing`. For the readers with a fixed
layout this is a matter of the size that they look at first. Two of them go through a frame in a loop,
and there the invariant is that the octets behind the offset are those that a reader without positions
has left (`Attribute.words_of_drop`). The loops differ at the end of a frame. The reader of attributes
sets its offset back to the end when the last padding is cut short, so `decodeListGuarded_eq` is said
of an offset that is at most the length; the search for the tag walks past the end and looks at the
length before it looks at octets (`locateFromGuarded_eq`).
-/

namespace RelayDevice

/-! ### Headers -/

namespace Header

/-- Reads the header of a frame by position. -/
def parseGuarded (frame : Bytes) : Guarded FramingError Header :=
  if frame.length < size then Guarded.refuse (.shortFrame frame.length)
  else do
    let first ← Guarded.octet frame 0
    if first.toNat / 64 ≠ 0 then Guarded.refuse .topBitsSet
    else
      let fixed ← Guarded.stretch frame 4 8
      if fixed ≠ cookie then Guarded.refuse .wrongCookie
      else
        let type ← Guarded.word frame 0
        let length ← Guarded.word frame 2
        let octets ← Guarded.stretch frame 8 size
        match TransactionId.ofBytes? octets with
        | none => Guarded.refuse (.transactionIdSize octets.length)
        | some transactionId =>
          pure ⟨MessageType.classOf type, MessageType.methodOf type, length, transactionId⟩

theorem parse_of_short {frame : Bytes} (short : frame.length < size) :
    parse frame = .error (.shortFrame frame.length) := by
  fun_cases parse frame with
  | case4 | case5 => rfl
  | case1 t₀ t₁ l₀ l₁ c₀ c₁ c₂ c₃ rest whole | case2 t₀ t₁ l₀ l₁ c₀ c₁ c₂ c₃ rest whole
  | case3 t₀ t₁ l₀ l₁ c₀ c₁ c₂ c₃ rest whole =>
    -- twelve octets behind the cookie would make twenty
    have := List.length_take_le' 12 rest
    simp only [size, List.length_cons] at short
    omega

/-- **A header by position.** Twenty octets are all that it takes. -/
theorem parseGuarded_eq (frame : Bytes) : parseGuarded frame = Guarded.steady (parse frame) := by
  rw [parseGuarded]
  by_cases short : frame.length < size
  · rw [if_pos short, parse_of_short short]
    rfl
  have long := Nat.le_of_not_lt short
  obtain ⟨t₀, t₁, l₀, l₁, c₀, c₁, c₂, c₃, rest, spelled, whole⟩ := exists_octets_of_size_le long
  have first : (Guarded.octet frame 0 : Guarded FramingError UInt8) = .ok t₀ := by
    rw [spelled]
    rfl
  have fixed : (Guarded.stretch frame 4 8 : Guarded FramingError Bytes) = .ok [c₀, c₁, c₂, c₃] := by
    rw [Guarded.stretch_of_le 4 (Nat.le_trans (by decide) long), spelled]
    rfl
  have type : (Guarded.word frame 0 : Guarded FramingError UInt16)
      = .ok (Bytes.toUInt16 t₀ t₁) := by
    rw [spelled]
    rfl
  have length : (Guarded.word frame 2 : Guarded FramingError UInt16)
      = .ok (Bytes.toUInt16 l₀ l₁) := by
    rw [spelled]
    rfl
  have octets : (Guarded.stretch frame 8 size : Guarded FramingError Bytes)
      = .ok (rest.take 12) := by
    rw [size, Guarded.stretch_of_le 12 long, spelled]
    rfl
  rw [if_neg short, first, Guarded.ok_bind]
  conv_rhs => rw [spelled, parse, dif_pos whole]
  by_cases top : t₀.toNat / 64 ≠ 0
  · rw [if_pos top, if_pos top]
    rfl
  rw [if_neg top, if_neg top, fixed, Guarded.ok_bind]
  by_cases wrong : [c₀, c₁, c₂, c₃] ≠ cookie
  · rw [if_pos wrong, if_pos wrong]
    rfl
  rw [if_neg wrong, if_neg wrong, type, Guarded.ok_bind, length, Guarded.ok_bind, octets,
    Guarded.ok_bind, TransactionId.ofBytes?, dif_pos whole]
  rfl

end Header

/-- Reads by position how long the whole frame is. -/
def declaredFrameLengthGuarded? {ε : Type} (octets : Bytes) : Guarded ε (Option Nat) :=
  if octets.length < 4 then pure none
  else do
    let length ← Guarded.word octets 2
    pure (some (Header.size + length.toNat))

theorem declaredFrameLengthGuarded?_eq {ε : Type} (octets : Bytes) :
    (declaredFrameLengthGuarded? octets : Guarded ε (Option Nat))
      = .ok (declaredFrameLength? octets) := by
  match octets with
  | [] | [_] | [_, _] | [_, _, _] => rfl
  | t₀ :: t₁ :: l₀ :: l₁ :: rest =>
    have enough : ¬ (t₀ :: t₁ :: l₀ :: l₁ :: rest).length < 4 :=
      Nat.not_lt.2 (Nat.le_add_left 4 rest.length)
    rw [declaredFrameLengthGuarded?, if_neg enough]
    rfl

/-! ### Attributes -/

namespace Attribute

section

variable {frame rest : Bytes} {offset : Nat} {k₀ k₁ l₀ l₁ : UInt8}

theorem length_of_words (left : frame.drop offset = k₀ :: k₁ :: l₀ :: l₁ :: rest) :
    offset + 4 + rest.length = frame.length := by
  have length := congrArg List.length left
  simp only [List.length_drop, List.length_cons] at length
  omega

theorem drop_of_words (left : frame.drop offset = k₀ :: k₁ :: l₀ :: l₁ :: rest) (size : Nat) :
    frame.drop (offset + 4 + size) = rest.drop size := by
  rw [← List.drop_drop, ← List.drop_drop, left]
  rfl

/-- The two words in front of a value, looked up by position. -/
theorem words_of_drop {ε : Type} (left : frame.drop offset = k₀ :: k₁ :: l₀ :: l₁ :: rest) :
    (Guarded.word frame offset : Guarded ε UInt16) = .ok (Bytes.toUInt16 k₀ k₁) ∧
      (Guarded.word frame (offset + 2) : Guarded ε UInt16) = .ok (Bytes.toUInt16 l₀ l₁) :=
  ⟨Guarded.word_of_drop 0 left rfl rfl, Guarded.word_of_drop 2 left rfl rfl⟩

end

theorem length_lt_four {bytes : Bytes}
    (few : ∀ k₀ k₁ l₀ l₁ rest, bytes = k₀ :: k₁ :: l₀ :: l₁ :: rest → False) :
    bytes.length < 4 := by
  match bytes with
  | [] | [_] | [_, _] | [_, _, _] => simp
  | k₀ :: k₁ :: l₀ :: l₁ :: rest => exact (few k₀ k₁ l₀ l₁ rest rfl).elim

/-- Reads attributes by position, from an offset up to the end of a frame. -/
def decodeListGuarded (frame : Bytes) (offset : Nat) : Guarded FramingError (List Attribute) :=
  if _ : offset < frame.length then do
    let left ← Guarded.difference frame.length offset
    if left < 4 then Guarded.refuse (.truncatedAttribute offset)
    else
      let kind ← Guarded.word frame offset
      let size ← Guarded.word frame (offset + 2)
      let start := offset + 4
      let stop := start + size.toNat
      if frame.length < stop then
        let left ← Guarded.difference frame.length start
        Guarded.refuse (.attributeOverrun kind size.toNat left)
      else
        let value ← Guarded.stretch frame start stop
        let next := min (start + Bytes.padded size.toNat) frame.length
        let ⟨_⟩ ← Guarded.further offset next
        let later ← decodeListGuarded frame next
        pure (⟨kind, value⟩ :: later)
  else pure []
termination_by frame.length - offset

/-- **One round of the reader.** Four octets are there, so both words can be looked up, and a value is
taken only when it ends within the frame. -/
theorem decodeListGuarded_of_words {frame rest : Bytes} {offset : Nat} {k₀ k₁ l₀ l₁ : UInt8}
    (left : frame.drop offset = k₀ :: k₁ :: l₀ :: l₁ :: rest) {size : Nat}
    (spelled : (Bytes.toUInt16 l₀ l₁).toNat = size) :
    decodeListGuarded frame offset
      = if rest.length < size then
          Guarded.refuse (.attributeOverrun (Bytes.toUInt16 k₀ k₁) size rest.length)
        else
          (decodeListGuarded frame (min (offset + 4 + Bytes.padded size) frame.length)).map
            (⟨Bytes.toUInt16 k₀ k₁, rest.take size⟩ :: ·) := by
  have length := length_of_words left
  obtain ⟨kind, words⟩ := words_of_drop left
  rw [decodeListGuarded, dif_pos (by omega), Guarded.difference_of_le (by omega), Guarded.ok_bind,
    if_neg (by omega), kind, Guarded.ok_bind, words, Guarded.ok_bind, spelled]
  dsimp only
  by_cases short : rest.length < size
  · have overrun : frame.length - (offset + 4) = rest.length := by omega
    rw [if_pos (by omega), if_pos short, Guarded.difference_of_le (by omega), Guarded.ok_bind,
      overrun]
  · have behind : frame.drop (offset + 4) = rest := drop_of_words left 0
    have read : (Guarded.stretch frame (offset + 4) (offset + 4 + size) :
        Guarded FramingError Bytes) = .ok (rest.take size) := by
      rw [Guarded.stretch_of_le _ (by omega), behind]
    -- the two words alone bring the reader four octets further
    have ahead : offset < min (offset + 4 + Bytes.padded size) frame.length := by omega
    rw [if_neg (by omega), if_neg short, read, Guarded.ok_bind, Guarded.further_of_lt ahead,
      Guarded.ok_bind]
    cases decodeListGuarded frame (min (offset + 4 + Bytes.padded size) frame.length) <;> rfl

/-- **Attributes by position.** Where the last padding is cut short, the offset is set back to the
end of the frame, and it is there that the reader without positions has nothing left. -/
theorem decodeListGuarded_eq {frame bytes : Bytes} {offset : Nat} (left : frame.drop offset = bytes) :
    decodeListGuarded frame (min offset frame.length)
      = Guarded.steady (decodeList offset bytes) := by
  fun_induction decodeList offset bytes with
  | case1 offset =>
    have beyond : frame.length ≤ offset := List.drop_eq_nil_iff.1 left
    rw [Nat.min_eq_right beyond, decodeListGuarded, dif_neg (Nat.lt_irrefl _)]
    rfl
  | case2 offset k₀ k₁ l₀ l₁ rest kind size value short =>
    have length := length_of_words left
    have fewer : value.length = rest.length ∧ rest.length < size := by
      rw [List.length_take] at short ⊢
      omega
    rw [Nat.min_eq_left (by omega), decodeListGuarded_of_words left rfl, if_pos fewer.2, fewer.1]
    rfl
  | case3 offset k₀ k₁ l₀ l₁ rest kind size value long ih =>
    have length := length_of_words left
    have enough : ¬ rest.length < size := by
      rw [List.length_take] at long
      omega
    rw [Nat.min_eq_left (by omega), decodeListGuarded_of_words left rfl, if_neg enough,
      ih (drop_of_words left _), Guarded.steady_map]
  | case4 offset bytes some few =>
    have nonempty : 0 < bytes.length := List.length_pos_iff.2 some
    have fewer : bytes.length < 4 := length_lt_four few
    rw [← left, List.length_drop] at nonempty fewer
    -- there are octets behind the offset, but too few for two words
    rw [Nat.min_eq_left (by omega), decodeListGuarded, dif_pos (by omega),
      Guarded.difference_of_le (by omega), Guarded.ok_bind, if_pos (by omega)]
    rfl

end Attribute

namespace Message

/-- Reads a whole frame by position. -/
def decodeGuarded (frame : Bytes) : Guarded FramingError Message := do
  let header ← Header.parseGuarded frame
  let body ← Guarded.difference frame.length Header.size
  if header.length.toNat ≠ body then
    Guarded.refuse (.lengthMismatch header.length.toNat body)
  else
    let attributes ← Attribute.decodeListGuarded frame Header.size
    pure ⟨header.messageClass, header.method, header.transactionId, attributes⟩

/-- **A frame by position.** A header was read, so there is something to subtract its size from. -/
theorem decodeGuarded_eq (frame : Bytes) : decodeGuarded frame = Guarded.steady (decode frame) := by
  rw [decodeGuarded, decode, Guarded.steady_bind, Header.parseGuarded_eq]
  cases parsed : Header.parse frame with
  | error e => rfl
  | ok header =>
    have long : Header.size ≤ frame.length := Header.size_le_of_parse parsed
    -- the first attribute begins within the frame, so its offset is not set back
    have attributes : Attribute.decodeListGuarded frame (min Header.size frame.length)
        = Guarded.steady (Attribute.decodeList Header.size (frame.drop Header.size)) :=
      Attribute.decodeListGuarded_eq rfl
    rw [Nat.min_eq_left long] at attributes
    rw [Guarded.steady_ok, Guarded.ok_bind, Guarded.ok_bind, Guarded.difference_of_le long,
      Guarded.ok_bind, attributes]
    dsimp only
    rw [List.length_drop]
    split
    · rfl
    · rw [Guarded.steady_bind]
      rfl

end Message

/-! ### Authentication -/

namespace Integrity

/-- Looks by position for an authentication attribute, from an offset on. -/
def locateFromGuarded {ε : Type} (frame : Bytes) (offset : Nat) : Guarded ε (Option Nat) :=
  if _ : offset + 4 ≤ frame.length then do
    let kind ← Guarded.word frame offset
    let size ← Guarded.word frame (offset + 2)
    if kind = AttributeKind.messageIntegrity then pure (some offset)
    else
      let next := offset + (4 + Bytes.padded size.toNat)
      let ⟨_⟩ ← Guarded.further offset next
      locateFromGuarded frame next
  else pure none
termination_by frame.length - offset

/-- Looks by position for the first authentication attribute of a frame. -/
def locateGuarded {ε : Type} (frame : Bytes) : Guarded ε (Option Nat) :=
  locateFromGuarded frame Header.size

/-- Compares the tag of a frame by position. -/
def verifyGuarded (frame key : Bytes) : Guarded IntegrityError Integrity := do
  let place ← locateGuarded frame
  match place with
  | none => pure .absent
  | some offset =>
    match Guarded.stretch? frame (offset + 4) (offset + 4 + 20) with
    | none => Guarded.refuse .truncated
    | some tag =>
      let signed ← Guarded.stretch frame 0 offset
      if Hmac.tag key signed = tag then pure .verified else Guarded.refuse .mismatch

/-- **One round of the search.** It goes on behind the value, wherever the size says that is. -/
theorem locateFromGuarded_of_words {ε : Type} {frame rest : Bytes} {offset : Nat}
    {k₀ k₁ l₀ l₁ : UInt8} (left : frame.drop offset = k₀ :: k₁ :: l₀ :: l₁ :: rest) :
    (locateFromGuarded frame offset : Guarded ε (Option Nat))
      = if Bytes.toUInt16 k₀ k₁ = AttributeKind.messageIntegrity then .ok (some offset)
        else
          locateFromGuarded frame
            (offset + 4 + Bytes.padded (Bytes.toUInt16 l₀ l₁).toNat) := by
  have length := Attribute.length_of_words left
  obtain ⟨kind, size⟩ := Attribute.words_of_drop left
  have ahead : offset < offset + 4 + Bytes.padded (Bytes.toUInt16 l₀ l₁).toNat := by omega
  rw [locateFromGuarded, dif_pos (by omega), kind, Guarded.ok_bind, size, Guarded.ok_bind]
  dsimp only
  rw [← Nat.add_assoc, Guarded.further_of_lt ahead, Guarded.ok_bind]
  rfl

theorem locateFromGuarded_eq {ε : Type} {frame bytes : Bytes} {offset : Nat}
    (left : frame.drop offset = bytes) :
    (locateFromGuarded frame offset : Guarded ε (Option Nat)) = .ok (locateFrom offset bytes) := by
  fun_induction locateFrom offset bytes with
  | case1 offset k₀ k₁ l₀ l₁ rest found => rw [locateFromGuarded_of_words left, if_pos found]
  | case2 offset k₀ k₁ l₀ l₁ rest other size ih =>
    rw [locateFromGuarded_of_words left, if_neg other]
    exact ih (Attribute.drop_of_words left size)
  | case3 offset bytes few =>
    have fewer : bytes.length < 4 := Attribute.length_lt_four few
    rw [← left, List.length_drop] at fewer
    rw [locateFromGuarded, dif_neg (by omega)]
    rfl

theorem locateGuarded_eq {ε : Type} (frame : Bytes) :
    (locateGuarded frame : Guarded ε (Option Nat)) = .ok (locate frame) :=
  locateFromGuarded_eq rfl

/-- **The check by position.** The octets that were signed end where the attribute begins, which is
before the end of a tag that is there. -/
theorem verifyGuarded_eq (frame key : Bytes) :
    verifyGuarded frame key = Guarded.steady (verify frame key) := by
  rw [verifyGuarded, locateGuarded_eq, Guarded.ok_bind]
  cases located : locate frame with
  | none =>
    rw [verify_of_locate_none key located]
    rfl
  | some offset =>
    rw [verify_of_locate_some key located]
    dsimp only
    by_cases short : frame.length < offset + 4 + 20
    · rw [if_pos short, Guarded.stretch?_of_lt short]
      rfl
    · have within := Nat.le_of_not_lt short
      rw [if_neg short, Guarded.stretch?_of_le 20 within]
      dsimp only
      rw [Guarded.stretch_from_start (by omega), Guarded.ok_bind]
      split <;> rfl

end Integrity

/-! ### Fields of a message -/

namespace Message

variable {ε : Type}

/-- Takes the first four octets of an attribute as a word. -/
def wordGuarded? (m : Message) (kind : AttributeKind) : Guarded ε (Option UInt32) :=
  match m.attribute? kind with
  | none => pure none
  | some value =>
    match Guarded.stretch? value 0 4 with
    | none => pure none
    | some octets => do
      let word ← Guarded.doubleWord octets 0
      pure (some word)

/-- Reads the number and the reason of a refusal by position. -/
def errorCodeGuarded? (m : Message) : Guarded ε (Option (Nat × String)) :=
  match m.attribute? .errorCode with
  | none => pure none
  | some value =>
    if value.length < 4 then pure none
    else do
      let hundreds ← Guarded.octet value 2
      let rest ← Guarded.octet value 3
      let reason ← Guarded.stretch value 4 value.length
      let text := (Utf8.repair reason).toList.reverse.dropWhile (· = '\x00')
      pure (some (hundreds.toNat % 8 * 100 + rest.toNat, String.ofList text.reverse))

end Message

/-- Reads the value of an address attribute by position. -/
def Endpoint.ofValueGuarded (value : Bytes) : Guarded MessageError Endpoint :=
  if value.length < 4 then Guarded.refuse .addressTooShort
  else do
    let family ← Guarded.octet value 1
    if family = 1 then
      if 8 ≤ value.length then
        let port ← Guarded.word value 2
        let address ← Guarded.doubleWord value 4
        pure ⟨address, port⟩
      else Guarded.refuse .addressTruncated
    else if family = 2 then Guarded.refuse .addressOfSixteenOctets
    else Guarded.refuse (.unknownFamily family)

/-- Takes the mask off an address and a port, with the words of the cookie looked up by position. -/
def Endpoint.maskedGuarded (e : Endpoint) : Guarded MessageError Endpoint := do
  let short ← Guarded.word Header.cookie 0
  let long ← Guarded.doubleWord Header.cookie 0
  pure ⟨e.address ^^^ long, e.port ^^^ short⟩

/-- Reads the address that a message tells by position. -/
def Message.mappedAddressGuarded (m : Message) : Guarded MessageError (Option Endpoint) :=
  match m.attribute? .xorMappedAddress with
  | some value => do
    let told ← Endpoint.ofValueGuarded value
    let unmasked ← told.maskedGuarded
    pure (some unmasked)
  | none =>
    match m.attribute? .mappedAddress with
    | some value => do
      let told ← Endpoint.ofValueGuarded value
      pure (some told)
    | none => pure none

namespace Message

variable {ε : Type}

theorem wordGuarded?_eq (m : Message) (kind : AttributeKind) :
    (m.wordGuarded? kind : Guarded ε (Option UInt32)) = .ok (m.word? kind) := by
  rw [wordGuarded?, word?]
  match m.attribute? kind with
  | none | some [] | some [_] | some [_, _] | some [_, _, _] => rfl
  | some (a :: b :: c :: d :: rest) =>
    have within : 0 + 4 ≤ (a :: b :: c :: d :: rest).length := Nat.le_add_left 4 rest.length
    dsimp only
    rw [Guarded.stretch?_of_le 4 within]
    rfl

theorem errorCodeGuarded?_eq (m : Message) :
    (m.errorCodeGuarded? : Guarded ε (Option (Nat × String))) = .ok m.errorCode? := by
  rw [errorCodeGuarded?, errorCode?]
  match m.attribute? .errorCode with
  | none | some [] | some [_] | some [_, _] | some [_, _, _] => rfl
  | some (a :: b :: hundreds :: rest :: reason) =>
    have long : 4 ≤ (a :: b :: hundreds :: rest :: reason).length :=
      Nat.le_add_left 4 reason.length
    dsimp only
    rw [if_neg (Nat.not_lt.2 long), Guarded.stretch_to_end long]
    rfl

end Message

/-- **An address by position.** The octets of the address are looked up only where there are eight. -/
theorem Endpoint.ofValueGuarded_eq (value : Bytes) :
    ofValueGuarded value = Guarded.steady (ofValue value) := by
  match value with
  | [] | [_] | [_, _] | [_, _, _] => rfl
  | z :: family :: p₀ :: p₁ :: rest =>
    have long : ¬ (z :: family :: p₀ :: p₁ :: rest).length < 4 :=
      Nat.not_lt.2 (Nat.le_add_left 4 rest.length)
    have second : (Guarded.octet (z :: family :: p₀ :: p₁ :: rest) 1 :
        Guarded MessageError UInt8) = .ok family := rfl
    rw [ofValueGuarded, if_neg long, second, Guarded.ok_bind]
    unfold ofValue
    dsimp only
    by_cases four : family = 1
    · rw [if_pos four, if_pos four]
      match rest with
      | a :: b :: c :: d :: more =>
        have eight : 8 ≤ (z :: family :: p₀ :: p₁ :: a :: b :: c :: d :: more).length :=
          Nat.le_add_left 8 more.length
        rw [if_pos eight]
        rfl
      | [] | [_] | [_, _] | [_, _, _] => rfl
    · rw [if_neg four, if_neg four]
      split <;> rfl

theorem Endpoint.maskedGuarded_eq (e : Endpoint) : e.maskedGuarded = .ok e.masked := rfl

theorem Message.mappedAddressGuarded_eq (m : Message) :
    m.mappedAddressGuarded = Guarded.steady m.mappedAddress := by
  rw [mappedAddressGuarded, mappedAddress]
  cases m.attribute? .xorMappedAddress with
  | some value =>
    dsimp only
    rw [Endpoint.ofValueGuarded_eq]
    cases Endpoint.ofValue value with
    | error e => rfl
    | ok told =>
      rw [Guarded.steady_ok, Guarded.ok_bind, Endpoint.maskedGuarded_eq]
      rfl
  | none =>
    cases m.attribute? .mappedAddress with
    | none => rfl
    | some value =>
      dsimp only
      rw [Endpoint.ofValueGuarded_eq]
      cases Endpoint.ofValue value <;> rfl

/-! ### Everything that comes from the wire -/

/-- **No reader can be made to lose its footing.** -/
theorem readers_keep_footing {ε : Type} (octets key : Bytes) (defs : List ArgumentDef) (m : Message)
    (kind : AttributeKind) :
    Guarded.KeepsFooting (Header.parseGuarded octets) (Header.parse octets) ∧
      Guarded.KeepsFooting (Message.decodeGuarded octets) (Message.decode octets) ∧
      Guarded.KeepsFooting (Integrity.locateGuarded octets : Guarded ε _)
        (.ok (Integrity.locate octets)) ∧
      Guarded.KeepsFooting (Integrity.verifyGuarded octets key) (Integrity.verify octets key) ∧
      Guarded.KeepsFooting (declaredFrameLengthGuarded? octets : Guarded ε _)
        (.ok (declaredFrameLength? octets)) ∧
      Guarded.KeepsFooting (m.wordGuarded? kind : Guarded ε _) (.ok (m.word? kind)) ∧
      Guarded.KeepsFooting (m.errorCodeGuarded? : Guarded ε _) (.ok m.errorCode?) ∧
      Guarded.KeepsFooting m.mappedAddressGuarded m.mappedAddress ∧
      Guarded.KeepsFooting (ArgumentList.decodeGuarded octets defs)
        (ArgumentList.decode octets defs) :=
  ⟨Guarded.keepsFooting_of_eq (Header.parseGuarded_eq octets),
    Guarded.keepsFooting_of_eq (Message.decodeGuarded_eq octets),
    Guarded.keepsFooting_of_eq (Integrity.locateGuarded_eq octets),
    Guarded.keepsFooting_of_eq (Integrity.verifyGuarded_eq octets key),
    Guarded.keepsFooting_of_eq (declaredFrameLengthGuarded?_eq octets),
    Guarded.keepsFooting_of_eq (m.wordGuarded?_eq kind),
    Guarded.keepsFooting_of_eq m.errorCodeGuarded?_eq,
    Guarded.keepsFooting_of_eq m.mappedAddressGuarded_eq,
    Guarded.keepsFooting_of_eq (ArgumentList.decodeGuarded_eq octets defs)⟩

end RelayDevice
