import Mathlib.Data.Option.Basic
import RelayDevice.Text.Hexadecimal

/-!
# Pairs of digits

Hexadecimal text should be read exactly: a row of pairs of digits is read as its octets, and any
other text is refused. `Hexadecimal.ReadsExactly` says this of a text, with digits that are looked
up in the two alphabets (`Hexadecimal.IsDigit`) and not computed from character codes.

What is read in fact are rows of loose pairs (`Hexadecimal.LoosePair`), which may have a plus sign
in place of the first digit. Two lemmas say what becomes of any characters. `sound_readPairs` is the
induction over the reader: what it reads is a row of loose pairs, and where it gets stuck in the
middle of a character, a row of loose pairs stands before that. `readPairs_append` is the induction
over a row: the reader gets through it, whatever follows.

So there are two ways to go wrong, and `Hexadecimal.reads_exactly_iff` says that there is no third.
-/

namespace RelayDevice

namespace Hexadecimal

/-! ### Digits -/

def lowercase : List Char :=
  ['0', '1', '2', '3', '4', '5', '6', '7', '8', '9', 'a', 'b', 'c', 'd', 'e', 'f']

def uppercase : List Char :=
  ['0', '1', '2', '3', '4', '5', '6', '7', '8', '9', 'A', 'B', 'C', 'D', 'E', 'F']

/-- **A digit of either case** and its value, which is its place in the alphabet. -/
def IsDigit (c : Char) (value : Nat) : Prop :=
  lowercase[value]? = some c ∨ uppercase[value]? = some c

theorem hexValue?_eq_some_iff {c : Char} {value : Nat} :
    Bytes.hexValue? c = some value ↔ IsDigit c value := by
  constructor
  · -- the three ranges of codes are three stretches of the alphabets
    have numerals : ∀ n < 58, 48 ≤ n → lowercase[n - 48]? = some (Char.ofNat n) := by decide
    have small : ∀ n < 103, 97 ≤ n → lowercase[n - 87]? = some (Char.ofNat n) := by decide
    have large : ∀ n < 71, 65 ≤ n → uppercase[n - 55]? = some (Char.ofNat n) := by decide
    intro read
    unfold Bytes.hexValue? at read
    dsimp only at read
    rw [IsDigit, ← Char.ofNat_toNat c]
    split at read
    · next range =>
      cases read
      exact .inl (numerals c.toNat (by omega) range.1)
    split at read
    · next range =>
      cases read
      exact .inl (small c.toNat (by omega) range.1)
    split at read
    · next range =>
      cases read
      exact .inr (large c.toNat (by omega) range.1)
    · cases read
  · have valued {alphabet : List Char} (order : alphabet.map Bytes.hexValue? = (List.range 16).map some)
        (found : alphabet[value]? = some c) : Bytes.hexValue? c = some value := by
      have place : (alphabet.map Bytes.hexValue?)[value]? = ((List.range 16).map some)[value]? :=
        congrArg (·[value]?) order
      rw [List.getElem?_map, found, List.getElem?_map] at place
      obtain ⟨digit, listed, same⟩ := Option.map_eq_some_iff.1 place.symm
      obtain ⟨_, rfl⟩ := List.getElem?_eq_some_iff.1 listed
      rw [← same, List.getElem_range]
    rintro (found | found)
    · exact valued (by decide) found
    · exact valued (by decide) found

theorem IsDigit.mem {c : Char} {value : Nat} (digit : IsDigit c value) :
    c ∈ lowercase ++ uppercase := by
  rcases digit with found | found
  · exact List.mem_append_left _ (List.mem_of_getElem? found)
  · exact List.mem_append_right _ (List.mem_of_getElem? found)

theorem IsDigit.utf8Size_eq {c : Char} {value : Nat} (digit : IsDigit c value) : c.utf8Size = 1 := by
  have single : (lowercase ++ uppercase).all (·.utf8Size == 1) = true := by decide
  exact beq_iff_eq.1 (List.all_eq_true.1 single c digit.mem)

/-! ### Pairs -/

/-- Two digits and their octet. -/
def DigitPair (a b : Char) (octet : UInt8) : Prop :=
  ∃ high low, IsDigit a high ∧ IsDigit b low ∧ octet = .ofNat (high * 16 + low)

/-- Two digits, or a plus sign and a digit, and their octet. -/
def LoosePair (a b : Char) (octet : UInt8) : Prop :=
  DigitPair a b octet ∨ (a = '+' ∧ ∃ low, IsDigit b low ∧ octet = .ofNat low)

/-- **A row of pairs** and its octets. -/
inductive Row (Pair : Char → Char → UInt8 → Prop) : List Char → Bytes → Prop
  | nil : Row Pair [] []
  | cons {a b : Char} {octet : UInt8} {rest : List Char} {octets : Bytes} : Pair a b octet →
    Row Pair rest octets → Row Pair (a :: b :: rest) (octet :: octets)

theorem pairValue?_eq_some_iff {a b : Char} {octet : UInt8} :
    pairValue? a b = some octet ↔ LoosePair a b octet := by
  rw [pairValue?, LoosePair, DigitPair]
  simp only [← hexValue?_eq_some_iff]
  cases Bytes.hexValue? b with
  | none => simp
  | some low =>
    by_cases sign : a = '+'
    · have none : Bytes.hexValue? '+' = none := by decide
      simp [sign, none, eq_comm]
    · simp [sign, eq_comm]

theorem LoosePair.utf8Size_eq {a b : Char} {octet : UInt8} (pair : LoosePair a b octet) :
    a.utf8Size = 1 ∧ b.utf8Size = 1 := by
  rcases pair with ⟨high, low, first, second, -⟩ | ⟨rfl, low, second, -⟩
  · exact ⟨first.utf8Size_eq, second.utf8Size_eq⟩
  · exact ⟨by decide, second.utf8Size_eq⟩

namespace Row

variable {cs : List Char} {octets : Bytes}

theorem loose (row : Row DigitPair cs octets) : Row LoosePair cs octets := by
  induction row with
  | nil => exact .nil
  | cons pair _ ih => exact .cons (.inl pair) ih

theorem strict (row : Row LoosePair cs octets) (unsigned : '+' ∉ cs) : Row DigitPair cs octets := by
  induction row with
  | nil => exact .nil
  | cons pair _ ih =>
    rw [List.mem_cons, List.mem_cons, not_or, not_or] at unsigned
    rcases pair with digits | ⟨sign, -⟩
    · exact .cons digits (ih unsigned.2.2)
    · exact absurd sign.symm unsigned.1

theorem mem_digits (row : Row DigitPair cs octets) : ∀ c ∈ cs, c ∈ lowercase ++ uppercase := by
  induction row with
  | nil => exact List.forall_mem_nil _
  | cons pair _ ih =>
    obtain ⟨high, low, first, second, -⟩ := pair
    rw [List.forall_mem_cons, List.forall_mem_cons]
    exact ⟨first.mem, second.mem, ih⟩

theorem not_mem_plus (row : Row DigitPair cs octets) : '+' ∉ cs := fun sign =>
  absurd (row.mem_digits '+' sign) (by decide)

/-- All characters of a row take one octet, so there is an even number. -/
theorem size_eq (row : Row LoosePair cs octets) : Utf8.size cs = 2 * octets.length := by
  induction row with
  | nil => rfl
  | cons pair _ ih =>
    rw [Utf8.size, Utf8.size, pair.utf8Size_eq.1, pair.utf8Size_eq.2, ih, List.length_cons]
    omega

end Row

/-! ### Reading pairs -/

/-- Two octets from the front of the characters end in the middle of a character. -/
def Straddles : List Char → Prop
  | [] => False
  | a :: rest => 2 < a.utf8Size ∨ (a.utf8Size = 1 ∧ ∃ b ∈ rest.head?, b.utf8Size ≠ 1)

/-- **A pair ends in the middle of a character**, and before it there are only loose pairs. -/
def Breaks (cs : List Char) : Prop :=
  ∃ front octets rest, cs = front ++ rest ∧ Row LoosePair front octets ∧ Straddles rest

theorem breaks_of_straddles {cs : List Char} (straddles : Straddles cs) : Breaks cs :=
  ⟨[], [], cs, rfl, .nil, straddles⟩

theorem Breaks.cons {a b : Char} {octet : UInt8} {rest : List Char} (pair : LoosePair a b octet)
    (breaks : Breaks rest) : Breaks (a :: b :: rest) := by
  obtain ⟨front, octets, rest, rfl, row, straddles⟩ := breaks
  exact ⟨a :: b :: front, octet :: octets, rest, rfl, .cons pair row, straddles⟩

/-- **What was read, and where reading got stuck.** -/
theorem sound_readPairs (offset : Nat) (cs : List Char) :
    (∀ octets, readPairs offset cs = .ok octets → Row LoosePair cs octets) ∧
      ∀ place, readPairs offset cs = .error (.splitCharacter place) → Breaks cs := by
  fun_induction readPairs offset cs with
  | case1 => exact ⟨fun _ read => Except.ok.inj read ▸ .nil, nofun⟩
  | case2 => exact ⟨nofun, nofun⟩
  | case3 => exact ⟨nofun, nofun⟩
  | case4 offset a single b rest single' octet value ih =>
    -- what is known of the rest carries over, with this pair before it
    have pair := pairValue?_eq_some_iff.1 value
    cases later : readPairs (offset + 2) rest with
    | ok more =>
      refine ⟨fun octets read => ?_, nofun⟩
      cases read
      exact .cons pair (ih.1 more later)
    | error e =>
      refine ⟨nofun, fun place read => ?_⟩
      cases read
      exact .cons pair (ih.2 place later)
  | case5 offset a single b rest wide =>
    exact ⟨nofun, fun _ _ => breaks_of_straddles (.inr ⟨single, b, rfl, wide⟩)⟩
  | case6 => exact ⟨nofun, nofun⟩
  | case7 offset a rest wide wider =>
    -- a character of neither one octet nor two has more
    have := a.utf8Size_pos
    exact ⟨nofun, fun _ _ => breaks_of_straddles (.inl (by omega))⟩

/-- **A row of pairs is read**, and reading goes on behind it. -/
theorem readPairs_append {front : List Char} {octets : Bytes} (row : Row LoosePair front octets)
    (offset : Nat) (rest : List Char) :
    readPairs offset (front ++ rest)
      = (readPairs (offset + 2 * octets.length) rest).map (octets ++ ·) := by
  induction row generalizing offset with
  | nil =>
    rw [List.nil_append, List.length_nil, Nat.mul_zero, Nat.add_zero]
    cases readPairs offset rest <;> rfl
  | @cons a b octet front octets pair _ ih =>
    have place : offset + 2 * (octet :: octets).length = offset + 2 + 2 * octets.length := by
      rw [List.length_cons]
      omega
    rw [List.cons_append, List.cons_append, readPairs, if_pos pair.utf8Size_eq.1,
      if_pos pair.utf8Size_eq.2, pairValue?_eq_some_iff.2 pair]
    dsimp only
    rw [ih, place]
    cases readPairs (offset + 2 + 2 * octets.length) rest <;> rfl

theorem readPairs_of_straddles {cs : List Char} (straddles : Straddles cs) (offset : Nat) :
    readPairs offset cs = .error (.splitCharacter offset) := by
  obtain _ | ⟨a, rest⟩ := cs
  · exact straddles.elim
  rcases straddles with wide | ⟨single, b, next, wide⟩
  · unfold readPairs
    rw [if_neg (by omega), if_neg (by omega)]
  · obtain ⟨rest, rfl⟩ := List.head?_eq_some_iff.1 next
    rw [readPairs, if_pos single, if_neg wide]

theorem readPairs_eq_ok_iff {offset : Nat} {cs : List Char} {octets : Bytes} :
    readPairs offset cs = .ok octets ↔ Row LoosePair cs octets := by
  refine ⟨(sound_readPairs offset cs).1 octets, fun row => ?_⟩
  have read := readPairs_append row offset []
  rw [List.append_nil] at read
  rw [read]
  exact congrArg Except.ok (List.append_nil octets)

theorem exists_readPairs_eq_split_iff {offset : Nat} {cs : List Char} :
    (∃ place, readPairs offset cs = .error (.splitCharacter place)) ↔ Breaks cs := by
  refine ⟨fun ⟨place, stuck⟩ => (sound_readPairs offset cs).2 place stuck, ?_⟩
  rintro ⟨front, octets, rest, rfl, row, straddles⟩
  rw [readPairs_append row, readPairs_of_straddles straddles]
  exact ⟨_, rfl⟩

/-! ### Reading texts -/

theorem read_eq_ok_iff {s : String} {octets : Bytes} :
    read s = .ok octets ↔ Row LoosePair (bare s) octets := by
  unfold read
  dsimp only
  by_cases odd : Utf8.size (bare s) % 2 = 1
  · rw [if_pos odd]
    refine iff_of_false nofun fun row => ?_
    have even := row.size_eq
    omega
  · rw [if_neg odd]
    exact readPairs_eq_ok_iff

theorem exists_read_eq_split_iff {s : String} :
    (∃ place, read s = .error (.splitCharacter place)) ↔
      Utf8.size (bare s) % 2 = 0 ∧ Breaks (bare s) := by
  unfold read
  dsimp only
  by_cases odd : Utf8.size (bare s) % 2 = 1
  · rw [if_pos odd]
    exact iff_of_false nofun fun even => by omega
  · rw [if_neg odd, exists_readPairs_eq_split_iff, and_iff_right (by omega)]

/-- **Exact reading** of a text: if what it holds besides blanks and one marker is a row of pairs of
digits, it is read as their octets, and otherwise it is refused. It never gets stuck in the middle of
a character. -/
structure ReadsExactly (s : String) : Prop where
  read_iff : ∀ octets, read s = .ok octets ↔ Row DigitPair (bare s) octets
  never_stuck : ∀ place, read s ≠ .error (.splitCharacter place)

/-- **Which texts are read exactly**: those whose characters are no row of pairs with a plus sign in
it, and do not break in the middle of a character behind such a row or one of digits alone. -/
theorem reads_exactly_iff (s : String) :
    ReadsExactly s ↔
      (∀ octets, Row LoosePair (bare s) octets → '+' ∉ bare s) ∧
        ¬ (Utf8.size (bare s) % 2 = 0 ∧ Breaks (bare s)) := by
  rw [← exists_read_eq_split_iff, not_exists]
  constructor
  · rintro ⟨reads, whole⟩
    exact ⟨fun octets row => ((reads octets).1 (read_eq_ok_iff.2 row)).not_mem_plus, whole⟩
  · rintro ⟨unsigned, whole⟩
    refine ⟨fun octets => ?_, whole⟩
    rw [read_eq_ok_iff]
    exact ⟨fun row => row.strict (unsigned octets row), Row.loose⟩

/-- A sign makes an octet of a single digit, and a letter with an accent breaks the text. -/
theorem not_readsExactly_signed : ¬ ReadsExactly "+5" ∧ ¬ ReadsExactly "aéa" := by
  refine ⟨fun exact => ?_, fun exact => ?_⟩
  · have octet : read "+5" = .ok [5] := rfl
    exact ((exact.read_iff [5]).1 octet).not_mem_plus (by decide)
  · exact exact.never_stuck 0 rfl

end Hexadecimal

end RelayDevice
