/-!
# TOML texts and keys

Texts between quotes, on one line or on several, and the keys that name entries.

* `Toml.Scan` — a reader: what it reads at the beginning of some characters, and the rest;
* `Toml.basicText`, `Toml.literalText` — texts on one line, with and without escapes;
* `Toml.basicLines`, `Toml.literalLines` — texts of several lines, whose closing mark may follow up
  to two quotes that belong to the text;
* `Toml.path` — keys with dots between them.
-/

namespace RelayDevice

namespace Toml

/-- A reader: what it reads at the beginning of some characters, and the rest; nothing if it does
not accept them. -/
abbrev Scan (α : Type) := List Char → Option (α × List Char)

/-- Characters that separate words within a line. -/
def isGap (c : Char) : Bool := c == ' ' || c == '\t'

/-- Skips blanks within a line. -/
def skipGaps (s : List Char) : List Char := s.dropWhile isGap

/-- Whether a character may stand in a comment or a text as it is. -/
def isPlain (c : Char) : Bool := c == '\t' || (0x20 ≤ c.toNat && c.toNat != 0x7F)

/-! ### Escapes -/

/-- The value of hexadecimal digits. -/
def hexNumber (digits : List Char) : Option Nat :=
  digits.foldlM (fun n c =>
    if c.isDigit then some (n * 16 + (c.toNat - 48))
    else if 'a' ≤ c ∧ c ≤ 'f' then some (n * 16 + (c.toNat - 87))
    else if 'A' ≤ c ∧ c ≤ 'F' then some (n * 16 + (c.toNat - 55))
    else none) 0

/-- The character whose number hexadecimal digits give. -/
def numbered (digits : List Char) : Option Char := do
  let n ← hexNumber digits
  if h : n.isValidChar then some (Char.ofNatAux n h) else none

/-- Reads an escape behind its backslash. -/
def escape : Scan Char
  | 'b' :: rest => some ('\x08', rest)
  | 't' :: rest => some ('\t', rest)
  | 'n' :: rest => some ('\n', rest)
  | 'f' :: rest => some ('\x0c', rest)
  | 'r' :: rest => some ('\r', rest)
  | '"' :: rest => some ('"', rest)
  | '\\' :: rest => some ('\\', rest)
  | 'u' :: a :: b :: c :: d :: rest => (numbered [a, b, c, d]).map (·, rest)
  | 'U' :: a :: b :: c :: d :: e :: f :: g :: h :: rest =>
    (numbered [a, b, c, d, e, f, g, h]).map (·, rest)
  | _ => none

theorem length_of_escape {s rest : List Char} {c : Char} (h : escape s = some (c, rest)) :
    rest.length < s.length := by
  unfold escape at h
  split at h
  case h_10 => cases h
  all_goals
    simp only [Option.map_eq_some_iff, Option.some.injEq, Prod.mk.injEq] at h
    first
    | obtain ⟨_, rfl⟩ := h
      simp
    | obtain ⟨_, _, _, rfl⟩ := h
      simp only [List.length_cons]
      omega

/-! ### Texts on one line -/

/-- Reads a text with escapes up to its closing quote. -/
def basicText (s : List Char) : Option (List Char × List Char) :=
  match s with
  | [] => none
  | '"' :: rest => some ([], rest)
  | '\\' :: rest =>
    match _h : escape rest with
    | none => none
    | some (c, rest) => (basicText rest).map fun (cs, rest) => (c :: cs, rest)
  | c :: rest => if isPlain c then (basicText rest).map fun (cs, rest) => (c :: cs, rest) else none
termination_by s.length
decreasing_by
  · have := length_of_escape _h
    simp_all only [List.length_cons]
    omega
  · simp

/-- Reads a text without escapes up to its closing apostrophe. -/
def literalText : Scan (List Char)
  | [] => none
  | '\'' :: rest => some ([], rest)
  | c :: rest =>
    if isPlain c then (literalText rest).map fun (cs, rest) => (c :: cs, rest) else none

/-! ### Texts of several lines -/

/-- Skips blanks and line ends. -/
def skipBreaks : List Char → List Char
  | ' ' :: rest | '\t' :: rest | '\n' :: rest | '\r' :: '\n' :: rest => skipBreaks rest
  | rest => rest

theorem length_skipBreaks (s : List Char) : (skipBreaks s).length ≤ s.length := by
  fun_induction skipBreaks s <;> simp_all <;> omega

theorem length_skipGaps (s : List Char) : (skipGaps s).length ≤ s.length :=
  (List.dropWhile_sublist isGap).length_le

/-- What a backslash at the end of a line joins to it: the text behind all blanks and line ends
that follow; nothing if the line goes on. -/
def joined? (s : List Char) : Option (List Char) :=
  match skipGaps s with
  | '\n' :: rest | '\r' :: '\n' :: rest => some (skipBreaks rest)
  | _ => none

theorem length_of_joined? {s rest : List Char} (h : joined? s = some rest) :
    rest.length < s.length := by
  have hs := length_skipGaps s
  unfold joined? at h
  split at h <;> simp_all
  · next r heq =>
    have := length_skipBreaks r
    subst h
    omega
  · next r heq =>
    have := length_skipBreaks r
    subst h
    omega

/-- Reads a text with escapes up to its three closing quotes. -/
def basicLines (s : List Char) : Option (List Char × List Char) :=
  match s with
  | [] => none
  | '"' :: '"' :: '"' :: '"' :: '"' :: rest => some (['"', '"'], rest)
  | '"' :: '"' :: '"' :: '"' :: rest => some (['"'], rest)
  | '"' :: '"' :: '"' :: rest => some ([], rest)
  | '\r' :: '\n' :: rest | '\n' :: rest =>
    (basicLines rest).map fun (cs, rest) => ('\n' :: cs, rest)
  | '\\' :: rest =>
    match _hj : joined? rest with
    | some rest => basicLines rest
    | none =>
      match _he : escape rest with
      | none => none
      | some (c, rest) => (basicLines rest).map fun (cs, rest) => (c :: cs, rest)
  | c :: rest =>
    if isPlain c then (basicLines rest).map fun (cs, rest) => (c :: cs, rest) else none
termination_by s.length
decreasing_by
  · simp only [List.length_cons]
    omega
  · simp
  · have := length_of_joined? _hj
    simp_all only [List.length_cons]
    omega
  · have := length_of_escape _he
    simp_all only [List.length_cons]
    omega
  · simp_all

/-- Reads a text without escapes up to its three closing apostrophes. -/
def literalLines : Scan (List Char)
  | [] => none
  | '\'' :: '\'' :: '\'' :: '\'' :: '\'' :: rest => some (['\'', '\''], rest)
  | '\'' :: '\'' :: '\'' :: '\'' :: rest => some (['\''], rest)
  | '\'' :: '\'' :: '\'' :: rest => some ([], rest)
  | '\r' :: '\n' :: rest | '\n' :: rest =>
    (literalLines rest).map fun (cs, rest) => ('\n' :: cs, rest)
  | c :: rest =>
    if isPlain c then (literalLines rest).map fun (cs, rest) => (c :: cs, rest) else none

/-- Skips the line end that may follow an opening mark of three. -/
def skipFirstBreak : List Char → List Char
  | '\n' :: rest | '\r' :: '\n' :: rest => rest
  | rest => rest

/-- Reads a text of any kind. -/
def quotedText : Scan (List Char)
  | '"' :: '"' :: '"' :: rest => basicLines (skipFirstBreak rest)
  | '"' :: rest => basicText rest
  | '\'' :: '\'' :: '\'' :: rest => literalLines (skipFirstBreak rest)
  | '\'' :: rest => literalText rest
  | _ => none

/-! ### Keys -/

/-- Whether a character may stand in a key without quotes. -/
def isBare (c : Char) : Bool := c.isAlphanum || c == '-' || c == '_'

/-- Reads a key without dots. -/
def key : Scan String
  | '"' :: rest => (basicText rest).map fun (cs, rest) => (String.ofList cs, rest)
  | '\'' :: rest => (literalText rest).map fun (cs, rest) => (String.ofList cs, rest)
  | s =>
    let bare := s.takeWhile isBare
    if bare.isEmpty then none else some (String.ofList bare, s.dropWhile isBare)

/-- The most keys that dots may join, and the most brackets that may stand within each other. -/
def depthLimit : Nat := 79

/-- Reads up to `limit` keys with dots between them, and the blanks around each. -/
def keys : Nat → Scan (List String)
  | 0, _ => none
  | limit + 1, s =>
    match key (skipGaps s) with
    | none => none
    | some (k, rest) =>
      match skipGaps rest with
      | '.' :: rest => (keys limit rest).map fun (ks, rest) => (k :: ks, rest)
      | rest => some ([k], rest)

end Toml

end RelayDevice
