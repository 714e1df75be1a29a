import RelayDevice.Text.Printable

/-!
# Quoted text and columns

How reports show text and numbers.

* `Quoted.text` — a text between double quotes, with everything that has no shape of its own
  written as an escape;
* `Column.hexadecimal`, `Column.left` — numbers and words of a fixed width.
-/

namespace RelayDevice

namespace Quoted

/-- One character inside double quotes. -/
def escape (c : Char) : List Char :=
  match c with
  | '\x00' => ['\\', '0']
  | '\t' => ['\\', 't']
  | '\n' => ['\\', 'n']
  | '\r' => ['\\', 'r']
  | '"' => ['\\', '"']
  | '\\' => ['\\', '\\']
  | c => if Printable.isPlain c then [c] else
      ['\\', 'u', '{'] ++ Nat.toDigits 16 c.toNat ++ ['}']

/-- A text between double quotes. -/
def text (s : String) : String :=
  String.ofList ('"' :: s.toList.flatMap escape ++ ['"'])

/-- The path of a file between double quotes. Apostrophes are written as escapes as well. -/
def path (s : String) : String :=
  String.ofList ('"' :: (s.toList.flatMap fun c => if c = '\'' then ['\\', c] else escape c)
    ++ ['"'])

/-- Several quoted texts between square brackets. -/
def list (texts : List String) : String :=
  "[" ++ String.intercalate ", " (texts.map text) ++ "]"

end Quoted

namespace Column

/-- A number in hexadecimal behind its marker, with at least `width` digits. -/
def hexadecimal (width n : Nat) : String :=
  let digits := Nat.toDigits 16 n
  "0x" ++ String.ofList (List.replicate (width - digits.length) '0' ++ digits)

/-- A word followed by blanks, `width` characters wide unless it is longer. -/
def left (width : Nat) (word : String) : String :=
  word ++ String.ofList (List.replicate (width - word.length) ' ')

/-- A number behind zeros, `width` digits wide unless it is longer. -/
def zeros (width n : Nat) : String :=
  let digits := toString n
  String.ofList (List.replicate (width - digits.length) '0') ++ digits

end Column

end RelayDevice
