import RelayDevice.Toml.Text

/-!
# Writing TOML tables of texts

* `Toml.keyText` — a key in its plainest form: bare, between quotes, between apostrophes, or with
  escapes;
* `Toml.entryLine` — a line that gives a key a text.
-/

namespace RelayDevice

namespace Toml

/-- Whether a character cannot stand as it is in any text of one line. -/
def isControl (c : Char) : Bool := c != '\t' && (c.toNat < 0x20 || c.toNat == 0x7F)

/-- A character between quotes. -/
def escaped (c : Char) : List Char :=
  match c with
  | '\x08' => ['\\', 'b']
  | '\t' => ['\\', 't']
  | '\n' => ['\\', 'n']
  | '\x0c' => ['\\', 'f']
  | '\r' => ['\\', 'r']
  | '"' => ['\\', '"']
  | '\\' => ['\\', '\\']
  | c =>
    if isControl c then
      ['\\', 'u', '0', '0', (Nat.digitChar (c.toNat / 16)).toUpper,
        (Nat.digitChar (c.toNat % 16)).toUpper]
    else [c]

/-- A text between quotes. -/
def basic (s : String) : String :=
  String.ofList ('"' :: s.toList.flatMap escaped ++ ['"'])

/-- A text between apostrophes. -/
def literal (s : String) : String := "'" ++ s ++ "'"

/-- A key in its plainest form. -/
def keyText (s : String) : String :=
  let cs := s.toList
  if !cs.isEmpty && cs.all isBare then s
  else if cs.any isControl then basic s
  else if cs.all fun c => c != '"' && c != '\\' then basic s
  else if cs.all (· != '\'') then literal s
  else basic s

/-- A line that gives a key a text which needs no escapes. -/
def entryLine (key plain : String) : String :=
  keyText key ++ " = \"" ++ plain ++ "\"\n"

end Toml

end RelayDevice
