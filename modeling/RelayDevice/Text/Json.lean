/-!
# JSON documents

The part of JSON in which a device describes itself: texts, lists and objects, written without
blanks and with members in the order given.

* `JsonValue.quote` — a text between double quotes; quotes, backslashes and control characters are
  escaped, everything else stands as it is;
* `JsonValue.text` — a document on one line.
-/

namespace RelayDevice

/-- A document of texts, lists and objects. -/
inductive JsonValue
  | string (text : String)
  | list (items : List JsonValue)
  | object (members : List (String × JsonValue))

namespace JsonValue

/-- One character inside double quotes. -/
def escape (c : Char) : List Char :=
  match c with
  | '"' => ['\\', '"']
  | '\\' => ['\\', '\\']
  | '\x08' => ['\\', 'b']
  | '\t' => ['\\', 't']
  | '\n' => ['\\', 'n']
  | '\x0c' => ['\\', 'f']
  | '\r' => ['\\', 'r']
  | c =>
    if c.toNat < 0x20 then
      ['\\', 'u', '0', '0', if c.toNat < 0x10 then '0' else '1', Nat.digitChar (c.toNat % 16)]
    else [c]

/-- A text between double quotes. -/
def quote (s : String) : String :=
  String.ofList ('"' :: s.toList.flatMap escape ++ ['"'])

mutual

/-- A document on one line. -/
def text : JsonValue → String
  | string s => quote s
  | list items => "[" ++ String.intercalate "," (texts items) ++ "]"
  | object members => "\x7b" ++ String.intercalate "," (memberTexts members) ++ "\x7d"

/-- The items of a list. -/
def texts : List JsonValue → List String
  | [] => []
  | v :: vs => v.text :: texts vs

/-- The members of an object. -/
def memberTexts : List (String × JsonValue) → List String
  | [] => []
  | (name, v) :: vs => (quote name ++ ":" ++ v.text) :: memberTexts vs

end

end JsonValue

end RelayDevice
