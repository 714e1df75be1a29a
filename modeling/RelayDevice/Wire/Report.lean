import RelayDevice.Text.Quoted
import RelayDevice.Wire.Message

/-!
# Messages for readers

`Message.report` shows a message on several lines: what it is, and one line per attribute with its
name, code, length and value. A value that is a text without control characters is shown as that
text, any other in hexadecimal.
-/

namespace RelayDevice

/-- Whether a character is a control character. -/
def isControl (c : Char) : Bool :=
  c.toNat < 0x20 || (0x7F ≤ c.toNat && c.toNat ≤ 0x9F)

/-- The value of an attribute as a reader sees it. -/
def Attribute.shown (a : Attribute) : String :=
  match Utf8.decode? a.value with
  | some s =>
    if s.isEmpty || s.toList.any isControl then Bytes.hex a.value else "\"" ++ s ++ "\""
  | none => Bytes.hex a.value

/-- The line of an attribute. -/
def Attribute.report (a : Attribute) : String :=
  "  " ++ Column.left 20 (AttributeKind.title a.kind) ++ " " ++ Column.hexadecimal 4 a.kind.toNat
    ++ " len=" ++ Column.left 4 (toString a.value.length) ++ " " ++ a.shown ++ "\n"

/-- A message on several lines, each ended by a line break. -/
def Message.report (m : Message) : String :=
  Method.name m.method ++ " " ++ m.messageClass.name ++ " (" ++ Column.hexadecimal 3 m.method.val
    ++ ") tid=" ++ m.transactionId.text ++ "\n" ++ String.join (m.attributes.map Attribute.report)

end RelayDevice
