import RelayDevice.Text.Utf8

/-!
# Places in texts

* `TextPlace` — a line and a column, both counted from one;
* `TextPlace.behind`, `TextPlace.atEnd` — the place of a character, and the end of a text;
* `TextPlace.between` — the place at which a text is cut into two parts.
-/

namespace RelayDevice

/-- A place in a text: a line and a column, both counted from one. -/
structure TextPlace where
  line : Nat
  column : Nat
deriving DecidableEq, Repr

namespace TextPlace

/-- The characters on the last line of a text. -/
def lastLine (cs : List Char) : List Char := (cs.reverse.takeWhile (· ≠ '\n')).reverse

/-- The place of a character behind others. Columns count characters; that of a character which
takes several octets of UTF-8 counts octets. -/
def behind (before : List Char) (c : Char) : TextPlace :=
  let line := lastLine before
  let width := if c.utf8Size = 1 then line.length else Utf8.size line
  ⟨before.count '\n' + 1, width + 1⟩

/-- The end of a text lies behind its last character, on the same line even if that character ends
the line. -/
def atEnd (cs : List Char) : TextPlace :=
  let before := cs.dropLast
  ⟨before.count '\n' + 1, (lastLine before).length + (cs.length - before.length) + 1⟩

/-- The place at which a text is cut into two parts. -/
def between (before : List Char) : List Char → TextPlace
  | [] => atEnd before
  | c :: _ => behind before c

end TextPlace

end RelayDevice
