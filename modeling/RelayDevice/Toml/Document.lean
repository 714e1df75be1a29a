import RelayDevice.Toml.Number

/-!
# TOML documents

A document is a sequence of lines: entries, and headers that say which table the entries below them
belong to.

* `Toml.value` — reads a value; `Toml.listTail` and `Toml.inlineTable` read those within brackets;
* `Draft` — the tables as far as the lines so far fill them;
* `Toml.document?` — reads a document, whose result is the outermost table; nothing if a line is
  malformed or says something about a table that earlier lines have closed.
-/

namespace RelayDevice

namespace Toml

/-! ### Values -/

/-- Skips blanks, line ends and comments. -/
def skipLines (inComment : Bool) : List Char → List Char
  | '\n' :: rest | '\r' :: '\n' :: rest => skipLines false rest
  | c :: rest =>
    if inComment then if isPlain c then skipLines true rest else c :: rest
    else if isGap c then skipLines false rest
    else if c = '#' then skipLines true rest
    else c :: rest
  | [] => []

/-- Reads the items of a list behind its opening bracket. The last may be followed by a comma. -/
def listTail (item : Scan Toml) : Nat → Scan (List Toml)
  | 0, _ => none
  | fuel + 1, s =>
    match skipLines false s with
    | ']' :: rest => some ([], rest)
    | s =>
      match item s with
      | none => none
      | some (v, rest) =>
        match skipLines false rest with
        | ',' :: rest => (listTail item fuel rest).map fun (vs, rest) => (v :: vs, rest)
        | ']' :: rest => some ([v], rest)
        | _ => none

/-- Reads an entry: a key, an equals sign and a value. -/
def entry (item : Scan Toml) (s : List Char) : Option ((TomlPath × Toml) × List Char) := do
  let (ks, s) ← keys depthLimit s
  let (_, s) ← mark '=' s
  let (v, s) ← item (skipGaps s)
  let name ← ks.getLast?
  return ((⟨ks.dropLast, name⟩, v), s)

/-- Reads the entries of a table within braces, given those before them. -/
def inlineEntries (item : Scan Toml) : Nat → Members → Scan Members
  | 0, _, _ => none
  | fuel + 1, ms, s =>
    match entry item s with
    | none => none
    | some ((path, v), rest) =>
      match ms.assign path.parents path.name v with
      | none => none
      | some ms =>
        match skipGaps rest with
        | ',' :: rest => inlineEntries item fuel ms rest
        | '}' :: rest => some (ms, rest)
        | _ => none

/-- Reads a table behind its opening brace. -/
def inlineTable (item : Scan Toml) (s : List Char) : Option (Toml × List Char) :=
  match skipGaps s with
  | '}' :: rest => some (table .inline [], rest)
  | s => (inlineEntries item s.length [] s).map fun (ms, rest) => (table .inline ms, rest)

/-- Reads a value within which brackets stand at most `depth` deep. -/
def value (depth : Nat) (s : List Char) : Option (Toml × List Char) :=
  match s, depth with
  | '[' :: rest, depth + 1 =>
    (listTail (value depth) s.length rest).map fun (vs, rest) => (.list vs, rest)
  | '{' :: rest, depth + 1 => inlineTable (value depth) rest
  | 't' :: 'r' :: 'u' :: 'e' :: rest, _ => some (boolean true, rest)
  | 'f' :: 'a' :: 'l' :: 's' :: 'e' :: rest, _ => some (boolean false, rest)
  | '"' :: _, _ | '\'' :: _, _ =>
    (quotedText s).map fun (cs, rest) => (text (String.ofList cs), rest)
  | s, _ => numeric s

/-! ### Lines -/

/-- Skips the rest of a line, which may hold a comment. -/
def endLine (s : List Char) : Option (List Char) :=
  let s := match skipGaps s with
    | '#' :: rest => rest.dropWhile isPlain
    | rest => rest
  match s with
  | [] => some []
  | '\n' :: rest | '\r' :: '\n' :: rest => some rest
  | _ => none

/-- The tables that the lines so far make. -/
structure Draft where
  /-- The outermost table, without the entries of the table that is being filled. -/
  root : Members
  /-- The header of the table that is being filled; none at the beginning. -/
  header : Option TomlPath
  /-- Whether that table is an element of a repeated one. -/
  repeated : Bool
  /-- The entries of the table that is being filled. -/
  current : Members

namespace Draft

/-- A document without lines. -/
def empty : Draft := ⟨[], none, false, []⟩

/-- The outermost table with the entries of the table that is being filled. -/
def close (d : Draft) : Option Members :=
  match d.header with
  | none => some d.current
  | some path =>
    let store (ms : Members) : Option (Unit × Members) :=
      if d.repeated then ms.appendElement path.name d.current
      else some ((), ms.put path.name (.table .header d.current))
    (d.root.within store path.parents).map (·.2)

/-- A header: the entries below it belong to another table. -/
def opening (d : Draft) (path : TomlPath) (repeated : Bool) : Option Draft := do
  let root ← d.close
  let claim := if repeated then Members.claimElement path.name else Members.claimTable path.name
  let (current, root) ← root.within claim path.parents
  return ⟨root, some path, repeated, current⟩

/-- An entry of the table that is being filled. -/
def assign (d : Draft) (path : TomlPath) (v : Toml) : Option Draft :=
  (d.current.assign path.parents path.name v).map fun current => { d with current }

end Draft

/-- Reads the header of a table behind its opening brackets, up to the closing ones. -/
def header (closing : List Char) (s : List Char) : Option (TomlPath × List Char) := do
  let (ks, s) ← keys depthLimit s
  let name ← ks.getLast?
  if s.take closing.length = closing then some (⟨ks.dropLast, name⟩, s.drop closing.length)
  else none

/-- Reads one line that is not blank. -/
def line (d : Draft) (s : List Char) : Option (Draft × List Char) :=
  match s with
  | '[' :: '[' :: rest => do
    let (path, rest) ← header [']', ']'] rest
    let rest ← endLine rest
    let d ← d.opening path true
    return (d, rest)
  | '[' :: rest => do
    let (path, rest) ← header [']'] rest
    let rest ← endLine rest
    let d ← d.opening path false
    return (d, rest)
  | s => do
    let ((path, v), rest) ← entry (value depthLimit) s
    let rest ← endLine rest
    let d ← d.assign path v
    return (d, rest)

/-- Reads all lines. Each takes at least one character, so that as many steps as there are
characters suffice. -/
def lines : Nat → Draft → List Char → Option Draft
  | 0, _, _ => none
  | fuel + 1, d, s =>
    match skipGaps s with
    | [] => some d
    | '\n' :: rest | '\r' :: '\n' :: rest => lines fuel d rest
    | '#' :: rest =>
      match endLine ('#' :: rest) with
      | some rest => lines fuel d rest
      | none => none
    | s =>
      match line d s with
      | some (d, rest) => lines fuel d rest
      | none => none

/-- Skips a byte order mark. -/
def unmarked : List Char → List Char
  | '\ufeff' :: rest => rest
  | cs => cs

/-- Reads a document. A byte order mark at its beginning is skipped. -/
def document? (s : String) : Option Members :=
  let cs := unmarked s.toList
  (lines (cs.length + 1) .empty cs).bind Draft.close

end Toml

end RelayDevice
