import RelayDevice.Text.Place
import RelayDevice.Toml.Document

/-!
# Faults of TOML documents

Where a text is at fault that should be a document with a certain kind of values.

* `Toml.lineHalt` — where reading stops on a line that is malformed;
* `Toml.survey` — reads all lines and notes where the values of the outermost table begin, or finds
  where reading stops;
* `Toml.faultPlace` — the place of the first fault: where reading stops, or else the first value in
  the outermost table that is not of the wanted kind.

A line that is well formed and only contradicts earlier ones is at fault from its beginning.
-/

namespace RelayDevice

namespace Toml

/-! ### Malformed lines -/

/-- Where reading a text with escapes stops. -/
def basicTextHalt (s : List Char) : List Char :=
  match s with
  | [] => []
  | '\\' :: rest =>
    match _h : escape rest with
    | some (_, rest) => basicTextHalt rest
    | none => rest.drop 1
  | c :: rest => if isPlain c ∧ c ≠ '"' then basicTextHalt rest else c :: rest
termination_by s.length
decreasing_by
  · have := length_of_escape _h
    simp_all only [List.length_cons]
    omega
  · simp

/-- Where reading a text between quotes stops; anything else stops reading at once. -/
def textHalt : List Char → List Char
  | '"' :: rest => basicTextHalt rest
  | '\'' :: rest => rest.dropWhile fun c => isPlain c && c != '\''
  | s => s

/-- Where reading keys with dots between them stops. A dot without a key behind it is not read. -/
def keysHalt : Nat → List Char → List Char
  | 0, s => s
  | limit + 1, s =>
    match key (skipGaps s) with
    | none => textHalt (skipGaps s)
    | some (_, rest) =>
      match skipGaps rest with
      | '.' :: rest =>
        if (key (skipGaps rest)).isSome then keysHalt limit rest else '.' :: rest
      | rest => rest

/-- Where reading the rest of a line stops. -/
def endHalt (s : List Char) : List Char :=
  match skipGaps s with
  | '#' :: rest => rest.dropWhile isPlain
  | rest => rest

/-- Where reading a header stops behind its opening brackets. -/
def headerHalt (start closing s : List Char) : List Char :=
  match header closing s with
  | none => keysHalt depthLimit s
  | some (_, rest) => if (endLine rest).isSome then start else endHalt rest

/-- Where reading an entry stops. -/
def entryHalt (s : List Char) : List Char :=
  match keysHalt depthLimit s with
  | '=' :: rest =>
    match value depthLimit (skipGaps rest) with
    | none => textHalt (skipGaps rest)
    | some (_, rest) => if (endLine rest).isSome then s else endHalt rest
  | rest => rest

/-- Where reading stops on a line that is malformed. -/
def lineHalt : List Char → List Char
  | '[' :: '[' :: rest => headerHalt ('[' :: '[' :: rest) [']', ']'] rest
  | '[' :: rest => headerHalt ('[' :: rest) [']'] rest
  | s => entryHalt s

/-! ### Whole documents -/

/-- Where the values of the outermost table begin. -/
abbrev Origins := List (String × List Char)

/-- The key in the outermost table that a line adds to, and where its value begins: behind the
equals sign of an entry, or where the line begins. -/
def origin? (d : Draft) (s : List Char) : Option (String × List Char) :=
  match s, d.header with
  | '[' :: rest, _ =>
    (keys depthLimit (rest.dropWhile (· = '['))).bind fun (ks, _) => ks.head?.map (·, s)
  | s, none =>
    match keys depthLimit s with
    | some ([k], '=' :: rest) => some (k, skipGaps rest)
    | some (k :: _, _) => some (k, s)
    | _ => none
  | _, some _ => none

/-- Reads all lines and notes where the values of the outermost table begin; or tells where reading
stops. Each line takes at least one character, so that as many steps as there are characters
suffice. -/
def survey : Nat → Draft → Origins → List Char → Except (List Char) (Draft × Origins)
  | 0, _, _, s => .error s
  | fuel + 1, d, origins, s =>
    match skipGaps s with
    | [] => .ok (d, origins)
    | '\n' :: rest | '\r' :: '\n' :: rest => survey fuel d origins rest
    | '#' :: rest =>
      match endLine ('#' :: rest) with
      | some rest => survey fuel d origins rest
      | none => .error (endHalt ('#' :: rest))
    | s =>
      match line d s with
      | some (next, rest) => survey fuel next (origins ++ (origin? d s).toList) rest
      | none => .error (lineHalt s)

/-- Where a text is at fault, seen as a document all of whose values are of a certain kind. -/
def fault? (isWanted : Toml → Bool) (s : List Char) : Option (List Char) :=
  match survey (s.length + 1) .empty [] (unmarked s) with
  | .error rest => some rest
  | .ok (d, origins) =>
    match d.close with
    | none => some []
    | some members =>
      (members.find? (!isWanted ·.2)).map fun (name, _) => (List.lookup name origins).getD []

/-- The place of the first fault of a text. -/
def faultPlace (isWanted : Toml → Bool) (s : String) : TextPlace :=
  let cs := s.toList
  let rest := (fault? isWanted cs).getD []
  .between (cs.take (cs.length - rest.length)) rest

end Toml

end RelayDevice
