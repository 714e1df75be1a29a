/-!
# TOML values and tables

The values of a TOML document, and the rules by which the lines of a document fill its tables.

* `Toml` — a value; of floats and points in time only the type is kept;
* `Members.assign` — the entry of a dotted key, which may only extend tables that dotted keys made;
* `Members.within` — the table that a header's path leads to; a path may pass through a repeated
  table, of which it means the last.
-/

namespace RelayDevice

/-- How a table came to be, which decides whether later lines may add to it. -/
inductive TableOrigin
  | inline
  | header
  | implied
  | dotted
deriving DecidableEq, Repr

/-- A TOML value. -/
inductive Toml
  | text (s : String)
  | integer (n : Int)
  | boolean (b : Bool)
  | float
  | instant
  | list (items : List Toml)
  | table (origin : TableOrigin) (members : List (String × Toml))
  | tables (elements : List (List (String × Toml)))

/-- The entries of a table, in order of appearance. -/
abbrev Members := List (String × Toml)

/-- A key with the keys that lead to it. -/
structure TomlPath where
  parents : List String
  name : String
deriving DecidableEq, Repr

namespace Toml

/-- The entries of a table that a header may lead into, and the value with other entries in their
place. Values between braces are closed. -/
def openHeader : Toml → Option (Members × (Members → Toml))
  | table .inline _ => none
  | table origin members => some (members, table origin)
  | tables elements =>
    elements.getLast?.map fun last => (last, fun ms => tables (elements.dropLast ++ [ms]))
  | _ => none

/-- The entries of a table that a dotted key may lead into. The table that the key itself goes into
must be one that dotted keys made. -/
def openDotted (isLast : Bool) : Toml → Option (Members × (Members → Toml))
  | table .dotted members => some (members, table .dotted)
  | table .implied members => if isLast then none else some (members, table .implied)
  | tables elements => if isLast then none else (tables elements).openHeader
  | _ => none

end Toml

namespace Members

/-- Gives a key its value, whether or not it has one. -/
def put (ms : Members) (key : String) (v : Toml) : Members :=
  if ms.any (·.1 = key) then ms.map fun m => if m.1 = key then (key, v) else m
  else ms ++ [(key, v)]

/-- Gives a value to a key that has none. -/
def define (ms : Members) (key : String) (v : Toml) : Option Members :=
  if ms.any (·.1 = key) then none else some (ms ++ [(key, v)])

/-- Enters the value of a dotted key. Missing tables on its way are made. -/
def assign (parents : List String) (key : String) (v : Toml) (ms : Members) : Option Members :=
  match parents with
  | [] => ms.define key v
  | parent :: rest =>
    match ((List.lookup parent ms).getD (.table .dotted [])).openDotted rest.isEmpty with
    | none => none
    | some (inner, rebuild) =>
      (assign rest key v inner).map fun inner => ms.put parent (rebuild inner)

/-- Works on the table that a header's path leads to. Missing tables on its way are made. -/
def within {α : Type} (work : Members → Option (α × Members)) (path : List String) (ms : Members) :
    Option (α × Members) :=
  match path with
  | [] => work ms
  | key :: rest =>
    match ((List.lookup key ms).getD (.table .implied [])).openHeader with
    | none => none
    | some (inner, rebuild) =>
      (within work rest inner).map fun (a, inner) => (a, ms.put key (rebuild inner))

/-- Takes out what the lines of a header will add to: a table that further headers implied, or
nothing yet. -/
def claimTable (key : String) (ms : Members) : Option (Members × Members) :=
  match List.lookup key ms with
  | none => some ([], ms)
  | some (.table .implied inner) => some (inner, ms.filter (·.1 ≠ key))
  | some _ => none

/-- Checks that a key is free or that of a repeated table. -/
def claimElement (key : String) (ms : Members) : Option (Members × Members) :=
  match List.lookup key ms with
  | none | some (.tables _) => some ([], ms)
  | some _ => none

/-- Adds one more table to a repeated table. -/
def appendElement (key : String) (element : Members) (ms : Members) : Option (Unit × Members) :=
  match List.lookup key ms with
  | none => some ((), ms.put key (.tables [element]))
  | some (.tables elements) => some ((), ms.put key (.tables (elements ++ [element])))
  | some _ => none

end Members

end RelayDevice
