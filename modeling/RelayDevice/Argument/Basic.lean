import RelayDevice.Decimal.Shortest
import RelayDevice.Instant

/-!
# Typed arguments

Actions take, and status components give, values of five types.

* `ArgumentType` — the types, with their names and the spellings that are understood;
* `ArgumentValue` — a value, its type and its text in reports;
* `ArgumentDef` — a name with the type that is declared for it;
* `Assignment` — values by name.
-/

namespace RelayDevice

/-! ### Types -/

/-- The type of an argument. -/
inductive ArgumentType
  | integer
  | float
  | string
  | boolean
  | timestamp
deriving DecidableEq, Repr

namespace ArgumentType

/-- The name of a type. -/
def name : ArgumentType → String
  | integer => "integer"
  | float => "float"
  | string => "string"
  | boolean => "boolean"
  | timestamp => "timestamp"

/-- The type that a word names, whatever the case of its letters. The names are plain ASCII, so
only ASCII letters are folded. -/
def ofText? (word : String) : Option ArgumentType :=
  match word.map Char.toLower with
  | "integer" | "int" => some integer
  | "float" => some float
  | "string" => some string
  | "boolean" | "bool" => some boolean
  | "timestamp" => some timestamp
  | _ => none

/-- What is said of a word that names no type. -/
def unknownText (word : String) : String :=
  "Unknown argument type: " ++ word

end ArgumentType

/-! ### Values -/

/-- A value of one of the five types. -/
inductive ArgumentValue
  | integer (value : Int32)
  | float (value : Binary32)
  | boolean (value : Bool)
  | string (value : String)
  | timestamp (value : Instant)
deriving DecidableEq

namespace ArgumentValue

/-- The type of a value. -/
def kind : ArgumentValue → ArgumentType
  | integer _ => .integer
  | float _ => .float
  | boolean _ => .boolean
  | string _ => .string
  | timestamp _ => .timestamp

/-- The value as reports show it; only strings are quoted. -/
def text : ArgumentValue → String
  | integer v => toString v.toInt
  | float v => v.text
  | boolean v => if v then "true" else "false"
  | string v => Quoted.text v
  | timestamp v => v.text

/-- The integer, if the value is one. -/
def integer? : ArgumentValue → Option Int32
  | integer v => some v
  | _ => none

/-- The number, if the value is a floating-point one. -/
def float? : ArgumentValue → Option Binary32
  | float v => some v
  | _ => none

/-- The truth value, if the value is one. -/
def boolean? : ArgumentValue → Option Bool
  | boolean v => some v
  | _ => none

/-- The text, if the value is one. -/
def string? : ArgumentValue → Option String
  | string v => some v
  | _ => none

/-- The point in time, if the value is one. -/
def timestamp? : ArgumentValue → Option Instant
  | timestamp v => some v
  | _ => none

/-- The value as it arrives when it is sent: a point in time loses its fraction of a second. -/
def received : ArgumentValue → ArgumentValue
  | timestamp v => timestamp v.wholeSecond
  | v => v

@[simp] theorem kind_received (v : ArgumentValue) : v.received.kind = v.kind := by
  cases v <;> rfl

end ArgumentValue

/-! ### Declarations and assignments -/

/-- A name and the type declared for it. -/
structure ArgumentDef where
  /-- What the argument is called. -/
  name : String
  /-- The type of its values. -/
  kind : ArgumentType
deriving DecidableEq, Repr

/-- Values by name; the first entry of a name counts. -/
abbrev Assignment := List (String × ArgumentValue)

namespace Assignment

/-- The value of a name. -/
def get? (values : Assignment) (name : String) : Option ArgumentValue :=
  List.lookup name values

/-- Gives a name a value, in place of any that it had. -/
def set (values : Assignment) (name : String) (value : ArgumentValue) : Assignment :=
  (name, value) :: values.filter (·.1 ≠ name)

/-- Takes the value of a name out. -/
def erase (values : Assignment) (name : String) : Assignment := values.filter (·.1 ≠ name)

@[simp] theorem get?_nil (name : String) : get? [] name = none := rfl

theorem get?_cons_self (values : Assignment) (name : String) (value : ArgumentValue) :
    get? ((name, value) :: values) name = some value := by
  simp [get?]

theorem get?_cons_of_ne {values : Assignment} {name other : String} {value : ArgumentValue}
    (h : other ≠ name) : get? ((name, value) :: values) other = get? values other := by
  rw [get?, List.lookup_cons, beq_false_of_ne h]
  rfl

@[simp] theorem get?_set_self (values : Assignment) (name : String) (value : ArgumentValue) :
    (values.set name value).get? name = some value := by
  simp [get?, set]

end Assignment

end RelayDevice
