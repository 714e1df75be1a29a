import RelayDevice.Text.Quoted

/-!
# Values as records

How a value with named parts is shown on one line: its title, and the parts between braces.

* `Record.text` — all parts are shown;
* `Record.withheld` — some parts are kept back, which two dots tell.
-/

namespace RelayDevice

namespace Record

/-- The parts with their names. -/
def fields (parts : List (String × String)) : String :=
  String.intercalate ", " (parts.map fun (name, value) => name ++ ": " ++ value)

/-- A value of which all parts are shown. -/
def text (title : String) (parts : List (String × String)) : String :=
  title ++ " \x7b " ++ fields parts ++ " \x7d"

/-- A value of which some parts are kept back. -/
def withheld (title : String) (parts : List (String × String)) : String :=
  title ++ " \x7b " ++ fields parts ++ ", .. \x7d"

/-- Values between square brackets. -/
def list (values : List String) : String :=
  "[" ++ String.intercalate ", " values ++ "]"

end Record

end RelayDevice
