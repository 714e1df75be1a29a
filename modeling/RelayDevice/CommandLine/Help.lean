import RelayDevice.CommandLine.Option
import RelayDevice.Text.Quoted

/-!
# Help texts

What a command is for and what it takes, as a text: the purpose, a line that shows how the command
is used, and one table for each kind of thing that it takes.

* `Table.text` — rows of two columns under a title;
* `CommandShape.usage` — how a command is used;
* `CommandShape.helpText` — the help text of a command.
-/

namespace RelayDevice

namespace Table

/-- Rows of two columns under a title. The second column begins two blanks behind the longest entry
of the first. -/
def text (title : String) (rows : List (String × String)) : String :=
  let width := rows.foldl (fun w (first, _) => max w first.length) 0
  title ++ ":\n" ++ String.join
    (rows.map fun (first, second) => "  " ++ Column.left width first ++ "  " ++ second ++ "\n")

/-- Several blocks of text with an empty line between each two. -/
def blocks (texts : List String) : String := String.intercalate "\n" texts

end Table

namespace CommandOption

/-- An option with the name of its value. -/
def written (o : CommandOption) : String :=
  match o.value with
  | none => "--" ++ o.name
  | some value => "--" ++ o.name ++ " <" ++ value ++ ">"

/-- How an option is written, behind its short name or as much room. -/
def entry (o : CommandOption) : String :=
  match o.letter with
  | some c => String.ofList ['-', c, ',', ' '] ++ o.written
  | none => "    " ++ o.written

/-- The option that every command takes. -/
def help : CommandOption := ⟨"help", some 'h', none, fun _ => true, false, "Print help"⟩

end CommandOption

/-- The table of options. -/
def optionTable (options : List CommandOption) : String :=
  Table.text "Options" (options.map fun o => (o.entry, o.purpose))

namespace CommandShape

/-- How a command is used: options that may be left out are only hinted at. -/
def usage (program : String) (s : CommandShape) : String :=
  let hint := if s.options.any (!·.isRequired) then " [OPTIONS]" else ""
  let required := String.join ((s.options.filter (·.isRequired)).map fun o => " " ++ o.written)
  let operand := match s.operand with
    | some (name, _) => " <" ++ name ++ ">"
    | none => ""
  "Usage: " ++ program ++ " " ++ s.name ++ hint ++ required ++ operand ++ "\n"

/-- The help text of a command. -/
def helpText (program : String) (s : CommandShape) : String :=
  let operands := match s.operand with
    | some (name, purpose) => [Table.text "Arguments" [("<" ++ name ++ ">", purpose)]]
    | none => []
  Table.blocks ([s.purpose ++ "\n", s.usage program] ++ operands
    ++ [optionTable (s.options ++ [.help])])

end CommandShape

end RelayDevice
