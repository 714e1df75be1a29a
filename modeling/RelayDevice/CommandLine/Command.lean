import RelayDevice.CommandLine.Help
import RelayDevice.Decimal.Whole
import RelayDevice.Uuid

/-!
# The commands of the program

* `Command` — what the program can be asked to do;
* `decodeShape`, `keepaliveShape`, `argumentsShape`, `runShape` — what each command takes;
* `Invocation.ofWords` — what a command line asks for: a command, a text such as that of the help,
  or nothing that can be understood.
-/

namespace RelayDevice

/-! ### Commands -/

/-- How a device is to be run. -/
structure RunOptions where
  /-- The settings file; without one, settings come from the environment. -/
  settingsFile : Option String
  /-- The kind of transport that overrides the settings. -/
  transport : Option String
  /-- Whether the log tells everything. -/
  isVerbose : Bool
  /-- Whether the log is made of JSON objects. -/
  logsJson : Bool
deriving DecidableEq, Repr

/-- What the program can be asked to do. -/
inductive Command
  | decode (hex : String) (key : Option String)
  | keepalive (username : String) (device : Uuid) (apiKey : String)
  | arguments (temperature time : Int32)
  | run (options : RunOptions)
deriving DecidableEq

/-- What a command line asks for. -/
inductive Invocation
  | command (command : Command)
  | text (output : String)
  | mistake
deriving DecidableEq

/-! ### What the commands take -/

/-- The name of the program. -/
def programName : String := "lyncnat"

/-- The version of the program. -/
def programVersion : String := "0.3.0"

/-- Reads an integer of thirty-two bits. -/
def word32? (s : String) : Option Int32 :=
  ((Whole.integer? s).filter fun n => -2147483648 ≤ n && n ≤ 2147483647).map .ofInt

/-- A flag. -/
def CommandOption.flag (name : String) (letter : Option Char) (purpose : String) : CommandOption :=
  ⟨name, letter, none, fun _ => true, false, purpose⟩

/-- What decoding takes. -/
def decodeShape : CommandShape :=
  { name := "decode"
    purpose := "Decode a hex-encoded frame"
    operand := some ("HEX", "Frame bytes as hex")
    options := [⟨"key", some 'k', some "KEY", fun _ => true, false,
      "API key to check MESSAGE-INTEGRITY with"⟩] }

/-- What building a keepalive takes. -/
def keepaliveShape : CommandShape :=
  { name := "keepalive"
    purpose := "Print a keepalive frame as hex"
    operand := none
    options := [
      ⟨"username", some 'u', some "USERNAME", fun _ => true, true, "Account username"⟩,
      ⟨"uuid", none, some "UUID", fun s => (Uuid.ofText? s).isSome, true, "Device UUID"⟩,
      ⟨"api-key", some 'a', some "API_KEY", fun _ => true, true, "Account API key"⟩] }

/-- What encoding arguments takes. -/
def argumentsShape : CommandShape :=
  { name := "args"
    purpose := "Encode the arguments of a `bake` action"
    operand := none
    options := [
      ⟨"temperature", none, some "TEMPERATURE", fun s => (word32? s).isSome, false,
        "Oven temperature [default: 200]"⟩,
      ⟨"time", none, some "TIME", fun s => (word32? s).isSome, false,
        "Baking time in minutes [default: 5]"⟩] }

/-- What running takes. -/
def runShape : CommandShape :=
  { name := "run"
    purpose := "Run the demo oven device"
    operand := none
    options := [
      ⟨"config", some 'c', some "CONFIG", (!·.isEmpty), false,
        "Config file (defaults to LYNCNAT_* environment variables)"⟩,
      ⟨"transport", some 't', some "TRANSPORT", fun _ => true, false,
        "Override the transport (udp, tls)"⟩,
      .flag "verbose" (some 'v') "Enable verbose logging",
      .flag "log-json" none "Log as JSON lines"] }

/-- What every command takes. -/
def commandShapes : List CommandShape := [decodeShape, keepaliveShape, argumentsShape, runShape]

/-! ### What was given -/

/-- The command that was given to decode. -/
def Given.decode? (g : Given) : Option Command := do
  return .decode (← g.operands.head?) (g.value? "key")

/-- The keepalive that was asked for. -/
def Given.keepalive? (g : Given) : Option Command := do
  return .keepalive (← g.value? "username") (← (g.value? "uuid").bind Uuid.ofText?)
    (← g.value? "api-key")

/-- The arguments that were given to encode. -/
def Given.arguments? (g : Given) : Option Command :=
  some (.arguments (((g.value? "temperature").bind word32?).getD 200)
    (((g.value? "time").bind word32?).getD 5))

/-- The way to run that was asked for. -/
def Given.run? (g : Given) : Option Command :=
  some (.run ⟨g.value? "config", g.value? "transport", g.hasFlag "verbose", g.hasFlag "log-json"⟩)

/-! ### Command lines -/

/-- The name of the command that explains others. -/
def helpName : String := "help"

/-- What is said of the command that explains others. -/
def helpPurpose : String := "Print this message or the help of the given subcommand(s)"

/-- The help text of the program. -/
def programHelp : String :=
  Table.blocks ["LyncNat device runtime\n", "Usage: " ++ programName ++ " <COMMAND>\n",
    Table.text "Commands"
      (commandShapes.map (fun s => (s.name, s.purpose)) ++ [(helpName, helpPurpose)]),
    optionTable [.help, .flag "version" (some 'V') "Print version"]]

/-- The help text of the command that explains others. -/
def helpOfHelp : String :=
  Table.blocks [helpPurpose ++ "\n",
    "Usage: " ++ programName ++ " " ++ helpName ++ " [COMMAND]...\n",
    Table.text "Arguments" [("[COMMAND]...", "Print help for the subcommand(s)")]]

namespace Invocation

/-- What the words behind the name of a command ask for. -/
def ofShape (s : CommandShape) (build : Given → Option Command) (words : List String) :
    Invocation :=
  match s.read words with
  | .error .mistake => .mistake
  | .error .helpWanted => .text (s.helpText programName)
  | .ok given =>
    match build given with
    | some c => .command c
    | none => .mistake

/-- What the words behind `help` ask for: the explanation of the program or of one command. -/
def explain : List String → Invocation
  | [] => .text programHelp
  | [name] =>
    if name = helpName then .text helpOfHelp
    else
      match commandShapes.find? (·.name = name) with
      | some s => .text (s.helpText programName)
      | none => .mistake
  | _ => .mistake

/-- What a first word asks for that is no command. -/
def ofFirstWord (word : String) : Invocation :=
  match word.toList with
  | '-' :: 'h' :: _ => .text programHelp
  | '-' :: 'V' :: _ => .text (programName ++ " " ++ programVersion ++ "\n")
  | _ =>
    if word = "--help" then .text programHelp
    else if word = "--version" then .text (programName ++ " " ++ programVersion ++ "\n")
    else .mistake

/-- What a command line asks for. -/
def ofWords : List String → Invocation
  | [] => .mistake
  | first :: words =>
    match first with
    | "decode" => ofShape decodeShape Given.decode? words
    | "keepalive" => ofShape keepaliveShape Given.keepalive? words
    | "args" => ofShape argumentsShape Given.arguments? words
    | "run" => ofShape runShape Given.run? words
    | "help" => explain words
    | word => ofFirstWord word

end Invocation

end RelayDevice
