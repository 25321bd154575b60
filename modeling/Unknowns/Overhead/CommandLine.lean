import Unknowns.ControlSequence
import Unknowns.Overhead.Campaign

/-! The command line: what the arguments ask for, what is wrong with them, and its help. -/

namespace Unknowns

/-- The options of the benchmark command that are on or off. -/
inductive Switch
  | quick
  | reportOnly
deriving DecidableEq

/-- The long name of a switch. -/
def Switch.name : Switch → String
  | .quick => "quick"
  | .reportOnly => "report-only"

/-- The switch of a long name. -/
def Switch.ofName? (name : String) : Option Switch :=
  [Switch.quick, Switch.reportOnly].find? fun switch => switch.name == name

/-- What help can be asked about. -/
inductive HelpTopic
  | program
  | bench
  | help
deriving DecidableEq

/-- What well-formed arguments ask for. -/
inductive Request
  | help (topic : HelpTopic)
  | bench (switches : List Switch)
deriving DecidableEq

/-- What is wrong with arguments. -/
inductive UsageFault
  | missingCommand
  | unknownCommand (argument : String)
  | unexpectedArgument (argument : String)
  | unneededValue (option value : String)
  | repeatedSwitch (switch : Switch)
deriving DecidableEq

/-- An argument by its form. -/
inductive ArgumentForm
  | plain
  -- Two dashes alone: only plain arguments follow.
  | dashes
  | long (name : String) (value : Option String)
  -- One dash in front of letters; only the first one matters, since it is refused or asks for help.
  | short (first : Char)

/-- The text up to the first equals sign, and the text after it if there is one. -/
def splitValue (text : List Char) : String × Option String :=
  let name := text.takeWhile (· != '=')
  match text.dropWhile (· != '=') with
  | [] => (String.ofList name, none)
  | _ :: value => (String.ofList name, some (String.ofList value))

/-- The form of an argument. -/
def ArgumentForm.of (argument : String) : ArgumentForm :=
  match argument.toList with
  | ['-', '-'] => .dashes
  | '-' :: '-' :: text =>
    let (name, value) := splitValue text
    .long name value
  | '-' :: first :: _ => .short first
  -- A single dash names no option.
  | _ => .plain

/-- The help option in either form; any other option is handed on. -/
def helpOption (topic : HelpTopic) (form : ArgumentForm)
    (otherwise : Except UsageFault Request) : Except UsageFault Request :=
  match form with
  | .long "help" none => .ok (.help topic)
  | .long "help" (some value) => .error (.unneededValue "--help" value)
  | .short 'h' => .ok (.help topic)
  | .long name _ => .error (.unexpectedArgument ("--" ++ name))
  | .short first => .error (.unexpectedArgument ("-" ++ first.toString))
  | _ => otherwise

/-- The arguments of the benchmark command, behind the switches that were already given. -/
def readBench (given : List Switch) : List String → Except UsageFault Request
  | [] => .ok (.bench given)
  | argument :: rest =>
    let form := ArgumentForm.of argument
    match form with
    -- The command takes no plain arguments, neither before nor behind dashes.
    | .plain => .error (.unexpectedArgument argument)
    | .dashes =>
      match rest with
      | [] => .ok (.bench given)
      | next :: _ => .error (.unexpectedArgument next)
    | .long name value =>
      match Switch.ofName? name, value with
      -- A switch is given at most once, and without a value.
      | some switch, none =>
        if switch ∈ given then .error (.repeatedSwitch switch)
        else readBench (given ++ [switch]) rest
      | some switch, some value => .error (.unneededValue ("--" ++ switch.name) value)
      | none, _ => helpOption .bench form (.ok (.bench given))
    | .short _ => helpOption .bench form (.ok (.bench given))

/-- The arguments of the help command: the command that it describes. -/
def readHelp : List String → Except UsageFault Request
  | [] => .ok (.help .program)
  | ["bench"] => .ok (.help .bench)
  | ["help"] => .ok (.help .help)
  | "bench" :: next :: _ => .error (.unknownCommand next)
  | "help" :: next :: _ => .error (.unknownCommand next)
  | argument :: _ => .error (.unknownCommand argument)

/-- The arguments behind two dashes, where a command may no longer be named. -/
def readTrailing : List String → Except UsageFault Request
  | [] => .error .missingCommand
  | argument :: _ =>
    -- A command's name is known for what it is, but is out of place.
    if argument = "bench" ∨ argument = "help" then .error (.unexpectedArgument argument)
    else .error (.unknownCommand argument)

/-- What a whole argument list asks for, or its first fault. -/
def Request.read : List String → Except UsageFault Request
  | [] => .error .missingCommand
  | "bench" :: rest => readBench [] rest
  | "help" :: rest => readHelp rest
  | argument :: rest =>
    match ArgumentForm.of argument with
    | .plain => .error (.unknownCommand argument)
    | .dashes => readTrailing rest
    | form => helpOption .program form (.error .missingCommand)

/-- The lines that describe a topic. -/
def HelpTopic.lines : HelpTopic → List String
  | .program =>
    ["Logician workspace automation", "",
      "Usage: xtask <COMMAND>", "",
      "Commands:",
      "  bench  Benchmark the handle layer with and without tracing compiled in",
      "  help   Print this message or the help of the given subcommand(s)", "",
      "Options:",
      "  -h, --help  Print help"]
  | .bench =>
    ["Benchmark the handle layer with and without tracing compiled in", "",
      "Usage: xtask bench [OPTIONS]", "",
      "Options:",
      "      --quick        Run quickly (lower sample size/time)",
      "      --report-only  Generate report only (skip running benchmarks)",
      "  -h, --help         Print help"]
  | .help =>
    ["Print this message or the help of the given subcommand(s)", "",
      "Usage: xtask help [COMMAND]...", "",
      "Arguments:",
      "  [COMMAND]...  Print help for the subcommand(s)"]

/-- The lines that say what is wrong; without a command it is the help. -/
def UsageFault.lines : UsageFault → List String
  -- An argument is repeated as far as it is visible, so that it cannot steer the terminal.
  | .missingCommand => HelpTopic.program.lines
  | .unknownCommand argument => ["error: unrecognized subcommand '" ++ visibleText argument ++ "'"]
  | .unexpectedArgument argument =>
    ["error: unexpected argument '" ++ visibleText argument ++ "' found"]
  | .unneededValue option value =>
    ["error: unexpected value '" ++ visibleText value ++ "' for '" ++ option ++
      "' found; no more were expected"]
  | .repeatedSwitch switch =>
    ["error: the argument '--" ++ switch.name ++ "' cannot be used multiple times"]

/-- The whole command: the arguments are read, and what they ask for is done to the tree. -/
def execute (tool : BuildTool) (elapsed : String) (arguments : List String) (tree : FileTree) :
    Execution :=
  match Request.read arguments with
  | .error fault => ⟨2, fault.lines.map .diagnostic, [], tree⟩
  | .ok (.help topic) => ⟨0, topic.lines.map .output, [], tree⟩
  | .ok (.bench switches) =>
    bench tool elapsed (decide (.quick ∈ switches)) (decide (.reportOnly ∈ switches)) tree

end Unknowns
