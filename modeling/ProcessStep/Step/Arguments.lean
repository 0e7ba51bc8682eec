/-!
The command line. A command is what the arguments ask for; arguments that make no sense, leave
out what is needed or say the same thing twice are no command.
-/

namespace ProcessStep.Step

structure Request where
  /-- The file of the definition. -/
  definition : String
  activity : String
  inbound : Option String
  /-- The file of the snapshot to resume from. -/
  state : Option String
  /-- The text of the value that completes the step. -/
  signal : Option String
  isStrict : Bool
  deriving DecidableEq, Repr

inductive Command where
  | greeting
  | help
  | stepHelp
  /-- The help of the command that prints help. -/
  | helpHelp
  | version
  | step (r : Request)
  deriving DecidableEq, Repr

inductive Key where
  | activity
  | inbound
  | state
  | signal
  deriving DecidableEq, Repr

def Key.ofName? : List Char → Option Key
  | ['a', 'c', 't', 'i', 'v', 'i', 't', 'y'] => some .activity
  | ['i', 'n', 'b', 'o', 'u', 'n', 'd'] => some .inbound
  | ['s', 't', 'a', 't', 'e'] => some .state
  | ['s', 'i', 'g', 'n', 'a', 'l'] => some .signal
  | _ => none

/-- What has been read of a request. -/
structure Draft where
  definition : Option String
  activity : Option String
  inbound : Option String
  state : Option String
  signal : Option String
  isStrict : Bool

namespace Draft

def blank : Draft := ⟨none, none, none, none, none, false⟩

def fill (place : Option String) (v : String) : Option (Option String) :=
  if place.isSome then none else some (some v)

def fillPath (place : Option String) (v : String) : Option (Option String) :=
  if v.isEmpty then none else fill place v

/-- Gives an option its value; an option has at most one. -/
def put (d : Draft) (k : Key) (v : String) : Option Draft :=
  match k with
  | .activity => (fill d.activity v).map ({ d with activity := · })
  | .inbound => (fill d.inbound v).map ({ d with inbound := · })
  | .state => (fillPath d.state v).map ({ d with state := · })
  | .signal => (fill d.signal v).map ({ d with signal := · })

def operand (d : Draft) (v : String) : Option Draft :=
  (fillPath d.definition v).map ({ d with definition := · })

def operands (d : Draft) : List String → Option Draft
  | [] => some d
  | v :: rest => do operands (← d.operand v) rest

def request? (d : Draft) : Option Request := do
  let definition ← d.definition
  let activity ← d.activity
  some { definition, activity, inbound := d.inbound, state := d.state, signal := d.signal,
         isStrict := d.isStrict }

end Draft

inductive Argument where
  /-- All arguments from here on belong to no option. -/
  | separator
  | help
  | strict
  | option (k : Key) (value : Option String)
  | unknown
  | plain (v : String)
  deriving DecidableEq, Repr

def Argument.ofLong (s : List Char) : Argument :=
  let name := s.takeWhile (· ≠ '=')
  let value := (s.dropWhile (· ≠ '=')).tail?
  match Key.ofName? name, value with
  | some k, value => .option k (value.map String.ofList)
  | none, some _ => .unknown
  | none, none =>
      if name = "strict".toList then .strict
      else if name = "help".toList then .help
      else .unknown

def Argument.ofText (s : String) : Argument :=
  match s.toList with
  | ['-', '-'] => .separator
  | '-' :: '-' :: name => .ofLong name
  | '-' :: 'h' :: _ => .help
  | '-' :: _ :: _ => .unknown
  | _ => .plain s

/-- Reads the arguments of a step; `pending` is an option whose value comes next. -/
def readStep (d : Draft) (pending : Option Key) : List String → Option Command
  | [] => if pending.isSome then none else d.request?.map .step
  | s :: rest =>
      match Argument.ofText s, pending with
      | .plain v, some k => do readStep (← d.put k v) none rest
      | .plain v, none => do readStep (← d.operand v) none rest
      | _, some _ => none
      | .separator, none => do (← d.operands rest).request?.map .step
      | .help, none => some .stepHelp
      | .strict, none =>
          if d.isStrict then none else readStep { d with isStrict := true } none rest
      | .option k (some v), none => do readStep (← d.put k v) none rest
      | .option k none, none => readStep d (some k) rest
      | .unknown, none => none

def Command.ofArguments : List String → Option Command
  | [] => some .greeting
  | ["--"] => some .greeting
  | "step" :: rest => readStep .blank none rest
  | ["help"] => some .help
  | ["help", "step"] => some .stepHelp
  | ["help", "help"] => some .helpHelp
  | "--help" :: _ => some .help
  | "--version" :: _ => some .version
  | s :: _ =>
      match s.toList with
      | '-' :: 'h' :: _ => some .help
      | '-' :: 'V' :: _ => some .version
      | _ => none

def greetingText : String :=
  "procflow - use --help to see available commands"

def versionText : String :=
  "procflow 0.0.1-alpha.0"

def helpText : String := String.intercalate "\n" [
  "Procflow - activity execution for process graphs",
  "",
  "Usage: procflow [COMMAND]",
  "",
  "Commands:",
  "  step  Run one step of an activity and print its execution report",
  "  help  Print this message or the help of the given subcommand(s)",
  "",
  "Options:",
  "  -h, --help     Print help",
  "  -V, --version  Print version"]

def stepHelpText : String := String.intercalate "\n" [
  "Run one step of an activity and print its execution report",
  "",
  "Usage: procflow step [OPTIONS] --activity <ACTIVITY> <DEFINITION_FILE>",
  "",
  "Arguments:",
  "  <DEFINITION_FILE>  Path to the process definition (JSON)",
  "",
  "Options:",
  "      --activity <ACTIVITY>  The activity ID to execute",
  "      --inbound <INBOUND>    Inbound flow that triggered the activity",
  "      --state <STATE>        Persisted execution state to resume from (JSON). Pending flows " ++
    "and entered form values are restored",
  "      --signal <SIGNAL>      Complete the step with this JSON value",
  "      --strict               Fail when persisted state references flows the process no " ++
    "longer has",
  "  -h, --help                 Print help"]

def helpHelpText : String := String.intercalate "\n" [
  "Print this message or the help of the given subcommand(s)",
  "",
  "Usage: procflow help [COMMAND]...",
  "",
  "Arguments:",
  "  [COMMAND]...  Print help for the subcommand(s)"]

end ProcessStep.Step
