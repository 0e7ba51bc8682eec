import ProcessStep.Step.Report

/-!
The program: reads the files that a step needs, prints its report, and ends with a code that
tells a problem of the step from a wrong use of the command line.
-/

namespace ProcessStep.Main

open Step (Command Problem Request Surroundings)

/-- The text of a file, if it can be read. -/
def readFile (path : String) : IO (Option String) := do
  try
    return some (← IO.FS.readFile path)
  catch _ => return none

/-- Everything on standard input, nothing if it is a terminal. -/
def readInput : IO (Option String) := do
  let stdin ← IO.getStdin
  if ← stdin.isTty then return some ""
  try
    return some (← stdin.readToEnd)
  catch _ => return none

def surroundings (r : Request) : IO Surroundings := do
  let definition ← readFile r.definition
  let state ← match r.state with
    | some path => readFile path
    | none => pure none
  let input ← readInput
  return {
    file := fun path => if path = r.definition then definition else state
    input }

def complain (p : Problem) : IO Unit := do
  IO.eprintln ("Error: " ++ p.message)
  match p.cause? with
  | some cause => IO.eprintln ("\nCaused by:\n    " ++ cause)
  | none => pure ()

def carryOut (r : Request) : IO UInt32 := do
  match Step.report (← surroundings r) r with
  | .ok v => IO.println (v.pretty 0); return 0
  | .error p => complain p; return 1

end ProcessStep.Main

open ProcessStep in
def main (args : List String) : IO UInt32 := do
  match Step.Command.ofArguments args with
  | some .greeting => IO.println Step.greetingText; return 0
  | some .help => IO.println Step.helpText; return 0
  | some .stepHelp => IO.println Step.stepHelpText; return 0
  | some .helpHelp => IO.println Step.helpHelpText; return 0
  | some .version => IO.println Step.versionText; return 0
  | some (.step r) => Main.carryOut r
  | none => IO.eprintln "error: wrong usage\n\nFor more information, try '--help'."; return 2
