import GuardedSearch.CommandLine.Run

/-!
# The program

Reads arguments, environment and files, runs the command, and prints what it gives. The program ends
with 2 if the arguments are not well formed, and with 1 if the command fails.
-/

namespace GuardedSearch

/-- The environment variables that options are taken from. -/
def environmentNames : List String :=
  ["QUERYGATE_METADATA", "QUERYGATE_DOCUMENTS", "QUERYGATE_SETTINGS", "QUERYGATE_PRINT_METRICS"]

/-- What is said of arguments that are not well formed. -/
def usage : String :=
  "\n".intercalate [
    "options:",
    "  --metadata FILE [--documents FILE] [--settings FILE] [--print-metrics] COMMAND",
    "",
    "commands:",
    "  search --entity NAME [--request FILE]",
    "  describe --entity NAME",
    "  policy --entity NAME"]

/-- The content of a file, if it can be read. -/
def contentOf? (path : String) : IO (Option String) := do
  try return some (← IO.FS.readFile path) catch _ => return none

/-- What is read before a command runs: the files it names, and the standard input if its request
comes from there. -/
def readInput (o : Options) : IO CommandInput := do
  let files ← o.files.mapM fun path => return (path, ← contentOf? path)
  let standardInput ← match o.command with
    | .search _ none => (← IO.getStdin).readToEnd
    | _ => pure ""
  return ⟨fun path => (files.find? (·.1 == path)).bind (·.2), standardInput⟩

end GuardedSearch

open GuardedSearch in
/-- Runs the program. -/
def main (arguments : List String) : IO UInt32 := do
  let found ← environmentNames.mapM fun name => return (name, ← IO.getEnv name)
  let environment := fun name => (found.find? (·.1 == name)).bind (·.2)
  match Options.ofArguments? arguments environment with
  | none =>
    IO.eprintln usage
    return 2
  | some options =>
    match options.run (← readInput options) with
    | .error failure =>
      IO.eprintln failure.text
      return 1
    | .ok lines =>
      lines.forM fun line => IO.println line
      return 0
