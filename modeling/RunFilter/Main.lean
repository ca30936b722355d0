import RunFilter.Command.Run

/-!
# The program

Reads what the invocation asks for, and writes its outcome.
-/

set_option autoImplicit false

open RunFilter.Command

/-- The text of a file, if it can be read. -/
def readFile? (path : String) : IO (Option String) := do
  try
    pure (some (← IO.FS.readFile path))
  catch _ =>
    pure none

/-- Runs the program. -/
def main (args : List String) : IO UInt32 := do
  let outcome ← match Invocation.ofArguments args with
    | .error _ => pure Outcome.misused
    | .ok invocation => do
      let input ← if invocation.readsInput then (← IO.getStdin).readToEnd else pure ""
      let file ← match invocation.file? with
        | some path => readFile? path
        | none => pure none
      pure (invocation.outcome input file)
  (← IO.getStdout).putStr outcome.stdout
  (← IO.getStderr).putStr outcome.stderr
  pure (UInt32.ofNat outcome.code)
