import Unknowns.Overhead.Workspace

/-! The command as a program: its arguments are given, and the workspace is read from the input. -/

namespace Unknowns

/-- The lines of a stream up to its end. -/
partial def remainingLines (input : IO.FS.Stream) : IO (List String) := do
  let line ← input.getLine
  -- Only the end of the stream reads as an empty line.
  if line.isEmpty then return []
  return line.trimAsciiEnd.toString :: (← remainingLines input)

/-- Prints a notice where it belongs. -/
def Notice.print : Notice → IO Unit
  | .output line => IO.println line
  | .diagnostic line => IO.eprintln line

end Unknowns

/-- Runs the command, prints what it says and the report that it leaves, and exits with its code. -/
def main (arguments : List String) : IO UInt32 := do
  match Unknowns.Workspace.read? (← Unknowns.remainingLines (← IO.getStdin)) with
  | none =>
    IO.eprintln "The workspace on the input cannot be read."
    return 3
  | some workspace =>
    -- No build is really started, so none takes any time.
    let execution := Unknowns.execute workspace.tool "0.00ns" arguments workspace.tree
    execution.notices.forM Unknowns.Notice.print
    IO.print ((execution.tree.text? Unknowns.reportPath).getD "")
    return execution.exitCode.toUInt32
