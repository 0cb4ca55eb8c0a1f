import FeedIndex.CommandLine.Program

/-!
# Command line

Runs the program on its arguments and prints its report. There is no way to a server from here, and no disk:
what remains is what the program says about its arguments and about a stream that does not open.
-/

/-- Prints the report and returns the code to exit with. -/
def main (arguments : List String) : IO UInt32 := do
  let exit := FeedIndex.Program.run FeedIndex.Network.offline (fun _ _ => ⟨0, 0⟩) {} arguments
  for line in exit.report do
    IO.eprintln line
  return exit.code.toUInt32
