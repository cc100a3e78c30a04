import CausalPath.CommandLine.Program

/-!
# The executable

The program on the files of the machine it runs on.
-/

namespace CausalPath

/-- The files of the machine. -/
def machineFiles : FileStore IO where
  read file := do
    try
      return some (← IO.FS.readBinFile file).toList
    catch _ =>
      return none
  write file bytes := do
    try
      IO.FS.writeBinFile file ⟨bytes.toArray⟩
      return true
    catch _ =>
      return false

end CausalPath

/-- Runs the program, prints its output, and exits with its code. -/
def main (args : List String) : IO UInt32 := do
  let outcome ← CausalPath.runProgram CausalPath.machineFiles args
  IO.print outcome.output
  if let some line := outcome.error then
    IO.eprintln line
  if outcome.code = 2 then
    IO.eprint CausalPath.usage
  return outcome.code.toUInt32
