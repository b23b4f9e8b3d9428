import BuildLog.CommandLine

/-!
# The command — its outer layer

The files that the arguments name are read first.  A first pass over the log, with no other file
in sight, says at which paths the messages' files are looked for; the run itself knows which of
these there are.
-/

namespace BuildLog

/-- The disk with the file at a path, if that can be read. -/
def Disk.load (d : Disk) (p : Path) : IO Disk := do
  match ← (IO.FS.readBinFile p.toString).toBaseIO with
  | .ok bytes => return d.write p (.file bytes)
  | .error _ => return d

/-- The disk with all that a run may ask for. -/
def Arguments.loadDisk (a : Arguments) (cwd : Path) (stdin : ByteArray) : IO Disk := do
  let disk ← a.inputs.foldlM Disk.load .empty
  match CommandLine.openSession a disk cwd stdin with
  | .error _ => return disk
  | .ok s => (CommandLine.candidates s).foldlM Disk.load disk

/-- The standard input, which is read only if the arguments name no log. -/
def Arguments.loadInput (a : Arguments) : IO ByteArray := do
  if a.log.isSome then return .empty else (← IO.getStdin).readBinToEnd

end BuildLog

open BuildLog in
def main (args : List String) : IO UInt32 := do
  let cwd := Path.ofString (← IO.currentDir).toString
  let (disk, stdin) ← match Arguments.parse args with
    | none => pure (.empty, .empty)
    | some a => do
      let stdin ← a.loadInput
      pure (← a.loadDisk cwd stdin, stdin)
  let outcome := CommandLine.run args disk cwd stdin
  outcome.lines.forM IO.println
  IO.eprintln outcome.lastNote
  return outcome.code.toUInt32
