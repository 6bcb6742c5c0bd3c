import RecordMapper.CommandLine.Run

/-!
# The program

Files on the real disk, standard output and the exit code.
-/

namespace RecordMapper

/-- The cause of a failed file operation. -/
def FileFault.ofSystem : IO.Error → FileFault
  | .noFileOrDirectory .. => .notFound
  | .alreadyExists .. => .occupied
  | .inappropriateType _ 21 _ => .isDirectory
  | .inappropriateType _ 20 _ => .notDirectory
  | .invalidArgument _ 36 _ => .nameTooLong
  | e => .reported (toString e)

/-- The result of a file operation, or the cause of its failure. -/
def attemptFile {α : Type} (action : IO α) : IO (Except FileFault α) := do
  match ← action.toBaseIO with
  | .ok x => return .ok x
  | .error e => return .error (.ofSystem e)

instance : Files IO where
  read path := attemptFile (IO.FS.readBinFile path)
  write path content := attemptFile (IO.FS.writeBinFile path content)
  isPresent path := do
    return (← attemptFile (IO.FS.Handle.mk path .read)).isOk
  makeDirectories path := attemptFile (IO.FS.createDirAll path)

/-- Shows the log of a run: warnings, and everything if that is asked for. -/
def showLog (e : CommandLine.Ending) : IO Unit := do
  for entry in e.log do
    if e.verbose || entry.level == .warn then
      IO.eprintln (entry.level.name ++ " " ++ entry.message)

end RecordMapper

/-- Runs the program on its arguments. -/
def main (arguments : List String) : IO UInt32 := do
  let ending ← RecordMapper.CommandLine.run arguments
  RecordMapper.showLog ending
  match ending.result with
  | .ok text => IO.print text
  | .error failure => IO.eprintln ("Error: " ++ failure.message)
  return ending.exitCode.toUInt32
