import SignalGraph.CommandLine.Run

/-!
# The program

Runs a command line on the files of the disk, prints what the command prints, and ends with its exit code.
-/

namespace SignalGraph

/-- The cause of a failure on the disk. -/
def FileError.ofDisk : IO.Error → FileError
  | .noFileOrDirectory .. => .notFound
  | .inappropriateType _ 20 _ => .notADirectory
  | .inappropriateType _ 21 _ => .isADirectory
  | .invalidArgument _ 36 _ => .nameTooLong
  | .alreadyExists .. => .alreadyExists
  | e => .other (toString e)

/-- Run a disk operation and keep its failure. -/
def onDisk {α : Type} (act : IO α) : IO (Except FileError α) := do
  match ← act.toBaseIO with
  | .ok a => pure (.ok a)
  | .error e => pure (.error (.ofDisk e))

instance : Files IO where
  isPresent path := do
    match ← onDisk (IO.FS.realPath path) with
    | .ok _ => pure true
    | .error _ => pure false
  read path := onDisk do return (← IO.FS.readBinFile path).data.toList
  write path bs := onDisk (IO.FS.writeBinFile path ⟨bs.toArray⟩)
  makeDirectories path := onDisk (if path.isEmpty then pure () else IO.FS.createDirAll path)

end SignalGraph

open SignalGraph in
/-- Run the command line of the process. -/
def main (args : List String) : IO UInt32 := do
  let outcome : CommandLine.Outcome ← CommandLine.run args
  match outcome with
  | .printed text => IO.print text
  | .failed e => IO.eprintln ("Error: " ++ e.message)
  | .misused => IO.eprintln "Usage: dspflow [--config PATH] layers|generate|dump|import|nodes|init [ARGUMENTS]"
  pure outcome.code.toUInt32
