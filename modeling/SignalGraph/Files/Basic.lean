import SignalGraph.Bytes.Codec

/-!
# Files

What the library needs of a file system: to look whether something is there, to read and to write whole files,
and to make directories. Paths are texts with slashes. Every operation that can fail says why.
-/

namespace SignalGraph

/-- Why a file operation fails. -/
inductive FileError where
  /-- There is nothing at the path, or no directory to hold it. -/
  | notFound
  /-- A part of the path is a file where a directory should be. -/
  | notADirectory
  /-- A directory is where a file should be. -/
  | isADirectory
  /-- A file is where a directory should be made. -/
  | alreadyExists
  /-- A part of the path has too many bytes. -/
  | nameTooLong
  /-- The path holds a null character. -/
  | nullInName
  /-- The bytes of a text file are not UTF-8. -/
  | invalidText
  /-- Any other failure. -/
  | other (text : String)
deriving DecidableEq

def FileError.message : FileError → String
  | notFound => "No such file or directory (os error 2)"
  | notADirectory => "Not a directory (os error 20)"
  | isADirectory => "Is a directory (os error 21)"
  | alreadyExists => "File exists (os error 17)"
  | nameTooLong => "File name too long (os error 36)"
  | nullInName => "file name contained an unexpected NUL byte"
  | invalidText => "stream did not contain valid UTF-8"
  | other text => text

/-- Access to files. -/
class Files (m : Type → Type) where
  /-- Whether a path leads to a file or a directory. -/
  isPresent : String → m Bool
  /-- The bytes of a file. -/
  read : String → m (Except FileError (List UInt8))
  /-- Replace the bytes of a file, or make a new one in an existing directory. -/
  write : String → List UInt8 → m (Except FileError Unit)
  /-- Make a directory and those that hold it, as far as they are missing. -/
  makeDirectories : String → m (Except FileError Unit)

/-- A path inside a directory. An absolute path stays as it is. -/
def joinPath (directory path : String) : String :=
  if path.startsWith "/" || directory.isEmpty then path
  else if directory.endsWith "/" then directory ++ path
  else directory ++ "/" ++ path

def Files.readText {m : Type → Type} [Monad m] [Files m] (path : String) : m (Except FileError String) := do
  let r ← Files.read path
  pure (r.bind fun bs => match Bytes.toText? bs with
    | some text => .ok text
    | none => .error .invalidText)

end SignalGraph
