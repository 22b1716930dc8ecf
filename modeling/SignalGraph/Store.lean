import SignalGraph.Files.Basic
import SignalGraph.Manifest.Text
import SignalGraph.Record.Binary

/-!
# Graph stores

A store keeps graphs in the files of a directory, one file each, named after the graph in lower case. Two
names that differ in case only share a file. Generated sources go to a directory of their own, which may be
the same one.
-/

namespace SignalGraph

/-- Why a manifest cannot be loaded. -/
inductive ManifestError where
  | file (cause : FileError)
  | invalid
deriving DecidableEq

def ManifestError.message : ManifestError → String
  | file e => "I/O error: " ++ e.message
  | invalid => "Invalid manifest"

/-- Why a graph cannot be loaded or saved. -/
inductive StoreError where
  /-- A file or a directory cannot be used. -/
  | file (cause : FileError)
  /-- The bytes of a file are no graph. -/
  | read (cause : ReadError)
deriving DecidableEq

def StoreError.message : StoreError → String
  | file e => "I/O error: " ++ e.message
  | read e => e.message

variable {m : Type → Type} [Monad m] [Files m]

def Manifest.load (path : String) : ExceptT ManifestError m Manifest := do
  match ← (Files.readText path : m _) with
  | .error e => throw (.file e)
  | .ok text => match Manifest.parse? text with
    | none => throw .invalid
    | some manifest => pure manifest

/-- Where graphs and sources are kept. -/
structure GraphStore where
  /-- The directory of the graphs. -/
  graphDir : String
  /-- The directory of the sources. -/
  sourceDir : String
  /-- What the nodes of loaded graphs are built from. -/
  manifest : Manifest

namespace GraphStore

/-- The path of the file that keeps the graph of a name. -/
def pathFor (s : GraphStore) (name : String) : String := joinPath s.graphDir (Graph.fileNameOf name)

/-- Read a graph file. A directory holds no bytes. -/
def loadPath (s : GraphStore) (path : String) : ExceptT StoreError m Graph := do
  let decode (bs : List UInt8) : ExceptT StoreError m Graph :=
    match Graph.decode bs s.manifest.resolve with
    | .ok g => pure g
    | .error e => throw (.read e)
  match ← (Files.read path : m _) with
  | .ok bs => decode bs
  | .error .isADirectory => decode []
  | .error e => throw (.file e)

/-- The graph of a name. A name that has no file yet is the name of a new graph. -/
def load (s : GraphStore) (name : String) : ExceptT StoreError m Graph := do
  if ← (Files.isPresent (s.pathFor name) : m _) then s.loadPath (s.pathFor name)
  else pure (.empty name)

/-- Write a file into a directory, which is made if it is missing, and give back the path. -/
def writeInto (directory name : String) (bs : List UInt8) : ExceptT StoreError m String := do
  let path := joinPath directory name
  match ← (Files.makeDirectories directory : m _) with
  | .error e => throw (.file e)
  | .ok () => match ← (Files.write path bs : m _) with
    | .error e => throw (.file e)
    | .ok () => pure path

/-- Save a graph under its own name. -/
def save (s : GraphStore) (g : Graph) : ExceptT StoreError m String :=
  writeInto s.graphDir g.fileName g.encode

/-- Save the source of a graph. -/
def saveSource (s : GraphStore) (g : Graph) (source : String) : ExceptT StoreError m String :=
  writeInto s.sourceDir g.sourceFileName (Bytes.ofText source)

end GraphStore

end SignalGraph
