import SignalGraph.Files.Basic
import SignalGraph.Table
import SignalGraph.Text.Affix

/-!
# Trees of files

A tree of files in memory, seen from one directory, the top. It obeys the rules of a disk as far as reading,
writing and making directories go: whatever stands before the last part of a path has to be a directory that
exists, a point or two points included, and a file can only be made under a name of its own.
-/

namespace SignalGraph

/-- What is at a place of a tree. -/
inductive FileEntry where
  | directory
  | file (bytes : List UInt8)
deriving DecidableEq

/-- Files and directories by their places, the names that lead to them from the top. -/
structure FileTree where
  entries : Table (List String) FileEntry := ∅
deriving DecidableEq, Inhabited

namespace FileTree

/-- The tree without entries. -/
def empty : FileTree := {}

/-- Whether a place is the top or a directory that holds it. These always exist. -/
def isAbove (place : List String) : Bool := place.all (· == "..")

def entryAt? (t : FileTree) (place : List String) : Option FileEntry :=
  if isAbove place then some .directory else t.entries.get? place

def set (t : FileTree) (place : List String) (e : FileEntry) : FileTree := ⟨t.entries.set place e⟩

def below (t : FileTree) : List (List String × FileEntry) :=
  t.entries.entries.filter fun (place, _) => place.head? != some ".."

/-! ## Paths -/

/-- The parts of a path between its slashes. -/
def parts (path : String) : List String :=
  ((Text.splitOn (· == '/') path.toList).map String.ofList).filter (· != "")

/-- The greatest number of bytes in a name. -/
def maxNameBytes : Nat := 255

/-- The least number of bytes that a path cannot have. -/
def pathBytesLimit : Nat := 4096

/-- Succeed if a path can be looked for from the top. -/
def checkPath (path : String) : Except FileError Unit :=
  if path.toList.contains '\x00' then .error .nullInName
  else if pathBytesLimit ≤ path.utf8ByteSize then .error .nameTooLong
  else if path.isEmpty || path.startsWith "/" then .error .notFound
  else .ok ()

/-- The place of the directory that holds another. -/
def holder (place : List String) : List String :=
  if isAbove place then ".." :: place else place.dropLast

/-- What has a name in a directory. -/
def lookup (t : FileTree) (place : List String) (name : String) : Except FileError (Option FileEntry) :=
  if maxNameBytes < name.utf8ByteSize then .error .nameTooLong else .ok (t.entryAt? (place ++ [name]))

/-- The place of the directory that one part of a path leads to. -/
def enter (t : FileTree) (place : List String) (part : String) : Except FileError (List String) :=
  if part == "." then .ok place
  else if part == ".." then .ok (holder place)
  else (t.lookup place part).bind fun
    | some .directory => .ok (place ++ [part])
    | some (.file _) => .error .notADirectory
    | none => .error .notFound

/-- Where a path ends. -/
structure PathEnd where
  /-- The place of the directory before the last part. -/
  place : List String
  /-- The last part. -/
  name : String
  /-- Whether a slash follows, so that only a directory is meant. -/
  slash : Bool

/-- Whether the last part of a path is no name but one or two points. -/
def PathEnd.isPoints (e : PathEnd) : Bool := e.name == "." || e.name == ".."

/-- Where a path ends, if everything before its last part is a directory. -/
def locate (t : FileTree) (path : String) : Except FileError PathEnd := do
  checkPath path
  let ps := parts path
  let place ← ps.dropLast.foldlM t.enter []
  pure { place, name := ps.getLastD ".", slash := path.endsWith "/" }

def find (t : FileTree) (path : String) : Except FileError FileEntry := do
  let e ← t.locate path
  if e.isPoints then pure .directory
  else match ← t.lookup e.place e.name with
    | none => throw .notFound
    | some .directory => pure .directory
    | some (.file bs) => if e.slash then throw .notADirectory else pure (.file bs)

/-- Whether a path leads to anything. -/
def isPresent (t : FileTree) (path : String) : Bool := (t.find path).toBool

/-- Whether a path leads to a directory. -/
def isDirectory (t : FileTree) (path : String) : Bool :=
  match t.find path with
  | .ok .directory => true
  | _ => false

/-! ## Files -/

def read (t : FileTree) (path : String) : Except FileError (List UInt8) := do
  match ← t.find path with
  | .directory => throw .isADirectory
  | .file bs => pure bs

/-- Replace the bytes of a file, or make a new one. -/
def write (t : FileTree) (path : String) (bs : List UInt8) : Except FileError FileTree := do
  let e ← t.locate path
  if e.isPoints || e.slash then throw .isADirectory
  else match ← t.lookup e.place e.name with
    | some .directory => throw .isADirectory
    | _ => pure (t.set (e.place ++ [e.name]) (.file bs))

/-! ## Directories -/

def makeDirectory (t : FileTree) (path : String) : Except FileError FileTree := do
  let e ← t.locate path
  if e.isPoints then throw .alreadyExists
  else match ← t.lookup e.place e.name with
    | some _ => throw .alreadyExists
    | none => pure (t.set (e.place ++ [e.name]) .directory)

/-- Make one directory unless it is there. -/
def ensureDirectory (t : FileTree) (path : String) : Except FileError FileTree :=
  match t.makeDirectory path with
  | .error .alreadyExists => if t.isDirectory path then .ok t else .error .alreadyExists
  | r => r

/--
Make the first of some directories. Each is held by the next, and the last by one that exists. Those that
hold a missing one are made before it, and stay if it cannot be made.
-/
def makeFirst (t : FileTree) : (paths : List String) → Except FileError Unit × FileTree
  | [] => (.ok (), t)
  | path :: holders =>
    match t.ensureDirectory path with
    | .ok t => (.ok (), t)
    | .error .notFound =>
      match t.makeFirst holders with
      | (.error e, t) => (.error e, t)
      | (.ok (), t) => match t.ensureDirectory path with
        | .ok t => (.ok (), t)
        | .error e => (.error e, t)
    | .error e => (.error e, t)

/-- The path without the parts that lead nowhere: every point but one at the start. -/
def steps (path : String) : List String :=
  let ps := parts path
  ps.take 1 ++ (ps.drop 1).filter (· != ".")

/-- The paths of the directories that hold that of a path, the longest first, as far as the path names them. -/
def holders (path : String) : List String :=
  let ps := steps path
  ((List.range ps.length).drop 1).reverse.map fun n => String.intercalate "/" (ps.take n)

/-- Make a directory and those that hold it. The empty path is the top, which exists. -/
def makeDirectories (t : FileTree) (path : String) : Except FileError Unit × FileTree :=
  if path.isEmpty then (.ok (), t) else t.makeFirst (path :: holders path)

end FileTree

/-- Files in memory. -/
instance : Files (StateM FileTree) where
  isPresent path := do return (← get).isPresent path
  read path := do return (← get).read path
  write path bs := modifyGet fun t => match t.write path bs with
    | .ok t => (.ok (), t)
    | .error e => (.error e, t)
  makeDirectories path := modifyGet (·.makeDirectories path)

end SignalGraph
