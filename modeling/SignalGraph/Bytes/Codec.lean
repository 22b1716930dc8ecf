/-!
# Bytes

Numbers of a fixed width are written with the least byte first. A text is its length and its UTF-8 bytes, a
sequence its length and its items; both lengths take eight bytes. Readers give back what they read and the
bytes that follow.
-/

namespace SignalGraph.Bytes

/-- Why bytes cannot be read. -/
inductive CodecError where
  /-- The bytes end too early. -/
  | endOfInput
  /-- The bytes of a text are not UTF-8. -/
  | invalidText
deriving DecidableEq

def CodecError.message : CodecError → String
  | endOfInput => "io error"
  | invalidText => "string is not valid utf8"

/-- A reader takes bytes off the front. -/
abbrev Reader (α : Type) := List UInt8 → Except CodecError (α × List UInt8)

/-! ## Numbers -/

/-- The `width` bytes of a number, the least first. -/
def writeNat : (width : Nat) → Nat → List UInt8
  | 0, _ => []
  | width + 1, n => UInt8.ofNat (n % 256) :: writeNat width (n / 256)

/-- The number of some bytes, the least first. -/
def ofBytes : List UInt8 → Nat
  | [] => 0
  | b :: bs => b.toNat + 256 * ofBytes bs

/-- Read a number of `width` bytes. -/
def readNat (width : Nat) : Reader Nat := fun bs =>
  if bs.length < width then .error .endOfInput else .ok (ofBytes (bs.take width), bs.drop width)

/-- The four bytes of a word. -/
def writeWord (w : UInt32) : List UInt8 := writeNat 4 w.toNat

/-- Read a word of four bytes. -/
def readWord : Reader UInt32 := fun bs => (readNat 4 bs).map fun (n, bs) => (UInt32.ofNat n, bs)

/-- The eight bytes of a length. -/
def writeLength (n : Nat) : List UInt8 := writeNat 8 n

/-- Read a length of eight bytes. -/
def readLength : Reader Nat := readNat 8

/-! ## Texts -/

/-- The UTF-8 bytes of a text. -/
def ofText (s : String) : List UInt8 := s.toUTF8.data.toList

/-- The text of some UTF-8 bytes, if they are valid. -/
def toText? (bs : List UInt8) : Option String := String.fromUTF8? ⟨⟨bs⟩⟩

/-- The length and the bytes of a text. -/
def writeText (s : String) : List UInt8 :=
  let bs := ofText s
  writeLength bs.length ++ bs

def readText : Reader String := fun bs => do
  let (n, bs) ← readLength bs
  if bs.length < n then throw .endOfInput
  else match toText? (bs.take n) with
    | some s => pure (s, bs.drop n)
    | none => throw .invalidText

/-! ## Sequences -/

/-- The length and the items of a sequence. -/
def writeList {α : Type} (write : α → List UInt8) (as : List α) : List UInt8 :=
  writeLength as.length ++ as.flatMap write

def readItems {α : Type} (read : Reader α) : Nat → Reader (List α)
  | 0, bs => .ok ([], bs)
  | n + 1, bs => do
    let (a, bs) ← read bs
    let (as, bs) ← readItems read n bs
    pure (a :: as, bs)

def readList {α : Type} (read : Reader α) : Reader (List α) := fun bs => do
  let (n, bs) ← readLength bs
  readItems read n bs

end SignalGraph.Bytes
