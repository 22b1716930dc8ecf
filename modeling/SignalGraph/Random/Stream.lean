/-!
# Random words

A stream of random words is determined by a seed. The seed is stretched to a key of eight words, and the
stream is the ChaCha cipher with twelve rounds under that key, block after block.
-/

namespace SignalGraph.Random

/-! ## The key -/

/-- One step of the generator that stretches a seed. -/
def stretch (s : UInt64) : UInt64 := s * 6364136223846793005 + 11634580027462260723

/-- Rotate a word to the left. -/
def rotateLeft (w : UInt32) (k : UInt32) : UInt32 := (w <<< k) ||| (w >>> (32 - k))

/-- The word of a state of that generator: its upper bits, rotated to the right by the topmost five. -/
def keyWord (s : UInt64) : UInt32 :=
  let x := (((s >>> 18) ^^^ s) >>> 27).toUInt32
  let k := (s >>> 59).toUInt32
  (x >>> k) ||| (x <<< ((32 - k) % 32))

/-- Four words side by side. -/
structure Row where
  a : UInt32
  b : UInt32
  c : UInt32
  d : UInt32
deriving DecidableEq

namespace Row

/-- Combine two rows word by word. -/
def zipWith (f : UInt32 → UInt32 → UInt32) (x y : Row) : Row := ⟨f x.a y.a, f x.b y.b, f x.c y.c, f x.d y.d⟩

/-- Add word by word, modulo `2 ^ 32`. -/
def add (x y : Row) : Row := x.zipWith (· + ·) y

/-- Combine bit by bit and rotate each word to the left. -/
def mix (x y : Row) (k : UInt32) : Row := x.zipWith (fun u v => rotateLeft (u ^^^ v) k) y

/-- Move every word one place to the front. -/
def turn (x : Row) : Row := ⟨x.b, x.c, x.d, x.a⟩

def toList (x : Row) : List UInt32 := [x.a, x.b, x.c, x.d]

end Row

def keyOfSeed (seed : UInt64) : Row × Row :=
  let s1 := stretch seed
  let s2 := stretch s1
  let s3 := stretch s2
  let s4 := stretch s3
  let s5 := stretch s4
  let s6 := stretch s5
  let s7 := stretch s6
  let s8 := stretch s7
  (⟨keyWord s1, keyWord s2, keyWord s3, keyWord s4⟩, ⟨keyWord s5, keyWord s6, keyWord s7, keyWord s8⟩)

/-! ## Blocks -/

/-- The four rows of a block. -/
structure Block where
  top : Row
  high : Row
  low : Row
  bottom : Row
deriving DecidableEq

namespace Block

/-- A quarter round on each column. -/
def columns (s : Block) : Block :=
  let top := s.top.add s.high
  let bottom := s.bottom.mix top 16
  let low := s.low.add bottom
  let high := s.high.mix low 12
  let top := top.add high
  let bottom := bottom.mix top 8
  let low := low.add bottom
  let high := high.mix low 7
  ⟨top, high, low, bottom⟩

/-- Turn the rows so that the diagonals become columns. -/
def slant (s : Block) : Block := { s with high := s.high.turn, low := s.low.turn.turn, bottom := s.bottom.turn.turn.turn }

def unslant (s : Block) : Block := { s with high := s.high.turn.turn.turn, low := s.low.turn.turn, bottom := s.bottom.turn }

/-- A round on the columns and one on the diagonals. -/
def doubleRound (s : Block) : Block := s.columns.slant.columns.unslant

def rounds : Nat → Block → Block
  | 0, s => s
  | n + 1, s => rounds n s.doubleRound

def add (s t : Block) : Block :=
  ⟨s.top.add t.top, s.high.add t.high, s.low.add t.low, s.bottom.add t.bottom⟩

def toList (s : Block) : List UInt32 := s.top.toList ++ s.high.toList ++ s.low.toList ++ s.bottom.toList

end Block

/-- The constants of the cipher: the text `expand 32-byte k`. -/
def constants : Row := ⟨0x61707865, 0x3320646e, 0x79622d32, 0x6b206574⟩

/-- The words of the block with a number. -/
def blockWords (key : Row × Row) (counter : UInt64) : List UInt32 :=
  let start : Block := ⟨constants, key.1, key.2, ⟨counter.toUInt32, (counter >>> 32).toUInt32, 0, 0⟩⟩
  ((start.rounds 6).add start).toList

/-! ## The stream -/

/-- A place in the stream of a key. -/
structure Stream where
  /-- The key. -/
  key : Row × Row
  /-- The number of the next block. -/
  counter : UInt64 := 0
  /-- The words of the present block that are left. -/
  words : List UInt32 := []

namespace Stream

/-- The start of the stream of a seed. -/
def ofSeed (seed : UInt64) : Stream := { key := keyOfSeed seed }

def next (s : Stream) : UInt32 × Stream :=
  match s.words with
  | w :: words => (w, { s with words })
  | [] =>
    let words := blockWords s.key s.counter
    (words.headD 0, { s with counter := s.counter + 1, words := words.tail })

/--
A number below `n`: the upper half of a word times `n`. If the lower half is so great that a further word
could carry into the upper one, that word is drawn and the carry added.
-/
def below (n : Nat) (s : Stream) : Nat × Stream :=
  let (w, s) := s.next
  let product := w.toNat * n
  let upper := product / UInt32.size
  let lower := product % UInt32.size
  if UInt32.size - n < lower then
    let (w, s) := s.next
    (if UInt32.size ≤ lower + w.toNat * n / UInt32.size then upper + 1 else upper, s)
  else (upper, s)

end Stream

end SignalGraph.Random
