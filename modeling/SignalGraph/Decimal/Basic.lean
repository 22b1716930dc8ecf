/-!
# Decimal numbers

A decimal number is a sign, a coefficient and a power of ten. It is read from digits with an optional point
among them and an optional exponent behind them; at least one digit is needed in each part that is there.
-/

namespace SignalGraph

/-- The number `± coefficient * 10 ^ exponent`. -/
structure Decimal where
  /-- Whether a minus sign stands in front; zero keeps its sign. -/
  negative : Bool
  /-- The digits as one number. -/
  coefficient : Nat
  /-- The power of ten. -/
  exponent : Int
deriving DecidableEq

namespace Decimal

/-- The value of a decimal digit. -/
def digitValue (c : Char) : Nat := c.toNat - '0'.toNat

/-- The number written by a row of digits. -/
def digitsValue (ds : List Char) : Nat := ds.foldl (fun n c => 10 * n + digitValue c) 0

/-- A sign, if there is one, and what follows it. -/
def splitSign : List Char → Bool × List Char
  | '-' :: cs => (true, cs)
  | '+' :: cs => (false, cs)
  | cs => (false, cs)

/-- Exponents stop growing here: no number format reaches half as far. -/
def exponentCap : Nat := 0x10000

/--
The number written by the digits of an exponent. Digits that follow a value of `exponentCap` or more are
read and ignored, so a long exponent stays a small number.
-/
def exponentValue (ds : List Char) : Nat :=
  ds.foldl (fun n c => if n < exponentCap then 10 * n + digitValue c else n) 0

/-- An exponent with its letter, or nothing at all. -/
def readExponent? : List Char → Option Int
  | [] => some 0
  | c :: cs =>
    if c == 'e' || c == 'E' then
      let (negative, ds) := splitSign cs
      if ds.isEmpty || !ds.all Char.isDigit then none
      else some (if negative then -(exponentValue ds : Int) else exponentValue ds)
    else none

/-- Read a decimal number that takes up the whole text. -/
def read? (cs : List Char) : Option Decimal :=
  let (negative, cs) := splitSign cs
  let whole := cs.takeWhile Char.isDigit
  let (fraction, tail) := match cs.dropWhile Char.isDigit with
    | '.' :: rest => (rest.takeWhile Char.isDigit, rest.dropWhile Char.isDigit)
    | rest => ([], rest)
  if whole.isEmpty && fraction.isEmpty then none
  else (readExponent? tail).map fun e =>
    ⟨negative, digitsValue (whole ++ fraction), e - fraction.length⟩

end Decimal

end SignalGraph
