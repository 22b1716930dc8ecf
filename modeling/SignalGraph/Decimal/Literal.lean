import SignalGraph.Decimal.Shortest

/-!
# Signal literals

Signals are 32-bit numbers. A literal is the shortest text that reads back as the number and always has a
point or an exponent, so that it cannot be taken for a whole number.
-/

namespace SignalGraph

/-- The choices that turn digits and a power of ten into a text. -/
structure LiteralStyle where
  /-- The least power of ten of a first digit that is written without an exponent. -/
  minPlain : Int
  /-- The greatest power of ten of a first digit that is written without an exponent. -/
  maxPlain : Int

/-- Plain digits from a ten-thousandth up to below `10 ^ 16`, an exponent elsewhere. -/
def LiteralStyle.signal : LiteralStyle := ⟨-4, 15⟩

namespace LiteralStyle

/-- Digits around a point, when the last digit stands at `10 ^ k`; one digit at least on either side. -/
def plain (digits : List Char) (k : Int) : List Char :=
  if 0 ≤ k then digits ++ List.replicate k.toNat '0' ++ ['.', '0']
  else
    let places := (-k).toNat
    let padded := List.replicate (places + 1 - digits.length) '0' ++ digits
    padded.take (padded.length - places) ++ '.' :: padded.drop (padded.length - places)

/-- One digit, the others behind a point, and the power of ten `e` of the first. -/
def scientific (digits : List Char) (e : Int) : List Char :=
  let rest := digits.drop 1
  digits.take 1 ++ (if rest.isEmpty then [] else '.' :: rest) ++ 'e' :: (toString e).toList

/-- The text of a number of the 32-bit format. -/
def render (style : LiteralStyle) (v : FloatValue) : String :=
  let body :=
    if v.significand = 0 then ['0', '.', '0'] else
    let (n, k) := FloatFormat.binary32.shortest v.significand v.exponent
    let digits := Nat.toDigits 10 n
    let e := k + digits.length - 1
    if style.minPlain ≤ e && e ≤ style.maxPlain then plain digits k else scientific digits e
  String.ofList (if v.negative then '-' :: body else body)

end LiteralStyle

/-- The literal of a 32-bit signal. -/
def FloatValue.literal (v : FloatValue) : String := LiteralStyle.signal.render v

end SignalGraph
