import SignalGraph.Decimal.Basic

/-!
# Binary floating-point numbers

A number format keeps a bounded count of bits; every other number is rounded to the nearest one that has a
form, a half to the even neighbour. All of it is exact arithmetic on natural numbers.
-/

namespace SignalGraph

/-- A binary floating-point format, by the bits of a significand and the powers of two of its last bit. -/
structure FloatFormat where
  /-- The number of bits of a significand. -/
  precision : Nat
  /-- The least power of two of a last bit: the spacing of the numbers next to zero. -/
  minExponent : Int
  /-- The greatest power of two of a last bit. -/
  maxExponent : Int

def FloatFormat.binary64 : FloatFormat := ⟨53, -1074, 971⟩

def FloatFormat.binary32 : FloatFormat := ⟨24, -149, 104⟩

/-- The number `± significand * 2 ^ exponent`; zero keeps its sign. -/
structure FloatValue where
  /-- Whether the number has a minus sign. -/
  negative : Bool
  /-- The digits as a whole number. -/
  significand : Nat
  /-- The power of two of the last digit. -/
  exponent : Int
deriving DecidableEq

/-- The quotient rounded to the nearest whole number, a half to the even neighbour. -/
def roundDiv (num den : Nat) : Nat :=
  let q := num / den
  let r := num % den
  if den < 2 * r || (2 * r == den && q % 2 == 1) then q + 1 else q

/-- The numerator and denominator of `num / den * 2 ^ k`. -/
def scaleRatio (num den : Nat) (k : Int) : Nat × Nat :=
  if 0 ≤ k then (num * Nat.pow 2 k.toNat, den) else (num, den * Nat.pow 2 (-k).toNat)

/-- The power of two at or below the positive ratio `num / den`. -/
def ratioLog2 (num den : Nat) : Int :=
  let l : Int := (num.log2 : Int) - den.log2
  let (n, d) := scaleRatio num den (-l)
  if d ≤ n then l else l - 1

namespace FloatFormat

/--
The significand and exponent of the number nearest to `num / den`, or nothing when that number is beyond
the greatest of the format. The significand has full length unless the exponent is the least one.
-/
def roundRatio? (f : FloatFormat) (num den : Nat) : Option (Nat × Int) :=
  if num = 0 then some (0, f.minExponent) else
  let e := max f.minExponent (ratioLog2 num den - (f.precision - 1))
  let (n, d) := scaleRatio num den (-e)
  let q := roundDiv n d
  let (m, e) := if q = Nat.pow 2 f.precision then (Nat.pow 2 (f.precision - 1), e + 1) else (q, e)
  if f.maxExponent < e then none else some (m, e)

/-- Powers of ten beyond this many places are out of the range of every format. -/
def decimalReach : Int := 400

/-- The number of the format nearest to a decimal one, or nothing when it is beyond the greatest. -/
def ofDecimal? (f : FloatFormat) (d : Decimal) : Option FloatValue :=
  let places : Int := (Nat.toDigits 10 d.coefficient).length + d.exponent
  if d.coefficient = 0 || places < -decimalReach then some ⟨d.negative, 0, f.minExponent⟩
  else if decimalReach < places then none
  else
    let ratio := if 0 ≤ d.exponent then (d.coefficient * Nat.pow 10 d.exponent.toNat, 1)
      else (d.coefficient, Nat.pow 10 (-d.exponent).toNat)
    (f.roundRatio? ratio.1 ratio.2).map fun (m, e) => ⟨d.negative, m, e⟩

/-- The number of the format nearest to a binary one, or nothing when it is beyond the greatest. -/
def ofFloat? (f : FloatFormat) (v : FloatValue) : Option FloatValue :=
  let (n, d) := scaleRatio v.significand 1 v.exponent
  (f.roundRatio? n d).map fun (m, e) => ⟨v.negative, m, e⟩

end FloatFormat

/--
The 64-bit pattern of a number of that format: sign, biased exponent and significand. A significand of
full length is written without its leading bit.
-/
def FloatValue.bits64 (v : FloatValue) : Nat :=
  let sign := if v.negative then Nat.pow 2 63 else 0
  let leading := Nat.pow 2 52
  if v.significand < leading then sign + v.significand
  else sign + (v.exponent + 1075).toNat * leading + (v.significand - leading)

end SignalGraph
