import SignalGraph.Decimal.Binary

/-!
# The shortest decimal form of a binary number

Of all decimal numbers that are read back as a given binary number, the one with the fewest digits is
written, and of several with the fewest digits the nearest one. The search goes down through the powers of
ten: on each grid only the two neighbours of the number can lie in the interval that is read back as it.
-/

namespace SignalGraph

/-- The rational number `num / den`, compared by cross multiplication. -/
structure Ratio where
  num : Nat
  den : Nat

namespace Ratio

/-- The ratio `n * base ^ e`. -/
def ofPower (n base : Nat) (e : Int) : Ratio :=
  if 0 ≤ e then ⟨n * Nat.pow base e.toNat, 1⟩ else ⟨n, Nat.pow base (-e).toNat⟩

/-- Whether one ratio is smaller than another. -/
def blt (a b : Ratio) : Bool := a.num * b.den < b.num * a.den

/-- Whether one ratio is at most another. -/
def ble (a b : Ratio) : Bool := a.num * b.den ≤ b.num * a.den

end Ratio

/--
The interval of positive numbers that are rounded to the number `value`. Its ends belong to it when the
significand is even.
-/
structure RoundingInterval where
  /-- The number itself. -/
  value : Ratio
  /-- The middle between the number and the one below it. -/
  low : Ratio
  /-- The middle between the number and the one above it. -/
  high : Ratio
  /-- Whether the two ends are rounded to the number. -/
  closed : Bool

namespace RoundingInterval

/-- Whether a ratio lies in the interval. -/
def contains (i : RoundingInterval) (r : Ratio) : Bool :=
  if i.closed then i.low.ble r && r.ble i.high else i.low.blt r && r.blt i.high

/--
The interval around `m * 2 ^ e`. The spacing below a power of two is half the one above it, except at the
least exponent.
-/
def around (f : FloatFormat) (m : Nat) (e : Int) : RoundingInterval where
  value := .ofPower m 2 e
  low := if m = Nat.pow 2 (f.precision - 1) && f.minExponent < e then .ofPower (4 * m - 1) 2 (e - 2)
    else .ofPower (2 * m - 1) 2 (e - 1)
  high := .ofPower (2 * m + 1) 2 (e - 1)
  closed := m % 2 == 0

/--
The multiple of `10 ^ k` that lies in the interval and is nearest to the number, as the factor of the power.
Exactly between two of them the upper one is taken.
-/
def onGrid? (i : RoundingInterval) (k : Int) : Option Nat :=
  let unit := Ratio.ofPower 1 10 k
  let below := i.value.num * unit.den / (i.value.den * unit.num)
  let point (n : Nat) : Ratio := .ofPower n 10 k
  let twice := point (2 * below + 1)
  let lowIn := 0 < below && i.contains (point below)
  let highIn := i.contains (point (below + 1))
  if lowIn && highIn then
    some (if Ratio.ble ⟨twice.num, 2 * twice.den⟩ i.value then below + 1 else below)
  else if lowIn then some below
  else if highIn then some (below + 1)
  else none

/-- The first grid with a hit, from `10 ^ k` down, over at most `fuel` grids. -/
def search (i : RoundingInterval) : Nat → Int → Nat × Int
  | 0, k => (0, k)
  | fuel + 1, k => match i.onGrid? k with
    | some n => (n, k)
    | none => search i fuel (k - 1)

end RoundingInterval

/--
The digits of the shortest decimal form of a positive number of a format, and the power of ten of the last
digit. The search starts above the number and needs no more grids than the significand has bits.
-/
def FloatFormat.shortest (f : FloatFormat) (m : Nat) (e : Int) : Nat × Int :=
  let i := RoundingInterval.around f m e
  let places := (Nat.toDigits 10 (i.value.num / i.value.den)).length
  let start : Int := if i.value.den ≤ i.value.num then places
    else -((Nat.toDigits 10 (i.value.den / i.value.num)).length : Int) + 1
  i.search (f.precision + 3) start

end SignalGraph
