/-!
# Permutations in order

The permutations of a list of numbers in lexicographic order, one after the other.
-/

namespace SignalGraph

/--
The next list with the same numbers in lexicographic order, if there is one. A list without a next one is
descending; the number before it gives way to the least greater one behind it, and all others follow in
ascending order.
-/
def nextPermutation? : List Nat → Option (List Nat)
  | [] => none
  | a :: l => match nextPermutation? l with
    | some l => some (a :: l)
    | none => (l.reverse.find? (a < ·)).map fun b => b :: l.reverse.replace b a

/-- Go on to the next permutation, or back to the first one behind the last; tell which. -/
def advancePermutation (l : List Nat) : Bool × List Nat :=
  match nextPermutation? l with
  | some l => (true, l)
  | none => (false, l.reverse)

/--
Count on by one in a row of permutations, the first one fastest. Behind the last combination there is none.
-/
def advanceAll? : List (List Nat) → Option (List (List Nat))
  | [] => none
  | p :: ps => match advancePermutation p with
    | (true, p) => some (p :: ps)
    | (false, p) => (advanceAll? ps).map (p :: ·)

/-- The number of permutations of `n` different things. -/
def permutations : Nat → Nat
  | 0 => 1
  | n + 1 => (n + 1) * permutations n

end SignalGraph
