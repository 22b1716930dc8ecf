import SignalGraph.Arrangement.Crossings
import SignalGraph.Arrangement.Permutation
import SignalGraph.Layering.Order
import SignalGraph.Random.Stream

/-!
# Looking for an order with few crossings

The layers of terminals keep their order, for it is the order of parameters and results. The other layers are
reordered, either by random exchanges of two slots, keeping each exchange that adds no crossing, or by trying
all orders.
-/

namespace SignalGraph

/-- How an order is looked for. -/
inductive Strategy where
  | localSearch
  | exhaustive
deriving DecidableEq

/-- The settings of an arrangement. -/
structure ArrangeConfig where
  /-- How an order is looked for. -/
  strategy : Strategy := .localSearch
  /-- How many exchanges are tried. -/
  iterations : Nat := 1000
  /-- The seed of the random exchanges. -/
  seed : UInt64 := 1
deriving DecidableEq, Inhabited

/-- Above this many orders the search by trying all gives way to random exchanges. -/
def exhaustiveLimit : Nat := 40320

/-- The layers that may be reordered: those without terminals that hold two slots or more. -/
def movableLayers (g : Graph) (layers : List (List Slot)) : List Nat :=
  let held (l : Nat) : Bool :=
    (l == 0 && !g.inPorts.isEmpty) || (l == layers.length - 1 && !g.outPorts.isEmpty)
  (List.range layers.length).filter fun l => !held l && 1 < (layers.getD l []).length

/-- Orders are counted up to this number, which stands for all greater ones too. -/
def greatestCount : Nat := UInt64.size - 1

/-- The number of orders of some layers, as far as is counted. -/
def orderings (layers : List (List Slot)) (movable : List Nat) : Nat :=
  movable.foldl (fun n l =>
    (List.range (layers.getD l []).length).foldl (fun n k => min (n * (k + 1)) greatestCount) n) 1

/-! ## Random exchanges -/

def swapItems {α : Type} (as : List α) (i j : Nat) : List α :=
  match as[i]?, as[j]? with
  | some a, some b => (as.set i b).set j a
  | _, _ => as

/-- A search in progress. -/
structure SearchState where
  /-- The layers in the best order so far. -/
  layers : List (List Slot)
  /-- The number of their crossings. -/
  total : Nat
  /-- What is left of the random words. -/
  stream : Random.Stream

/-- Try one exchange: a layer, and two of its slots. -/
def SearchState.step (h : Hops) (movable : List Nat) (s : SearchState) : SearchState :=
  let (k, stream) := s.stream.below movable.length
  let l := movable.getD k 0
  let n := (s.layers.getD l []).length
  let (i, stream) := stream.below n
  let (j, stream) := stream.below n
  if i = j then { s with stream }
  else
    let swapped := s.layers.modify l (swapItems · i j)
    let before := h.around s.layers l
    let after := h.around swapped l
    if before < after then { s with stream }
    else { layers := swapped, total := s.total - before + after, stream }

def SearchState.run (h : Hops) (movable : List Nat) : Nat → SearchState → SearchState
  | 0, s => s
  | n + 1, s => run h movable n (s.step h movable)

/-- The layers and their crossings after random exchanges. -/
def localSearch (h : Hops) (layers : List (List Slot)) (movable : List Nat) (initial : Nat)
    (config : ArrangeConfig) : List (List Slot) × Nat :=
  if movable.isEmpty || initial = 0 then (layers, initial)
  else
    let s := SearchState.run h movable config.iterations ⟨layers, initial, .ofSeed config.seed⟩
    (s.layers, s.total)

/-! ## All orders -/

/-- The layers with those of `movable` reordered, each by a permutation of its places. -/
def reorder (layers : List (List Slot)) (movable : List Nat) (perms : List (List Nat)) :
    List (List Slot) :=
  (movable.zip perms).foldl (fun done (l, perm) =>
    done.set l (perm.filterMap fun i => (layers.getD l [])[i]?)) layers

/-- The number of combinations of a permutation of each of some layers. -/
def combinations (layers : List (List Slot)) (movable : List Nat) : Nat :=
  movable.foldr (fun l n => permutations (layers.getD l []).length * n) 1

/-- The best orders and crossings, from the present combination of permutations on. -/
def searchOrders (h : Hops) (layers : List (List Slot)) (movable : List Nat) : (fuel : Nat) →
    (perms best : List (List Nat)) → (least : Nat) → List (List Nat) × Nat
  | 0, _, best, least => (best, least)
  | fuel + 1, perms, best, least =>
    let crossings := h.total (reorder layers movable perms)
    let (best, least) := if crossings < least then (perms, crossings) else (best, least)
    match advanceAll? perms with
    | some perms => searchOrders h layers movable fuel perms best least
    | none => (best, least)

/-- The layers in the first of the best orders, and their crossings. -/
def exhaustiveSearch (h : Hops) (layers : List (List Slot)) (movable : List Nat) (initial : Nat) :
    List (List Slot) × Nat :=
  let perms := movable.map fun l => List.range (layers.getD l []).length
  let (best, least) := searchOrders h layers movable (combinations layers movable) perms perms initial
  (reorder layers movable best, least)

/-! ## Arranging -/

/-- Arrange the layers of a layering. -/
def arrangeLayers (g : Graph) (l : Layering) (config : ArrangeConfig) : Arrangement :=
  let a := Arrangement.ofLayering g l
  let h := Hops.of g a
  let movable := movableLayers g a.layers
  let initial := h.total a.layers
  let (layers, crossings) :=
    if config.strategy = .exhaustive ∧ orderings a.layers movable ≤ exhaustiveLimit then
      exhaustiveSearch h a.layers movable initial
    else localSearch h a.layers movable initial config
  { a with layers, initialCrossings := initial, crossings }

def Graph.arrange (g : Graph) (config : ArrangeConfig) : Arrangement :=
  arrangeLayers g g.assignLayers config

end SignalGraph
