import SignalGraph.Arrangement.Basic

/-!
# Crossings

Every connection is drawn as hops from one layer to the next. Two hops across the same boundary cross when
their starts and their ends come in opposite orders, where the ports of a layer are numbered from top to
bottom.
-/

namespace SignalGraph

/-- A line from a port of one layer to a port of the next. -/
structure Hop where
  /-- The slot and the port where it starts. -/
  src : Slot × Nat
  /-- The slot and the port where it ends. -/
  dst : Slot × Nat
deriving DecidableEq

/-- The slots and ports that a connection touches, from source to destination. -/
def Arrangement.path (a : Arrangement) (c : ConnectionId) (ends : Connection) : List (Slot × Nat) :=
  let via := ((a.routes.get? c).map (·.via)).getD []
  (.node ends.src.node, ends.src.index) ::
    via.map (fun k => (.placeholder k, 0)) ++ [(.node ends.dst.node, ends.dst.index)]

/-- The hops of a connection, each with the boundary that it crosses. A boundary follows its layer. -/
def Arrangement.hops (a : Arrangement) (c : ConnectionId) (ends : Connection) : List (Hop × Nat) :=
  match a.nodeLayers.get? ends.src.node with
  | none => []
  | some start =>
    let path := a.path c ends
    (path.zipWith Hop.mk path.tail).zipIdx start

/-- The hops of a drawing by boundary, and the numbers of ports of its slots. -/
structure Hops where
  /-- The number of outputs of each slot. -/
  outputs : Slot → Nat
  /-- The number of inputs of each slot. -/
  inputs : Slot → Nat
  /-- The hops across each boundary. -/
  boundaries : List (List Hop)

namespace Hops

/-- The number of ports of a slot; a placeholder has one of each direction. -/
def portCount (g : Graph) (ports : Node → List Port) : Slot → Nat
  | .placeholder _ => 1
  | .node n => ((g.node? n).map fun node => (ports node).length).getD 0

/-- The hops of the connections of a graph. A hop beyond the last boundary is not drawn. -/
def of (g : Graph) (a : Arrangement) : Hops where
  outputs := portCount g (·.outputs)
  inputs := portCount g (·.inputs)
  boundaries :=
    let all := g.connections.entries.flatMap fun (c, ends) => a.hops c ends
    (List.range (a.layers.length - 1)).map fun b => (all.filter (·.2 == b)).map Prod.fst

/-- The number of the first port of each slot of a layer, the last slot first. -/
def offsets (count : Slot → Nat) (layer : List Slot) : List (Slot × Nat) :=
  (layer.foldl (fun (done, next) s => ((s, next) :: done, next + count s)) ([], 0)).1

/-- The port numbers between which a hop is drawn, if both layers have its slots. -/
def span? (above below : List (Slot × Nat)) (h : Hop) : Option (Nat × Nat) := do
  let s ← above.lookup h.src.1
  let d ← below.lookup h.dst.1
  pure (s + h.src.2, d + h.dst.2)

def crosses (x y : Nat × Nat) : Bool := (x.1 < y.1 && y.2 < x.2) || (y.1 < x.1 && x.2 < y.2)

/-- The number of pairs that cross. -/
def countCrossing : List (Nat × Nat) → Nat
  | [] => 0
  | x :: xs => xs.countP (crosses x) + countCrossing xs

/-- The crossings between a layer and the next. -/
def crossingsAt (h : Hops) (layers : List (List Slot)) (b : Nat) : Nat :=
  match h.boundaries[b]?, layers[b]?, layers[b + 1]? with
  | some hops, some upper, some lower =>
    countCrossing (hops.filterMap (span? (offsets h.outputs upper) (offsets h.inputs lower)))
  | _, _, _ => 0

/-- The crossings on both sides of a layer. -/
def around (h : Hops) (layers : List (List Slot)) (l : Nat) : Nat :=
  (if 0 < l then h.crossingsAt layers (l - 1) else 0) + h.crossingsAt layers l

def total (h : Hops) (layers : List (List Slot)) : Nat :=
  (List.range h.boundaries.length).foldr (fun b n => h.crossingsAt layers b + n) 0

end Hops

namespace Arrangement

/-- Whether every placeholder on the route of a connection lies behind a boundary of the drawing. -/
def fits (a : Arrangement) (c : ConnectionId) (ends : Connection) : Bool :=
  match a.nodeLayers.get? ends.src.node, a.routes.get? c with
  | some start, some r => r.via.isEmpty || start + r.via.length < a.layers.length
  | _, _ => true

/--
The crossings of the layers as they are, for the connections that the graph has now. There is no such number
when a route leads beyond the last layer.
-/
def countCrossings? (a : Arrangement) (g : Graph) : Option Nat :=
  if g.connections.entries.all fun (c, ends) => a.fits c ends then
    some ((Hops.of g a).total a.layers)
  else none

end Arrangement

end SignalGraph
