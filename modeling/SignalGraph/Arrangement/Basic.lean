import SignalGraph.Layering.Basic

/-!
# Arrangements

An arrangement is a layering ready for drawing. A connection that spans several layers is routed through a
placeholder in each layer between, so that every line drawn leads from one layer to the next.
-/

namespace SignalGraph

/--
An entry of an arranged layer. A placeholder is known by its place among those of the drawing, a number of any size;
up to `2 ^ 32` placeholders, the numbers fit into 32 bits.
-/
inductive Slot where
  | node (n : NodeId)
  | placeholder (k : Nat)
deriving DecidableEq

def Slot.node? : Slot → Option NodeId
  | node n => some n
  | placeholder _ => none

/-- What a placeholder stands for. -/
structure Placeholder where
  connection : ConnectionId
  layer : Nat
deriving DecidableEq

/-- The way of a connection that spans several layers. -/
structure Route where
  /-- The port it comes from. -/
  src : OutPort
  /-- The port it leads to. -/
  dst : InPort
  /-- The numbers of the placeholders on the way, in layer order. -/
  via : List Nat
deriving DecidableEq

/-- Ordered layers with the routes through them. -/
structure Arrangement where
  /-- The slots of each layer, top to bottom. -/
  layers : List (List Slot) := []
  /-- The layer of each node. -/
  nodeLayers : Table NodeId Nat := ∅
  /-- The placeholders, by number. -/
  placeholders : List Placeholder := []
  /-- The routes of the connections that span several layers. -/
  routes : Table ConnectionId Route := ∅
  /-- The number of crossings before the layers were reordered. -/
  initialCrossings : Nat := 0
  /-- The number of crossings. -/
  crossings : Nat := 0
deriving DecidableEq, Inhabited

namespace Arrangement

def nodes (a : Arrangement) : List NodeId := a.layers.flatten.filterMap Slot.node?

/-- Route a connection, if it spans several layers: a placeholder at the end of each layer between. -/
def route (a : Arrangement) (c : ConnectionId) (ends : Connection) : Arrangement :=
  match a.nodeLayers.get? ends.src.node, a.nodeLayers.get? ends.dst.node with
  | some low, some high =>
    if high ≤ low + 1 then a
    else
      let start := a.placeholders.length
      let between := (List.range (high - low - 1)).map fun i => (start + i, low + 1 + i)
      { a with
        placeholders := a.placeholders ++ between.map fun (_, layer) => ⟨c, layer⟩
        layers := between.foldl (fun layers (k, layer) => layers.modify layer (· ++ [.placeholder k]))
          a.layers
        routes := a.routes.set c ⟨ends.src, ends.dst, between.map Prod.fst⟩ }
  | _, _ => a

/-- The arrangement of a layering in its own order, with all long connections routed. -/
def ofLayering (g : Graph) (l : Layering) : Arrangement :=
  g.connections.entries.foldl (fun a (c, ends) => a.route c ends)
    { layers := l.layers.map (·.map .node), nodeLayers := l.nodeLayers }

/-- A drawing in text: a headline, and a line for each layer with a bar for each placeholder. -/
def render (a : Arrangement) (g : Graph) : String :=
  let label : Slot → String
    | .node n => ((g.node? n).map (·.origin.label)).getD n.label
    | .placeholder _ => "|"
  let headline := g.name ++ ": " ++ toString a.layers.length ++ " layers, " ++ toString a.crossings ++
    " crossings (" ++ toString a.initialCrossings ++ " before arranging)\n"
  let line (layer : List Slot × Nat) : String :=
    Text.padLeft 4 (toString layer.2) ++ ": " ++ Text.join "  " (layer.1.map label) ++ "\n"
  headline ++ String.join (a.layers.zipIdx.map line)

end Arrangement

end SignalGraph
