import SignalGraph.Layering.Rank

/-!
# The order within a layer

The order depends on the structure of the graph alone. Terminals come first, in declared order. The other
nodes are ordered by name, by the numbers of their ports, by where their inputs come from, and by the layers
that their outputs feed.
-/

namespace SignalGraph

/-- Compare two lists item by item as far as both reach. -/
def compareItems {α β : Type} (cmp : α → β → Ordering) : List α → List β → Ordering
  | a :: as, b :: bs => (cmp a b).then (compareItems cmp as bs)
  | _, _ => .eq

/-- What two nodes of a layer are compared by: the layers of all nodes, and the places in earlier layers. -/
structure Surroundings where
  /-- The graph of the nodes. -/
  graph : Graph
  /-- The layer of each node. -/
  layers : Table NodeId Nat
  /-- The place of a node in its layer, or in its sequence of terminals. -/
  places : Table NodeId Nat

namespace Surroundings

/-- The place of a node, zero if it has none yet. -/
def place (s : Surroundings) (n : NodeId) : Nat := (s.places.get? n).getD 0

/-- Compare two connections by the ports they come from. -/
def compareSources (s : Surroundings) (a b : Connection) : Ordering :=
  (compare (s.layers.get? a.src.node) (s.layers.get? b.src.node)).then
    ((compare (s.place a.src.node) (s.place b.src.node)).then (compare a.src.index b.src.index))

/-- Compare two connections by the layers they lead to. -/
def compareTargets (s : Surroundings) (a b : Connection) : Ordering :=
  compare (s.layers.get? a.dst.node) (s.layers.get? b.dst.node)

/-- Compare two ports by the numbers of their connections, and then connection by connection. -/
def comparePorts (s : Surroundings) (cmp : Connection → Connection → Ordering) (a b : Port) : Ordering :=
  (compare a.connections.length b.connections.length).then
    (compareItems (fun c d => match s.graph.connection? c, s.graph.connection? d with
      | some c, some d => cmp c d
      | _, _ => .eq) a.connections b.connections)

/-- Compare two nodes by name, numbers of ports, inputs and outputs. -/
def compareNodes (s : Surroundings) (a b : NodeId) : Ordering :=
  match s.graph.node? a, s.graph.node? b with
  | some a, some b =>
    (compare a.name b.name).then <|
      (compare a.inputs.length b.inputs.length).then <|
        (compare a.outputs.length b.outputs.length).then <|
          (compareItems (s.comparePorts s.compareSources) a.inputs b.inputs).then <|
            compareItems (s.comparePorts s.compareTargets) a.outputs b.outputs
  | _, _ => .eq

/-- Compare two terminals: inputs before outputs, then by place. -/
def compareTerminals (s : Surroundings) (a b : NodeId) : Ordering :=
  let isOutput (n : NodeId) : Nat := if (s.graph.node? n).any Node.isOutputTerminal then 1 else 0
  (compare (isOutput a) (isOutput b)).then (compare (s.places.get? a) (s.places.get? b))

/-- The nodes of a layer in order. -/
def sortLayer (s : Surroundings) (layer : List NodeId) : List NodeId :=
  let isTerminal (n : NodeId) : Bool := (s.graph.node? n).any Node.isTerminal
  (layer.filter isTerminal).mergeSort (fun a b => s.compareTerminals a b != .gt) ++
    (layer.filter fun n => !isTerminal n).mergeSort (fun a b => s.compareNodes a b != .gt)

/-- Note the places of the nodes of a layer. -/
def settle (s : Surroundings) (layer : List NodeId) : Surroundings :=
  { s with places := s.places.setAll layer.zipIdx }

/-- Order layer after layer, each by the places in those before it. -/
def sortLayers (s : Surroundings) : List (List NodeId) → List (List NodeId)
  | [] => []
  | layer :: rest =>
    let layer := s.sortLayer layer
    layer :: (s.settle layer).sortLayers rest

end Surroundings

/-- The places of the terminals in their sequences. -/
def Graph.terminalPlaces (g : Graph) : Table NodeId Nat :=
  .ofList (g.inPorts.zipIdx ++ g.outPorts.zipIdx)

/-- The layers in order, from their nodes and the layer of each node. -/
def Graph.orderLayers (g : Graph) (nodeLayers : Table NodeId Nat) (layers : List (List NodeId)) :
    List (List NodeId) :=
  Surroundings.sortLayers ⟨g, nodeLayers, g.terminalPlaces⟩ layers

/-- The ranks that occur, lowest first. -/
def usedRanks (rank : Table NodeId Int) : List Int := rank.values.eraseDups.mergeSort (· ≤ ·)

/-- Place every node in a layer. The ranks that occur become the layers, without gaps. -/
def Graph.assignLayers (g : Graph) : Layering :=
  if g.allNodes.isEmpty then {}
  else
    let rank := g.finalRanks
    let used := usedRanks rank
    let nodeLayers := rank.mapValues fun _ r => used.idxOf r
    let layers := (List.range used.length).map fun i =>
      g.allNodes.filter fun n => nodeLayers.get? n == some i
    { layers := g.orderLayers nodeLayers layers, nodeLayers }

end SignalGraph
