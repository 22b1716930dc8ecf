import SignalGraph.Capability
import SignalGraph.Graph.Invariants

/-!
# Graph records

A record is a graph as flat tables. The node table lists input terminals first, then the body, then output
terminals; connections name nodes and ports by their index in it. A delay node carries the place of the node
that owns its line, counted from one, and every other node carries zero.

Reading a record back builds every node anew, so a record cannot hold a node that its origin does not stand
for. Every index outside its table is refused.
-/

namespace SignalGraph

/-- A node of a record. -/
structure NodeRecord where
  /-- The package of the origin, empty for what is built in. -/
  pkg : String
  /-- The name of the origin. -/
  name : String
  /-- The place of the owner of the delay line, counted from one, or zero. -/
  delayWrite : UInt32
deriving DecidableEq

/-- A connection of a record. -/
structure ConnectionRecord where
  /-- The place of the source node. -/
  srcNode : UInt32
  /-- The output port of the source node. -/
  srcPort : UInt32
  /-- The place of the destination node. -/
  dstNode : UInt32
  /-- The input port of the destination node. -/
  dstPort : UInt32
deriving DecidableEq

/-- A graph as flat tables. -/
structure GraphRecord where
  name : String
  nodes : List NodeRecord
  connections : List ConnectionRecord
deriving DecidableEq

/-- Why a record is no graph. -/
inductive RecordError where
  /-- A connection names a node beyond the table. -/
  | nodeIndex (index : UInt32) (count : Nat)
  /-- A connection names a port that its node does not have. -/
  | portIndex (node : UInt32) (direction : Direction) (index : UInt32) (count : Nat)
  /-- A delay line belongs to a node beyond the table. -/
  | delayIndex (node : Nat) (index : UInt32) (count : Nat)
  /-- A node refers to the delay line of a node that owns none. -/
  | notADelayWrite (node writer : Nat)
  /-- A node cannot be built. -/
  | build (cause : BuildError)
  /-- A node or connection cannot be added. -/
  | graph (cause : GraphError)
deriving DecidableEq

def RecordError.message : RecordError → String
  | nodeIndex i n => "node index " ++ toString i.toNat ++ " out of range (" ++ toString n ++ " nodes)"
  | portIndex node d i n => d.label ++ " port index " ++ toString i.toNat ++ " of node " ++
      toString node.toNat ++ " out of range (" ++ toString n ++ " ports)"
  | delayIndex node i n => "delay index " ++ toString i.toNat ++ " of node " ++ toString node ++
      " out of range (" ++ toString n ++ " nodes)"
  | notADelayWrite node w => "node " ++ toString node ++ " references node " ++ toString w ++
      ", which is not a delay write"
  | build e => e.message
  | graph e => e.message

namespace Graph

/-! ## Writing a record -/

/-- The place of a node in the node table. -/
def place? (g : Graph) (n : NodeId) : Option UInt32 := (g.allNodes.idxOf? n).map UInt32.ofNat

/-- The record of a node at place `i`. -/
def nodeRecord (g : Graph) (i : Nat) (node : Node) : NodeRecord where
  pkg := node.origin.pkg
  name := node.origin.name
  delayWrite := match node.delay with
    | none => 0
    | some .write => UInt32.ofNat i + 1
    | some (.read writer) => ((g.place? writer).map (· + 1)).getD 0

/-- The records of the connections that end at a node at place `i`, in port order. -/
def connectionRecords (g : Graph) (i : Nat) (n : NodeId) (node : Node) : List ConnectionRecord :=
  (List.range node.inputs.length).filterMap fun port => do
    let src ← g.sourceOf? ⟨n, port⟩
    let srcNode ← g.place? src.node
    pure ⟨srcNode, UInt32.ofNat src.index, UInt32.ofNat i, UInt32.ofNat port⟩

def toRecord (g : Graph) : GraphRecord :=
  let rows := g.allNodes.zipIdx.filterMap fun (n, i) => (g.node? n).map fun node => (n, i, node)
  { name := g.name
    nodes := rows.map fun (_, i, node) => g.nodeRecord i node
    connections := rows.flatMap fun (n, i, node) => g.connectionRecords i n node }

end Graph

/-! ## Reading a record -/

namespace GraphRecord

/-- A graph under construction. -/
structure Draft where
  /-- What is built so far. -/
  graph : Graph
  /-- The identities of the nodes, by place. -/
  ids : List NodeId := []
  /-- The places of delay reads with those of the owners of their lines. -/
  reads : List (Nat × Nat) := []

/--
The node of an entry at place `i`, and the place of the owner of its line if that is another node. Such a
node is built as a read without a line and linked once all nodes exist.
-/
def buildEntry (resolve : Origin → Option Capability) (count i : Nat) (e : NodeRecord) :
    Except RecordError (Node × Option Nat) := do
  let node ← (Node.build resolve ⟨e.pkg, e.name⟩).mapError .build
  if e.delayWrite = 0 then pure (node, none)
  else
    let writer := e.delayWrite.toNat - 1
    if count ≤ writer then throw (.delayIndex i e.delayWrite count)
    else if !node.isDelay then throw (.notADelayWrite i writer)
    else if writer = i then pure (node, none)
    else pure ({ Node.delayRead default with delay := none }, some writer)

/-- Add the node of an entry. -/
def addEntry (resolve : Origin → Option Capability) (count : Nat) (d : Draft) (e : NodeRecord × Nat) :
    Except RecordError Draft := do
  let (node, writer?) ← buildEntry resolve count e.2 e.1
  let (n, graph) ← (d.graph.addNode node).mapError .graph
  pure { graph, ids := d.ids ++ [n], reads := d.reads ++ (writer?.map (e.2, ·)).toList }

/-- Link a delay read to the owner of its line. -/
def linkRead (ids : List NodeId) (g : Graph) (link : Nat × Nat) : Except RecordError Graph :=
  match ids[link.1]?, ids[link.2]? with
  | some reader, some writer =>
    (g.linkDelayRead reader writer).mapError fun _ => .notADelayWrite link.1 link.2
  | _, _ => .error (.notADelayWrite link.1 link.2)

/-- The node at a place of the table. -/
def nodeAt (ids : List NodeId) (index : UInt32) : Except RecordError NodeId :=
  match ids[index.toNat]? with
  | some n => .ok n
  | none => .error (.nodeIndex index ids.length)

/-- Succeed if a node has a port. -/
def expectPort (g : Graph) (n : NodeId) (node : UInt32) (d : Direction) (index : UInt32) :
    Except RecordError Unit :=
  let count := match g.node? n, d with
    | some node, .input => node.inputs.length
    | some node, .output => node.outputs.length
    | none, _ => 0
  if count ≤ index.toNat then .error (.portIndex node d index count) else .ok ()

/-- Make a connection of the table. -/
def addConnection (ids : List NodeId) (g : Graph) (c : ConnectionRecord) : Except RecordError Graph := do
  let src ← nodeAt ids c.srcNode
  let dst ← nodeAt ids c.dstNode
  expectPort g src c.srcNode .output c.srcPort
  expectPort g dst c.dstNode .input c.dstPort
  let (_, g) ← (g.connect ⟨src, c.srcPort.toNat⟩ ⟨dst, c.dstPort.toNat⟩).mapError .graph
  pure g

/-- The graph of a record, with nodes built from what `resolve` knows. -/
def toGraph (r : GraphRecord) (resolve : Origin → Option Capability) : Except RecordError Graph := do
  let draft ← r.nodes.zipIdx.foldlM (addEntry resolve r.nodes.length) { graph := .empty r.name }
  let g ← draft.reads.foldlM (linkRead draft.ids) draft.graph
  let g ← r.connections.foldlM (addConnection draft.ids) g
  g.checkInvariants.mapError .graph
  pure g

end GraphRecord

end SignalGraph
