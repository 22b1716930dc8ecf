import SignalGraph.Node
import SignalGraph.Table
import SignalGraph.Text.CaseMap

/-!
# Graphs

A graph keeps its nodes and connections in tables, and its nodes besides in three sequences: the input
terminals in parameter order, the output terminals in result order, and the body between them. This module
holds the type and what can be read off a graph; `Graph.Edit` changes it.
-/

namespace SignalGraph

/-- A graph of nodes and connections. -/
structure Graph where
  /-- The name, from which files and generated items take theirs. -/
  name : String
  /-- All nodes, in the order in which they were added. -/
  arena : Table NodeId Node := ∅
  /-- The input terminals, in parameter order. -/
  inPorts : List NodeId := []
  /-- The nodes that are no terminals. -/
  body : List NodeId := []
  /-- The output terminals, in result order. -/
  outPorts : List NodeId := []
  /-- All connections, in the order in which they were made. -/
  connections : Table ConnectionId Connection := ∅
  /-- The number of the next node. -/
  nextNode : UInt32 := 0
  /-- The number of the next connection. -/
  nextConnection : UInt32 := 0
deriving DecidableEq

namespace Graph

def empty (name : String) : Graph := { name }

instance : Inhabited Graph := ⟨empty ""⟩

/-- The name of the file that keeps a graph of this name. -/
def fileNameOf (name : String) : String := Text.lowercase name ++ ".dsp"

/-- The name of the file that keeps the graph. -/
def fileName (g : Graph) : String := fileNameOf g.name

/-- The name of the file that holds the source generated for the graph. -/
def sourceFileName (g : Graph) : String := Text.lowercase g.name ++ ".rs"

/-- Whether the graph has no node. -/
def isEmpty (g : Graph) : Bool := g.arena.isEmpty

def node? (g : Graph) (n : NodeId) : Option Node := g.arena.get? n

def connection? (g : Graph) (c : ConnectionId) : Option Connection := g.connections.get? c

/-- Input terminals, body, output terminals. -/
def allNodes (g : Graph) : List NodeId := g.inPorts ++ g.body ++ g.outPorts

/-- The sequence of the terminals of a direction. -/
def terminals (g : Graph) : Direction → List NodeId
  | .input => g.inPorts
  | .output => g.outPorts

/-- The port that feeds an input port. -/
def sourceOf? (g : Graph) (dst : InPort) : Option OutPort :=
  (g.node? dst.node).bind fun n => n.inputs[dst.index]?.bind fun p =>
    p.connections.head?.bind fun c => (g.connection? c).map (·.src)

/-- The input ports that an output port feeds, oldest connection first. -/
def consumersOf (g : Graph) (src : OutPort) : List InPort :=
  match (g.node? src.node).bind (·.outputs[src.index]?) with
  | some p => p.connections.filterMap fun c => (g.connection? c).map (·.dst)
  | none => []

/-- The nodes that feed a node, once for each connection, in port order. -/
def predecessors (g : Graph) (n : NodeId) : List NodeId :=
  match g.node? n with
  | some node => (node.inputs.flatMap (·.connections)).filterMap fun c =>
      (g.connection? c).map (·.src.node)
  | none => []

/-- The nodes that a node feeds, once for each connection, in port order. -/
def successors (g : Graph) (n : NodeId) : List NodeId :=
  match g.node? n with
  | some node => (node.outputs.flatMap (·.connections)).filterMap fun c =>
      (g.connection? c).map (·.dst.node)
  | none => []

/-- The node that owns the delay line of a delay node. -/
def delayWriteOf? (g : Graph) (n : NodeId) : Option NodeId :=
  (g.node? n).bind fun node => node.delay.map fun
    | .write => n
    | .read writer => writer

/-- The nodes that read the delay line of `writer`. -/
def delayReadsOf (g : Graph) (writer : NodeId) : List NodeId :=
  g.allNodes.filter fun n => (g.node? n).any fun node => node.delay == some (.read writer)

/-! ## Reachability -/

/--
Whether `target` is on the stack or feeds, over any number of connections, a node that is. Only nodes still
in `unvisited` are expanded, so each node is expanded at most once.
-/
def feedsAny (g : Graph) (target : NodeId) (unvisited stack : List NodeId) : Bool :=
  match stack with
  | [] => false
  | n :: stack =>
    if n = target then true
    else if n ∈ unvisited then feedsAny g target (unvisited.erase n) (g.predecessors n ++ stack)
    else feedsAny g target unvisited stack
-- What is on the stack, and what expanding the nodes still unvisited can put there.
termination_by (unvisited.flatMap g.predecessors).length + stack.length
decreasing_by
  · rename_i h
    have hsplit := ((List.perm_cons_erase h).flatMap_right g.predecessors).length_eq
    rw [List.flatMap_cons, List.length_append] at hsplit
    rw [hsplit, List.length_append, List.length_cons]
    omega
  · exact Nat.lt_succ_self _

/-- Whether `a` is `b`, or signals of `a` reach `b`. -/
def isOrPrecedes (g : Graph) (a b : NodeId) : Bool := g.feedsAny a g.arena.keys [b]

end Graph

end SignalGraph
