import SignalGraph.Builtin
import SignalGraph.Graph.Basic

/-!
# Editing graphs

Nodes and connections are added and removed one at a time. An edit that cannot be made names its cause and
leaves the graph as it was. Every new node and connection takes the next number, and no number is given
twice before the counter runs out.
-/

namespace SignalGraph

/-- Why a graph is malformed. -/
inductive InvariantFault where
  /-- An input port has more than one source. -/
  | severalSources (node : NodeId) (index : Nat)
  /-- An input port lists a connection that does not end there. -/
  | strayInput (connection : ConnectionId) (node : NodeId) (index : Nat)
  /-- An output port lists a connection that does not start there. -/
  | strayOutput (connection : ConnectionId) (node : NodeId) (index : Nat)
  /-- A delay read refers to a node that is no delay write. -/
  | missingDelayLine (reader writer : NodeId)
  /-- A connection is not listed at both of its ends. -/
  | unregistered (connection : ConnectionId)
  /-- An input terminal has other ports than one output. -/
  | inputTerminalShape (node : NodeId)
  /-- An output terminal has other ports than one input. -/
  | outputTerminalShape (node : NodeId)
  /-- The connections form a cycle. -/
  | cycle
deriving DecidableEq

def InvariantFault.message : InvariantFault → String
  | severalSources n i => "input " ++ toString i ++ " of " ++ n.label ++ " has several sources"
  | strayInput c n i => c.label ++ " is not incident to input " ++ toString i ++ " of " ++ n.label
  | strayOutput c n i => c.label ++ " is not incident to output " ++ toString i ++ " of " ++ n.label
  | missingDelayLine r w => r.label ++ " reads a missing delay line " ++ w.label
  | unregistered c => c.label ++ " is not registered on both endpoints"
  | inputTerminalShape n => "input terminal " ++ n.label ++ " must have exactly one output"
  | outputTerminalShape n => "output terminal " ++ n.label ++ " must have exactly one input"
  | cycle => "graph contains a cycle"

/-- Why an edit cannot be made. -/
inductive GraphError where
  /-- The node is not in the graph. -/
  | nodeNotFound (node : NodeId)
  /-- The node has no such port. -/
  | portNotFound (node : NodeId) (direction : Direction) (index : Nat)
  /-- The input port has a source already. -/
  | alreadyConnected (port : InPort)
  /-- The connection would close a cycle. -/
  | cycle (src dst : NodeId)
  /-- The node has no part in a delay line, or does not own it. -/
  | notADelay (node : NodeId)
  /-- The node is no terminal. -/
  | notATerminal (node : NodeId)
  /-- The graph is malformed. -/
  | invariant (fault : InvariantFault)
deriving DecidableEq

def GraphError.message : GraphError → String
  | nodeNotFound n => "Node not found: " ++ n.label
  | portNotFound n d i => d.label ++ " port " ++ toString i ++ " not found on " ++ n.label
  | alreadyConnected p => "Input " ++ toString p.index ++ " of " ++ p.node.label ++ " is already connected"
  | cycle a b => "Connecting " ++ a.label ++ " to " ++ b.label ++ " would create a cycle"
  | notADelay n => n.label ++ " is not a delay node"
  | notATerminal n => n.label ++ " is not a terminal"
  | invariant f => "Invariant violated: " ++ f.message

namespace Graph

/-! ## Nodes -/

/-- Put a node into the arena under the next number. -/
def allocate (g : Graph) (node : Node) : NodeId × Graph :=
  let n : NodeId := ⟨g.nextNode⟩
  (n, { g with arena := g.arena.set n node, nextNode := g.nextNode + 1 })

/-- Succeed if a node owns a delay line. -/
def expectDelayWrite (g : Graph) (writer : NodeId) : Except GraphError Unit :=
  match g.node? writer with
  | some node => if node.isDelayWrite then .ok () else .error (.notADelay writer)
  | none => .error (.nodeNotFound writer)

/-- Put a node that is in the arena at the end of the sequence that its origin asks for. -/
def enlist (g : Graph) (n : NodeId) (node : Node) : Graph :=
  if node.isInputTerminal then { g with inPorts := g.inPorts ++ [n] }
  else if node.isOutputTerminal then { g with outPorts := g.outPorts ++ [n] }
  else { g with body := g.body ++ [n] }

/-- Add a node. A delay read must refer to a delay write of the graph. -/
def addNode (g : Graph) (node : Node) : Except GraphError (NodeId × Graph) :=
  let add : NodeId × Graph :=
    let (n, g) := g.allocate node
    (n, g.enlist n node)
  match node.delay with
  | some (.read writer) => (g.expectDelayWrite writer).map fun _ => add
  | _ => .ok add

/-- Insert a terminal at a position of its sequence, or at the end if the sequence is shorter. -/
def insertTerminal (g : Graph) (d : Direction) (position : Nat) (name : String) : NodeId × Graph :=
  let (n, g) := g.allocate (.terminal d name)
  match d with
  | .input => (n, { g with inPorts := g.inPorts.insertIdx (min position g.inPorts.length) n })
  | .output => (n, { g with outPorts := g.outPorts.insertIdx (min position g.outPorts.length) n })

/-- A terminal under another name, which its port takes too. -/
def renamedTerminal? (node : Node) (name : String) : Option Node :=
  let rename (p : Port) : Port := { p with name }
  if node.isInputTerminal then
    some { node.modifyOutput 0 rename with origin.name := terminalMark .input ++ name }
  else if node.isOutputTerminal then
    some { node.modifyInput 0 rename with origin.name := terminalMark .output ++ name }
  else none

/-- Rename a terminal. Its place and its connections stay. -/
def renameTerminal (g : Graph) (n : NodeId) (name : String) : Except GraphError Graph :=
  match g.node? n with
  | none => .error (.nodeNotFound n)
  | some node => match renamedTerminal? node name with
    | none => .error (.notATerminal n)
    | some node => .ok { g with arena := g.arena.set n node }

/-- Add a node that reads the delay line of a delay node. -/
def addDelayRead (g : Graph) (n : NodeId) : Except GraphError (NodeId × Graph) :=
  match g.delayWriteOf? n with
  | none => .error (.notADelay n)
  | some writer => g.addNode (.delayRead writer)

/-- Make a node of the graph read the delay line of `writer`. -/
def linkDelayRead (g : Graph) (reader writer : NodeId) : Except GraphError Graph :=
  (g.expectDelayWrite writer).bind fun _ =>
    if g.arena.contains reader then
      .ok { g with arena := g.arena.modify reader fun node => { node with delay := some (.read writer) } }
    else .error (.nodeNotFound reader)

/-! ## Connections -/

/--
Connect an output port to an input port. Both must exist, the input must be free, and no signal may run from
the destination back to the source.
-/
def connect (g : Graph) (src : OutPort) (dst : InPort) : Except GraphError (ConnectionId × Graph) :=
  match g.node? src.node with
  | none => .error (.nodeNotFound src.node)
  | some source =>
    if source.outputs.length ≤ src.index then .error (.portNotFound src.node .output src.index)
    else match g.node? dst.node with
      | none => .error (.nodeNotFound dst.node)
      | some target => match target.inputs[dst.index]? with
        | none => .error (.portNotFound dst.node .input dst.index)
        | some port =>
          if !port.accepts .input then .error (.alreadyConnected dst)
          else if g.isOrPrecedes dst.node src.node then .error (.cycle src.node dst.node)
          else
            let c : ConnectionId := ⟨g.nextConnection⟩
            let arena := (g.arena.modify src.node (·.modifyOutput src.index (·.register c))).modify
              dst.node (·.modifyInput dst.index (·.register c))
            .ok (c, { g with
              arena, connections := g.connections.set c ⟨src, dst⟩
              nextConnection := g.nextConnection + 1 })

/-- The graph without a connection, which is taken off the lists of both of its ends. -/
def dropConnection (g : Graph) (c : ConnectionId) (ends : Connection) : Graph :=
  { g with
    connections := g.connections.erase c
    arena := (g.arena.modify ends.src.node (·.modifyOutput ends.src.index (·.deregister c))).modify
      ends.dst.node (·.modifyInput ends.dst.index (·.deregister c)) }

/-- Remove a connection, and give back what it connected. -/
def disconnect (g : Graph) (c : ConnectionId) : Option (Connection × Graph) :=
  (g.connection? c).map fun ends => (ends, g.dropConnection c ends)

/-- Remove every connection of a node. -/
def isolate (g : Graph) (n : NodeId) : Graph :=
  (g.connections.entries.filter (·.2.involves n)).foldl (fun g (c, ends) => g.dropConnection c ends) g

/-! ## Removal -/

/-- Remove one node with its connections, and give it back without them. -/
def removeOne (g : Graph) (n : NodeId) : Option (Node × Graph) :=
  let isolated := g.isolate n
  (isolated.node? n).map fun node =>
    (node, { isolated with
      arena := isolated.arena.erase n
      inPorts := isolated.inPorts.filter (· ≠ n)
      body := isolated.body.filter (· ≠ n)
      outPorts := isolated.outPorts.filter (· ≠ n) })

/-- The graph without a node, or the graph itself if the node is absent. -/
def discard (g : Graph) (n : NodeId) : Graph := ((g.removeOne n).map Prod.snd).getD g

/--
Remove a node with its connections and give it back. With the owner of a delay line go the nodes that
read the line.
-/
def removeNode (g : Graph) (n : NodeId) : Option (Node × Graph) :=
  (g.removeOne n).map fun (node, g) =>
    (node, if node.isDelayWrite then (g.delayReadsOf n).foldl discard g else g)

end Graph

end SignalGraph
