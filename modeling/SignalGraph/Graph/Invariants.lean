import SignalGraph.Graph.Edit

/-!
# Checking a graph

A graph is well formed when its tables and port lists agree, every delay read has a line to read, terminals
have their one port, and no signal runs in a circle. The check reports the first fault.
-/

namespace SignalGraph

/-- Counters of the signals that nodes still wait for, while a graph is visited in dependency order. -/
structure Visit where
  /-- The count of each node. -/
  waiting : Table NodeId Int
  /-- The nodes that wait for nothing. -/
  ready : List NodeId
  /-- How many nodes were visited. -/
  visited : Nat := 0

namespace Visit

/-- Count one signal off a node. A node that waited for this one only becomes ready. -/
def release (v : Visit) (n : NodeId) : Visit :=
  match v.waiting.get? n with
  | none => v
  | some d =>
    { v with
      waiting := v.waiting.set n (d - 1)
      ready := if d - 1 = 0 then n :: v.ready else v.ready }

/-- Visit ready nodes until there are none, at most `fuel` of them. -/
def run (successors : NodeId → List NodeId) : Nat → Visit → Visit
  | 0, v => v
  | fuel + 1, v => match v.ready with
    | [] => v
    | n :: ready =>
      run successors fuel
        ((successors n).foldl release { v with ready, visited := v.visited + 1 })

end Visit

namespace Graph

/-- The visit before its first step: every node waits for its predecessors. -/
def startVisit (g : Graph) : Visit :=
  let waiting := g.arena.mapValues fun n _ => ((g.predecessors n).length : Int)
  { waiting, ready := (waiting.entries.filter (·.2 = 0)).map Prod.fst }

/-- The visit of a graph in dependency order. A node becomes ready at most once, so one step each is enough. -/
def visitAll (g : Graph) : Visit := g.startVisit.run g.successors g.arena.size

/-- The first fault in the ports and the delay link of a node. -/
def nodeFault? (g : Graph) (n : NodeId) (node : Node) : Option InvariantFault :=
  let input (e : Port × Nat) : Option InvariantFault :=
    if 1 < e.1.connections.length then some (.severalSources n e.2)
    else e.1.connections.findSome? fun c =>
      if (g.connection? c).any (·.dst = ⟨n, e.2⟩) then none else some (.strayInput c n e.2)
  let output (e : Port × Nat) : Option InvariantFault :=
    e.1.connections.findSome? fun c =>
      if (g.connection? c).any (·.src = ⟨n, e.2⟩) then none else some (.strayOutput c n e.2)
  let delay : Option InvariantFault := match node.delay with
    | some (.read writer) =>
      if (g.node? writer).any Node.isDelayWrite then none else some (.missingDelayLine n writer)
    | _ => none
  node.inputs.zipIdx.findSome? input <|> node.outputs.zipIdx.findSome? output <|> delay

/-- The connections that ports list, once for each listing. -/
def registrations (g : Graph) : List ConnectionId :=
  g.arena.values.flatMap fun node => (node.inputs ++ node.outputs).flatMap (·.connections)

/-- The first fault of a graph. -/
def fault? (g : Graph) : Option InvariantFault :=
  let registered := g.registrations
  let shape (fault : NodeId → InvariantFault) (inputs outputs : Nat) (n : NodeId) :
      Option InvariantFault :=
    if (g.node? n).any fun node => node.inputs.length = inputs ∧ node.outputs.length = outputs then none
    else some (fault n)
  g.arena.entries.findSome? (fun (n, node) => g.nodeFault? n node) <|>
    (g.connections.keys.find? fun c => registered.count c ≠ 2).map .unregistered <|>
    g.inPorts.findSome? (shape .inputTerminalShape 0 1) <|>
    g.outPorts.findSome? (shape .outputTerminalShape 1 0) <|>
    (if g.visitAll.visited = g.arena.size then none else some .cycle)

/-- Succeed if the graph is well formed. -/
def checkInvariants (g : Graph) : Except GraphError Unit :=
  match g.fault? with
  | none => .ok ()
  | some fault => .error (.invariant fault)

end Graph

end SignalGraph
