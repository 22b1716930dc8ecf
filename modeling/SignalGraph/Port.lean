/-!
# Identifiers, ports and connections

A node addresses its ports by index. A port lists the connections that end or start at it, in the order in
which they were made; a connection leads from an output port to an input port.
-/

namespace SignalGraph

/-- The identity of a node, stable while its graph lives. -/
structure NodeId where
  val : UInt32
deriving DecidableEq, Inhabited

/-- The identity of a connection, stable while its graph lives. -/
structure ConnectionId where
  val : UInt32
deriving DecidableEq, Inhabited

/-- The label of a node in messages and drawings. -/
def NodeId.label (n : NodeId) : String := "n" ++ toString n.val.toNat

/-- The label of a connection in messages. -/
def ConnectionId.label (c : ConnectionId) : String := "c" ++ toString c.val.toNat

/-- The side of a node on which a port lies. -/
inductive Direction where
  | input
  | output
deriving DecidableEq

/-- The name of a direction in messages. -/
def Direction.label : Direction → String
  | input => "Input"
  | output => "Output"

/-- The address of an output port. -/
structure OutPort where
  /-- The owning node. -/
  node : NodeId
  /-- The position among the outputs of the node. -/
  index : Nat
deriving DecidableEq

/-- The address of an input port. -/
structure InPort where
  /-- The owning node. -/
  node : NodeId
  /-- The position among the inputs of the node. -/
  index : Nat
deriving DecidableEq

/--
A port as its node holds it. It has no mark of its side: the ports among the inputs of a node are its input ports, and
those among the outputs its output ports, so that no port lies on a side that is not its own.
-/
structure Port where
  /-- The name, possibly empty. -/
  name : String
  /-- The connections at the port, oldest first. -/
  connections : List ConnectionId := []
deriving DecidableEq

namespace Port

/-- Whether any connection touches the port. -/
def isConnected (p : Port) : Bool := !p.connections.isEmpty

/--
Whether a connection may be added to a port on this side, the one on which its node lists it: an input takes one
source, an output feeds many.
-/
def accepts (p : Port) : Direction → Bool
  | .input => p.connections.isEmpty
  | .output => true

/-- Add a connection at the end of the list. -/
def register (p : Port) (c : ConnectionId) : Port := { p with connections := p.connections ++ [c] }

/-- Take a connection off the list. -/
def deregister (p : Port) (c : ConnectionId) : Port :=
  { p with connections := p.connections.filter (· ≠ c) }

end Port

/-- The two ends of a connection. -/
structure Connection where
  /-- The port the signal comes from. -/
  src : OutPort
  /-- The port the signal goes to. -/
  dst : InPort
deriving DecidableEq

/-- Whether a node lies at either end. -/
def Connection.involves (c : Connection) (n : NodeId) : Bool := c.src.node == n || c.dst.node == n

end SignalGraph
