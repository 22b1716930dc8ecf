import SignalGraph.Decimal.Binary
import SignalGraph.Port
import SignalGraph.Text.Affix

/-!
# Nodes

What a node is follows from its origin: a name without a package is a built-in (an operator, a terminal of
the graph, or a number), a name in a package is something that the package provides. Terminals stand for the
parameters and results of the graph. A delay is a pair of roles on one delay line: the writing node owns the
line, and any number of reading nodes refer to it.
-/

namespace SignalGraph

/-- The name of something a node can do, with the package that provides it. -/
structure Origin where
  /-- The path of the package, empty for what is built in. -/
  pkg : String
  /-- The name within the package. -/
  name : String
deriving DecidableEq

namespace Origin

def isBuiltin (o : Origin) : Bool := o.pkg == ""

/-- The full name, for messages, drawings and listings. -/
def label (o : Origin) : String := if o.isBuiltin then o.name else o.pkg ++ "::" ++ o.name

/-- The order by package and then by name. -/
def le (a b : Origin) : Bool :=
  match compare a.pkg b.pkg with
  | .lt => true
  | .gt => false
  | .eq => compare a.name b.name != .gt

end Origin

/-- What marks the name of a terminal of each direction. -/
def terminalMark : Direction → String
  | .input => "in-"
  | .output => "out-"

/-- The binary operators that are built in. -/
def operators : List String := ["+", "-", "*", "/"]

/-- The part that a node plays on a delay line. -/
inductive DelayLink where
  /-- The node owns the line and writes it. -/
  | write
  /-- The node reads the line that `writer` owns. -/
  | read (writer : NodeId)
deriving DecidableEq

/-- A node with its ports. -/
structure Node where
  /-- What the node does. -/
  origin : Origin
  /-- Whether the node keeps state from one invocation to the next. -/
  stateful : Bool := false
  /-- The input ports. -/
  inputs : List Port
  /-- The output ports. -/
  outputs : List Port
  /-- The part in a delay line, if it has one. -/
  delay : Option DelayLink := none
deriving DecidableEq

namespace Node

/-- A stateless node with unconnected ports of the given names. -/
def ofNames (origin : Origin) (inputs outputs : List String) : Node where
  origin := origin
  inputs := inputs.map ({ name := · })
  outputs := outputs.map ({ name := · })

def name (n : Node) : String := n.origin.name

/-- Whether the name has the mark of a terminal of this direction and no package. -/
def isTerminalOf (n : Node) (d : Direction) : Bool :=
  n.origin.isBuiltin && Text.startsWith (terminalMark d) n.origin.name

/-- Whether the node stands for a parameter of the graph. -/
def isInputTerminal (n : Node) : Bool := n.isTerminalOf .input

/-- Whether the node stands for a result of the graph. -/
def isOutputTerminal (n : Node) : Bool := n.isTerminalOf .output

/-- Whether the node stands for a parameter or a result. -/
def isTerminal (n : Node) : Bool := n.isInputTerminal || n.isOutputTerminal

/-- The name of the parameter or result that a terminal stands for. -/
def terminalName? (n : Node) : Option String :=
  if n.origin.isBuiltin then
    Text.stripPrefix? (terminalMark .input) n.origin.name <|>
      Text.stripPrefix? (terminalMark .output) n.origin.name
  else none

/-- Whether the node writes or reads a delay line. -/
def isDelay (n : Node) : Bool := n.delay.isSome

/-- Whether the node owns a delay line. -/
def isDelayWrite (n : Node) : Bool := n.delay == some .write

/-- Whether the node reads a delay line that another node owns. -/
def isDelayRead (n : Node) : Bool := n.isDelay && !n.isDelayWrite

/-- Whether the node is a binary operator. -/
def isOperator (n : Node) : Bool := n.origin.isBuiltin && operators.contains n.origin.name

/--
The number that a text denotes, in the 64-bit format. A number that is too great for the 32 bits of a signal
denotes nothing.
-/
def parseConstant? (text : String) : Option FloatValue :=
  (Decimal.read? text.toList).bind fun d =>
    (FloatFormat.binary64.ofDecimal? d).filter fun v => (FloatFormat.binary32.ofFloat? v).isSome

/-- The value of a number node. -/
def constantValue? (n : Node) : Option FloatValue :=
  if n.origin.isBuiltin then parseConstant? n.origin.name else none

/-- Whether the node is a number. -/
def isConstant (n : Node) : Bool := n.constantValue?.isSome

/-- Change the input port at an index. -/
def modifyInput (n : Node) (i : Nat) (f : Port → Port) : Node := { n with inputs := n.inputs.modify i f }

/-- Change the output port at an index. -/
def modifyOutput (n : Node) (i : Nat) (f : Port → Port) : Node :=
  { n with outputs := n.outputs.modify i f }

end Node

end SignalGraph
