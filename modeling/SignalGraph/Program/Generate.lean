import SignalGraph.Arrangement.Basic
import SignalGraph.Builtin
import SignalGraph.Program.Basic
import SignalGraph.Program.Identifier

/-!
# Generating programs

The nodes of an arrangement are turned into statements in the order in which it lists them. Terminals and
numbers need no statement: they are parameters, results and literals. A delay read that comes before the write
of its line sees what the invocation before has written, one that comes after sees the new value.
-/

namespace SignalGraph

/-- The signal of a number node. -/
def Node.signal? (n : Node) : Option FloatValue := n.constantValue?.bind FloatFormat.binary32.ofFloat?

/-- Whether a statement is written for a node. -/
def Node.isComputed (n : Node) : Bool := !n.isConstant && !n.isTerminal

/-- Whether a node has a field of its own. Delay reads share the one of the node that owns their line. -/
def Node.hasField (n : Node) : Bool := n.stateful && !n.isDelayRead

/-- Whether a node calls a function. -/
def Node.isFunction (n : Node) : Bool := !n.isDelay && !n.isOperator && !n.stateful

namespace Program

/-! ## Before the first statement -/

/-- The module names of packages, each settled when the package is first met. -/
def aliases (pkgs : List String) : Table String String :=
  pkgs.foldl (fun t pkg =>
    if t.contains pkg then t else t.set pkg (Identifier.moduleAlias t.values pkg)) ∅

/--
The packages that listed nodes use. The standard library comes first if anything keeps state, for it has the
configuration. A function without a package comes last.
-/
def packages (listed computed : List Node) : List String :=
  (if listed.any (·.stateful) then [standardPackage] else []) ++
    ((computed.filter fun n => !n.origin.isBuiltin).map (·.origin.pkg)) ++
    (if computed.any fun n => n.origin.isBuiltin && n.isFunction then [""] else [])

/-- The fields of listed nodes, each numbered by those before it. -/
def fieldsOf (computed : List (NodeId × Node)) : Table NodeId Field :=
  (computed.filter (·.2.hasField)).foldl (fun t (n, node) =>
    t.set n ⟨Identifier.ofText node.name "node" ++ "_" ++ toString t.size, node.origin⟩) ∅

/-- The nodes of some identities, all of which must be in the graph. -/
def lookUp (g : Graph) (ns : List NodeId) : Except GenerateError (List (NodeId × Node)) :=
  ns.mapM fun n => match g.node? n with
    | some node => .ok (n, node)
    | none => .error (.missingNode n)

/-- What the outputs of terminals and numbers are bound to. -/
def startBindings (inputs : List NodeId) (params : List String) (listed : List (NodeId × Node)) :
    Table OutPort Operand :=
  .ofList <|
    (inputs.zip params).map (fun (n, name) => (⟨n, 0⟩, .param name)) ++
      listed.filterMap fun (n, node) => node.signal?.map fun v => (⟨n, 0⟩, .literal v)

/-! ## Statements -/

/-- A program while its statements are written. -/
structure Draft where
  /-- What stands for the outputs computed so far. -/
  bindings : Table OutPort Operand
  /-- The delay nodes that have been written. -/
  written : List NodeId := []
  /-- The number of the next variable. -/
  nextVar : Nat := 0
  /-- The statements so far. -/
  body : List Statement := []

namespace Draft

/-- What stands for an input: whatever its source is bound to, or zero without a source. -/
def operand (d : Draft) (g : Graph) (dst : InPort) : Except GenerateError Operand :=
  match g.sourceOf? dst with
  | none => .ok .zero
  | some src => match d.bindings.get? src with
    | some o => .ok o
    | none => .error (.unbound src)

/-- What stands for the inputs of a node. -/
def operands (d : Draft) (g : Graph) (n : NodeId) (node : Node) : Except GenerateError (List Operand) :=
  (List.range node.inputs.length).mapM fun i => d.operand g ⟨n, i⟩

/-- Bind an output to the next variable, if anything reads it. -/
def bindOutput (d : Draft) (g : Graph) (port : OutPort) : Option Nat × Draft :=
  if (g.consumersOf port).isEmpty then (none, d)
  else (some d.nextVar, { d with
    bindings := d.bindings.set port (.var d.nextVar)
    nextVar := d.nextVar + 1 })

/-- Bind the outputs of a node, in order. -/
def bindOutputs (d : Draft) (g : Graph) (n : NodeId) (node : Node) : List (Option Nat) × Draft :=
  (List.range node.outputs.length).foldl (fun (results, d) i =>
    let (result, d) := d.bindOutput g ⟨n, i⟩
    (results ++ [result], d)) ([], d)

def write (d : Draft) (statements : List Statement) : Draft := { d with body := d.body ++ statements }

/-- The name of the field of a node, or of the delay line that it reads. -/
def fieldName (g : Graph) (fields : Table NodeId Field) (n : NodeId) : Except GenerateError String :=
  let owner := (g.delayWriteOf? n).getD n
  match fields.get? owner with
  | some f => .ok f.name
  | none => .error (.missingNode owner)

/-- Write a delay line, and look into it if anything reads the output. -/
def emitDelayWrite (d : Draft) (g : Graph) (field : String) (args : List Operand) (n : NodeId)
    (node : Node) : Except GenerateError Draft :=
  match args with
  | time :: value :: _ =>
    let (results, d) := { d with written := d.written ++ [n] }.bindOutputs g n node
    let look := if results.any (·.isSome) then [.call (results.take 1) (.read field [time])] else []
    .ok (d.write (.write field value :: look))
  | _ => .error (.missingPort n)

def emitDelayRead (d : Draft) (g : Graph) (field : String) (args : List Operand) (writer n : NodeId)
    (node : Node) : Except GenerateError Draft :=
  let call := if writer ∈ d.written then Call.read field args else Call.feedbackRead field args
  match d.bindOutputs g n node with
  | ([], _) => .error (.missingPort n)
  | (result :: _, d) => .ok (d.write [.call [result] call])

/-- The call of a node that has no part in a delay line. -/
def callOf (g : Graph) (fields : Table NodeId Field) (args : List Operand) (n : NodeId) (node : Node) :
    Except GenerateError Call :=
  if node.isOperator then
    match args with
    | left :: right :: _ => .ok (.operator node.name left right)
    | _ => .error (.missingPort n)
  else if node.stateful then (fieldName g fields n).map (.process · args)
  else .ok (.function node.origin args)

/-- Write the statements of a node. -/
def emit (g : Graph) (fields : Table NodeId Field) (d : Draft) (entry : NodeId × Node) :
    Except GenerateError Draft := do
  let (n, node) := entry
  let args ← d.operands g n node
  match node.delay with
  | some .write =>
    let field ← fieldName g fields n
    d.emitDelayWrite g field args n node
  | some (.read writer) =>
    let field ← fieldName g fields n
    d.emitDelayRead g field args writer n node
  | none =>
    let call ← callOf g fields args n node
    let (results, d) := d.bindOutputs g n node
    pure (d.write [.call results call])

end Draft

end Program

/-! ## The program of a graph -/

/-- The program of a graph, with the nodes in the order of an arrangement. -/
def Graph.program (g : Graph) (a : Arrangement) : Except GenerateError Program := do
  let inputs ← Program.lookUp g g.inPorts
  let listed ← Program.lookUp g a.nodes
  let computed := listed.filter (·.2.isComputed)
  let params := Identifier.parameters (inputs.map fun (_, node) => node.terminalName?.getD "")
  let fields := Program.fieldsOf computed
  let draft ← computed.foldlM (Program.Draft.emit g fields)
    { bindings := Program.startBindings g.inPorts params listed }
  let results ← g.outPorts.mapM fun n => draft.operand g ⟨n, 0⟩
  pure {
    name := g.name
    imports := Program.aliases (Program.packages (listed.map (·.2)) (computed.map (·.2)))
    params
    fields
    body := draft.body
    results }

end SignalGraph
