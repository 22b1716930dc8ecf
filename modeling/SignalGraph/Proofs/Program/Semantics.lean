import Mathlib.Algebra.Ring.Int.Defs
import Mathlib.Logic.Function.Basic
import SignalGraph.Program.Printer

/-!
# What programs and graphs compute

A program is run on a machine that knows signals and fields by name only. A graph is evaluated without names:
signals belong to output ports, and what is kept from one invocation to the next belongs to nodes. Both give
meaning to operators, functions and methods through one `Interpretation`, which is left open.

A run fails where the program text would not be accepted or would have no value: a name without a value, a
field that is not declared, a module that is not imported.
-/

namespace SignalGraph

/-- The methods of what stateful nodes keep. -/
inductive Method where
  /-- The processing step. -/
  | process
  /-- Put a signal into a delay line. -/
  | write
  /-- Look into a delay line that was written in the same invocation. -/
  | read
  /-- Look into a delay line that was last written in the invocation before. -/
  | feedbackRead
deriving DecidableEq

/-- A meaning for everything that a program calls; `V` are the signals, `S` is what a field holds. -/
structure Interpretation (V S : Type) where
  /-- The signal of a number. -/
  literal : FloatValue → V
  /-- The result of an operator. -/
  operator : String → V → V → V
  /-- The results of a function, by position. -/
  function : Origin → List V → Nat → V
  /-- The results of a method of a kind, by position, and what the field holds afterwards. -/
  method : Origin → Method → S → List V → (Nat → V) × S

/-- Whole numbers as signals; a field holds the last signal that was put into it. -/
def lastWritten : Interpretation Int Int where
  literal _ := 0
  operator _ l r := l + r
  function _ args _ := args.sum
  method _ m held args := match m, args with
    | .write, v :: _ => (fun _ => v, v)
    | _, _ => (fun _ => held, held)

/-- Whole numbers as signals; a field holds a number and counts how often it was looked into. -/
def lookCounting : Interpretation Int Int where
  literal _ := 0
  operator _ l r := l + r
  function _ args _ := args.sum
  method _ m held _ := match m with
    | .read | .feedbackRead => (fun _ => held, held + 1)
    | _ => (fun _ => held, held)

variable {V S : Type}

/-! ## Running a program -/

/-- What is known by name. -/
structure Machine (V S : Type) where
  values : String → Option V
  fields : String → S

def Operand.value? (I : Interpretation V S) (values : String → Option V) : Operand → Option V
  | param name => values name
  | var k => values (Identifier.variableName k)
  | literal v => some (I.literal v)

namespace Machine

/-- Bind a result to a variable, or drop it. -/
def bindResult (m : Machine V S) (outs : Nat → V) (e : Option Nat × Nat) : Machine V S :=
  match e.1 with
  | none => m
  | some k => { m with values := Function.update m.values (Identifier.variableName k) (some (outs e.2)) }

/-- Bind the results of a call by position. -/
def bindResults (m : Machine V S) (results : List (Option Nat)) (outs : Nat → V) : Machine V S :=
  results.zipIdx.foldl (fun m e => m.bindResult outs e) m

end Machine

namespace Program

/-- The function that a call names, through the import of the module printed in front of it. -/
def callee? (imports : Table String String) (origin : Origin) : Option Origin :=
  (imports.entries.find? (·.2 == moduleOf imports origin.pkg)).map fun e => ⟨e.1, origin.name⟩

/-- The kind of a declared field. -/
def kindOf? (fields : Table NodeId Field) (name : String) : Option Origin :=
  (fields.values.find? (·.name == name)).map (·.origin)

/-- Call a method of a field. -/
def callMethod? (I : Interpretation V S) (p : Program) (field : String) (method : Method) (args : List V)
    (m : Machine V S) : Option ((Nat → V) × Machine V S) :=
  (kindOf? p.fields field).map fun kind =>
    let out := I.method kind method (m.fields field) args
    (out.1, { m with fields := Function.update m.fields field out.2 })

def values? (I : Interpretation V S) (m : Machine V S) (args : List Operand) : Option (List V) :=
  args.mapM (·.value? I m.values)

def call? (I : Interpretation V S) (p : Program) (m : Machine V S) :
    Call → Option ((Nat → V) × Machine V S)
  | .operator op left right =>
    (left.value? I m.values).bind fun l => (right.value? I m.values).map fun r => (fun _ => I.operator op l r, m)
  | .function origin args =>
    (callee? p.imports origin).bind fun f => (values? I m args).map fun vs => (I.function f vs, m)
  | .process field args => (values? I m args).bind fun vs => callMethod? I p field .process vs m
  | .read field args => (values? I m args).bind fun vs => callMethod? I p field .read vs m
  | .feedbackRead field args => (values? I m args).bind fun vs => callMethod? I p field .feedbackRead vs m

def step? (I : Interpretation V S) (p : Program) (m : Machine V S) : Statement → Option (Machine V S)
  | .write field value =>
    (value.value? I m.values).bind fun v => (callMethod? I p field .write [v] m).map Prod.snd
  | .call results call => (call? I p m call).map fun out => out.2.bindResults results out.1

def exec? (I : Interpretation V S) (p : Program) (m : Machine V S) (statements : List Statement) :
    Option (Machine V S) :=
  statements.foldlM (step? I p) m

/-- One invocation: the results, and what the fields hold afterwards. -/
def run? (I : Interpretation V S) (p : Program) (args : List V) (fields : String → S) :
    Option (List V × (String → S)) :=
  if args.length = p.params.length then
    (exec? I p ⟨fun name => (p.params.zip args).lookup name, fields⟩ p.body).bind fun m =>
      (values? I m p.results).map fun results => (results, m.fields)
  else none

/-- Invocations one after the other, each with the fields that the one before leaves. -/
def runAll? (I : Interpretation V S) (p : Program) : List (List V) → (String → S) → Option (List (List V))
  | [], _ => some []
  | args :: rest, fields =>
    (p.run? I args fields).bind fun out => (runAll? I p rest out.2).map (out.1 :: ·)

/-- Each field holds what its node keeps. -/
def Holds (p : Program) (fields : String → S) (kept : NodeId → S) : Prop :=
  ∀ n f, p.fields.get? n = some f → fields f.name = kept n

end Program

/-! ## Evaluating a graph -/

/-- The signal of an unconnected input, 0.0. -/
def zeroSignal : FloatValue := ⟨false, 0, FloatFormat.binary32.minExponent⟩

/-- An evaluation in progress. -/
structure Evaluation (V S : Type) where
  /-- The signals at the outputs that have one. -/
  outputs : OutPort → Option V
  /-- What stateful nodes keep. -/
  kept : NodeId → S
  /-- The delay lines that were written. -/
  written : List NodeId := []

namespace Evaluation

/-- Put signals at the first `count` outputs of a node. -/
def emit (e : Evaluation V S) (n : NodeId) (count : Nat) (outs : Nat → V) : Evaluation V S :=
  { e with outputs := fun p => if p.node = n ∧ p.index < count then some (outs p.index) else e.outputs p }

/-- Keep something for the next invocation. -/
def keep (e : Evaluation V S) (n : NodeId) (s : S) : Evaluation V S :=
  { e with kept := Function.update e.kept n s }

/-- Note that a delay line was written. -/
def markWritten (e : Evaluation V S) (n : NodeId) : Evaluation V S := { e with written := e.written ++ [n] }

/-- Call a method of what a node keeps. -/
def callMethod (I : Interpretation V S) (e : Evaluation V S) (kind : Origin) (n : NodeId) (method : Method)
    (args : List V) : (Nat → V) × Evaluation V S :=
  let out := I.method kind method (e.kept n) args
  (out.1, e.keep n out.2)

end Evaluation

namespace Graph

/-- The signal at an input: the one at its source, or zero without a source. -/
def input? (g : Graph) (I : Interpretation V S) (e : Evaluation V S) (dst : InPort) : Option V :=
  match g.sourceOf? dst with
  | none => some (I.literal zeroSignal)
  | some src => e.outputs src

/-- The signals at the inputs of a node, in port order. -/
def inputs? (g : Graph) (I : Interpretation V S) (e : Evaluation V S) (n : NodeId) (node : Node) :
    Option (List V) :=
  (List.range node.inputs.length).mapM fun i => g.input? I e ⟨n, i⟩

/-- Whether any output of a node is read. -/
def isConsumed (g : Graph) (n : NodeId) (node : Node) : Bool :=
  (List.range node.outputs.length).any fun i => !(g.consumersOf ⟨n, i⟩).isEmpty

/-- Write a delay line, and look into it if the output is read. -/
def evaluateWrite (g : Graph) (I : Interpretation V S) (e : Evaluation V S) (n : NodeId) (node : Node)
    (time value : V) : Evaluation V S :=
  let e := (e.callMethod I node.origin n .write [value]).2.markWritten n
  if g.isConsumed n node then
    let out := e.callMethod I node.origin n .read [time]
    out.2.emit n node.outputs.length out.1
  else e

/-- Look into the delay line of `writer`, as it is if it has been written, and from before if it has not. -/
def evaluateRead (I : Interpretation V S) (e : Evaluation V S) (writer n : NodeId) (node : Node)
    (args : List V) : Evaluation V S :=
  let method := if writer ∈ e.written then Method.read else Method.feedbackRead
  let out := e.callMethod I node.origin writer method args
  out.2.emit n node.outputs.length out.1

/-- Invoke a node that has no part in a delay line. -/
def evaluatePlain? (I : Interpretation V S) (e : Evaluation V S) (n : NodeId) (node : Node) (args : List V) :
    Option (Evaluation V S) :=
  if node.isOperator then
    match args with
    | l :: r :: _ => some (e.emit n node.outputs.length fun _ => I.operator node.name l r)
    | _ => none
  else if node.stateful then
    let out := e.callMethod I node.origin n .process args
    some (out.2.emit n node.outputs.length out.1)
  else some (e.emit n node.outputs.length (I.function node.origin args))

/-- Invoke a node once, with the signals at its inputs. -/
def evaluateNode? (g : Graph) (I : Interpretation V S) (e : Evaluation V S) (entry : NodeId × Node) :
    Option (Evaluation V S) :=
  (g.inputs? I e entry.1 entry.2).bind fun args =>
    match entry.2.delay with
    | some .write => match args with
      | time :: value :: _ => some (g.evaluateWrite I e entry.1 entry.2 time value)
      | _ => none
    | some (.read writer) => some (evaluateRead I e writer entry.1 entry.2 args)
    | none => evaluatePlain? I e entry.1 entry.2 args

/--
The evaluation before any node is invoked: an input terminal has the value of its parameter, a number the
signal that it denotes.
-/
def startEvaluation (g : Graph) (I : Interpretation V S) (args : List V) (kept : NodeId → S) :
    Evaluation V S where
  outputs := fun p =>
    if p.index = 0 then
      match (g.inPorts.zip args).lookup p.node with
      | some v => some v
      | none => (g.node? p.node).bind fun node => node.signal?.map I.literal
    else none
  kept := kept

/-- The nodes of some identities that are neither terminals nor numbers. -/
def computed (g : Graph) (order : List NodeId) : List (NodeId × Node) :=
  (order.filterMap fun n => (g.node? n).map (n, ·)).filter (·.2.isComputed)

/-- One invocation, in one pass: the results in the order of the output terminals, and what is kept afterwards. -/
def evaluate? (g : Graph) (I : Interpretation V S) (order : List NodeId) (args : List V) (kept : NodeId → S) :
    Option (List V × (NodeId → S)) :=
  ((g.computed order).foldlM (g.evaluateNode? I) (g.startEvaluation I args kept)).bind fun e =>
    (g.outPorts.mapM fun n => g.input? I e ⟨n, 0⟩).map fun results => (results, e.kept)

theorem mem_computed {g : Graph} {order : List NodeId} {n : NodeId} {node : Node} :
    (n, node) ∈ g.computed order ↔ n ∈ order ∧ g.node? n = some node ∧ node.isComputed = true := by
  unfold computed
  rw [List.mem_filter, List.mem_filterMap]
  constructor
  · rintro ⟨⟨m, hm, hnode⟩, hcomp⟩
    obtain ⟨found, hfound, heq⟩ := Option.map_eq_some_iff.mp hnode
    injection heq with h₁ h₂
    subst h₁ h₂
    exact ⟨hm, hfound, hcomp⟩
  · rintro ⟨hn, hnode, hcomp⟩
    exact ⟨⟨n, hn, by rw [hnode]; rfl⟩, hcomp⟩

theorem computed_append (g : Graph) (order order' : List NodeId) :
    g.computed (order ++ order') = g.computed order ++ g.computed order' := by
  unfold computed
  rw [List.filterMap_append, List.filter_append]

theorem computed_cons {g : Graph} {n : NodeId} {node : Node} (hn : g.node? n = some node)
    (hcomp : node.isComputed = true) (order : List NodeId) :
    g.computed (n :: order) = (n, node) :: g.computed order := by
  unfold computed
  rw [List.filterMap_cons, hn, Option.map_some]
  exact List.filter_cons_of_pos hcomp

/-- The nodes stand in the order in which their identities are listed. -/
theorem computed_sublist (g : Graph) (order : List NodeId) : ((g.computed order).map Prod.fst).Sublist order := by
  have hlisted : ((order.filterMap fun n => (g.node? n).map (n, ·)).map Prod.fst).Sublist order := by
    induction order with
    | nil => exact .slnil
    | cons n order ih =>
        rw [List.filterMap_cons]
        cases g.node? n with
        | none => exact ih.cons n
        | some node => exact ih.cons_cons n
  exact (List.filter_sublist.map Prod.fst).trans hlisted

end Graph

end SignalGraph
