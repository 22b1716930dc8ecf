import SignalGraph.Builtin

/-!
# Capabilities

What a package provides under a name is described by a signature: a function, or a stateful kind with an
initialisation and a processing step. Only what handles signals and nothing else can be a node, and a
stateful kind must be initialised by one configuration.
-/

namespace SignalGraph

/-- The kind of a value in a signature. -/
inductive ValueKind where
  /-- A signal, the only kind that a port carries. -/
  | f32
  /-- A 64-bit number. -/
  | f64
  /-- A 32-bit whole number. -/
  | i32
  /-- A truth value. -/
  | bool
  /-- The configuration that stateful nodes are initialised with. -/
  | config
  /-- Any other kind, by name. -/
  | other (name : String)
deriving DecidableEq

/-- A named parameter or result. -/
structure Param where
  name : String
  kind : ValueKind
deriving DecidableEq

/-- The parameters and results of a routine. -/
structure Signature where
  params : List Param := []
  results : List Param := []
deriving DecidableEq, Inhabited

/-- Whether a routine takes and gives signals only. -/
def Signature.isAllSignals (s : Signature) : Bool := (s.params ++ s.results).all (·.kind == .f32)

/-- Whether a routine takes one configuration and gives nothing. -/
def Signature.isInitialisation (s : Signature) : Bool :=
  s.results.isEmpty && s.params.map (·.kind) == [.config]

/-- What an origin provides. -/
inductive Capability where
  /-- A function. -/
  | function (signature : Signature)
  /-- A kind with state, an initialisation and a processing step. -/
  | stateful (init process : Signature)
deriving DecidableEq

namespace Capability

/-- The routine that runs once in each invocation. -/
def process : Capability → Signature
  | function s => s
  | stateful _ s => s

/-- Whether something is kept from one invocation to the next. -/
def isStateful : Capability → Bool
  | function _ => false
  | stateful _ _ => true

/-- Whether a node can be made of it. -/
def isUsable (c : Capability) : Bool :=
  (match c with
    | function _ => true
    | stateful init _ => init.isInitialisation) &&
  !(c.process.params.isEmpty && c.process.results.isEmpty) && c.process.isAllSignals

/-- The node of an origin with this capability: a port for each parameter and result. -/
def toNode? (c : Capability) (origin : Origin) : Option Node :=
  if c.isUsable then
    some { Node.ofNames origin (c.process.params.map (·.name)) (c.process.results.map (·.name)) with
      stateful := c.isStateful }
  else none

end Capability

/-- Why a node cannot be built. -/
inductive BuildError where
  /-- Nothing is known under the origin. -/
  | unknown (origin : Origin)
  /-- What is known under the origin cannot be a node. -/
  | unusable (origin : Origin)
deriving DecidableEq

def BuildError.message : BuildError → String
  | unknown o => "unknown node " ++ o.label
  | unusable o => o.label ++ " cannot be used as a node"

/-- Build a node for an origin. What is built in comes first, then what `resolve` knows. -/
def Node.build (resolve : Origin → Option Capability) (origin : Origin) : Except BuildError Node :=
  match Node.builtin? origin with
  | some node => .ok node
  | none => match resolve origin with
    | none => .error (.unknown origin)
    | some capability => match capability.toNode? origin with
      | none => .error (.unusable origin)
      | some node => .ok node

end SignalGraph
