import SignalGraph.Decimal.Binary
import SignalGraph.Graph.Basic

/-!
# Programs

A graph compiles to straight-line code: one statement for each node that computes something, in which
variables stand for outputs and fields for what stateful nodes keep. A program is that code as data, before it
is written out.
-/

namespace SignalGraph

/-- What stands for a signal in a program. -/
inductive Operand where
  | param (name : String)
  | var (k : Nat)
  | literal (v : FloatValue)
deriving DecidableEq

/-- What an unconnected input reads. -/
def Operand.zero : Operand := .literal ⟨false, 0, FloatFormat.binary32.minExponent⟩

/-- What computes signals. -/
inductive Call where
  /-- A binary operator. -/
  | operator (op : String) (left right : Operand)
  /-- A function of a package. -/
  | function (origin : Origin) (args : List Operand)
  /-- The processing step of a field. -/
  | process (field : String) (args : List Operand)
  /-- A look into a delay line that was written in the same invocation. -/
  | read (field : String) (args : List Operand)
  /-- A look into a delay line that was last written in the invocation before. -/
  | feedbackRead (field : String) (args : List Operand)
deriving DecidableEq

/-- A statement of a program. -/
inductive Statement where
  /-- Write a delay line. -/
  | write (field : String) (value : Operand)
  /-- Bind the results of a call; those without a variable are dropped. -/
  | call (results : List (Option Nat)) (call : Call)
deriving DecidableEq

/-- What a stateful node keeps. -/
structure Field where
  /-- The name of the field. -/
  name : String
  /-- The kind of the node, which names the type. -/
  origin : Origin
deriving DecidableEq

/-- The code of a graph. -/
structure Program where
  /-- The name of the graph. -/
  name : String
  /-- The module name of each package that is used. -/
  imports : Table String String
  /-- The parameters, in the order of the input terminals. -/
  params : List String
  /-- The field of each stateful node. -/
  fields : Table NodeId Field
  /-- The statements in order. -/
  body : List Statement
  /-- The results, in the order of the output terminals. -/
  results : List Operand
deriving DecidableEq

/-- Why a graph has no program for an arrangement. -/
inductive GenerateError where
  /-- An output is used that no listed node computes before. -/
  | unbound (port : OutPort)
  /-- A node is listed or referred to that is not in the graph, or not listed. -/
  | missingNode (node : NodeId)
  /-- A node has fewer ports than its kind. -/
  | missingPort (node : NodeId)
deriving DecidableEq

def GenerateError.message : GenerateError → String
  | unbound p => p.node.label ++ " output " ++ toString p.index ++ " is used before it is computed"
  | missingNode n => "node " ++ n.label ++ " is not in the graph"
  | missingPort n => n.label ++ " has too few ports"

end SignalGraph
