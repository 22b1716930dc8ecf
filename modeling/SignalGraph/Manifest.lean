import SignalGraph.Capability
import SignalGraph.Table

/-!
# Manifests

A manifest lists what packages provide. The standard manifest describes the standard library; further ones
are merged over it.
-/

namespace SignalGraph

/-- The known capabilities, in the order in which their origins were first registered. -/
structure Manifest where
  entries : Table Origin Capability := ∅
deriving DecidableEq, Inhabited

namespace Manifest

def empty : Manifest := {}

/-- Add an entry, or replace the one of the same origin in place. -/
def register (m : Manifest) (origin : Origin) (capability : Capability) : Manifest :=
  ⟨m.entries.set origin capability⟩

/-- Merge another manifest into this one; its entries win. -/
def extend (m other : Manifest) : Manifest := ⟨m.entries.setAll other.entries.entries⟩

/-- The manifest of a list of entries, where a later one wins. -/
def ofEntries (es : List (Origin × Capability)) : Manifest := ⟨.ofList es⟩

def size (m : Manifest) : Nat := m.entries.size

def isEmpty (m : Manifest) : Bool := m.entries.isEmpty

/-- What is known under an origin. -/
def resolve (m : Manifest) (origin : Origin) : Option Capability := m.entries.get? origin

/-- The manifest of the standard library. -/
def standard : Manifest :=
  let signals (names : List String) : List Param := names.map (⟨·, .f32⟩)
  let function (name : String) (params : List String) : Origin × Capability :=
    (⟨standardPackage, name⟩, .function ⟨signals params, signals [""]⟩)
  let stateful (name : String) (params results : List String) : Origin × Capability :=
    (⟨standardPackage, name⟩, .stateful ⟨[⟨"c", .config⟩], []⟩ ⟨signals params, signals results⟩)
  ofEntries [
    function "sin" ["x"], function "cos" ["x"], function "tanh" ["x"], function "abs" ["x"],
    function "min" ["a", "b"], function "max" ["a", "b"], function "clip" ["x", "lo", "hi"],
    stateful "WhiteNoise" [] [""], stateful "Oscillator" ["freq"] ["sin", "cos"]]

/-- The origins that nodes can be made of, by package and then by name. -/
def candidates (m : Manifest) : List Origin :=
  ((m.entries.entries.filter fun (origin, c) => (c.toNode? origin).isSome).map Prod.fst).mergeSort Origin.le

/-- A line of a listing: the name, the numbers of ports, and whether state is kept. -/
def listingLine (label : String) (inputs outputs : Nat) (stateful : Bool) : String :=
  Text.padRight 20 label ++ " " ++ toString inputs ++ " in  " ++ toString outputs ++ " out" ++
    (if stateful then "  stateful" else "")

/-- The lines of what is built in without a package. -/
def builtinLines : List String :=
  operators.map (listingLine · 2 1 false) ++ [listingLine "<number>" 0 1 false]

/-- The lines of all node kinds, or of those of one package. -/
def listing (m : Manifest) (pkg : Option String) : List String :=
  let shown (p : String) : Bool := pkg.all (· == p)
  (if shown "" then builtinLines else []) ++
  (if shown standardPackage then [listingLine delayOrigin.label 2 1 true] else []) ++
  (m.candidates.filter fun origin => shown origin.pkg).filterMap fun origin => do
    let capability ← m.resolve origin
    let node ← capability.toNode? origin
    pure (listingLine origin.label node.inputs.length node.outputs.length capability.isStateful)

end Manifest

end SignalGraph
