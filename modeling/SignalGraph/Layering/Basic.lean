import SignalGraph.Graph.Basic

/-!
# Layers

A layering places every node of a graph in a layer, so that each connection leads from a lower layer to a
higher one.
-/

namespace SignalGraph

/-- The nodes of each layer, and the layer of each node. -/
structure Layering where
  /-- The nodes of each layer in order. -/
  layers : List (List NodeId) := []
  /-- The layer of each node. -/
  nodeLayers : Table NodeId Nat := ∅
deriving DecidableEq, Inhabited

namespace Layering

def layerOf? (l : Layering) (n : NodeId) : Option Nat := l.nodeLayers.get? n

def size (l : Layering) : Nat := l.layers.length

def isEmpty (l : Layering) : Bool := l.layers.isEmpty

def nodes (l : Layering) : List NodeId := l.layers.flatten

/-- The layering of some lists of nodes. A node that is listed twice belongs to the last of its layers. -/
def ofLayers (layers : List (List NodeId)) : Layering where
  layers := layers
  nodeLayers := .ofList (layers.zipIdx.flatMap fun (layer, i) => layer.map (·, i))

end Layering

end SignalGraph
