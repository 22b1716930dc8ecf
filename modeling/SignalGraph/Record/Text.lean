import SignalGraph.ObjectText.Decode
import SignalGraph.ObjectText.Printer
import SignalGraph.Record.Binary

/-!
# Records as text

A record can be written as object text, for people to read and edit, and read back.
-/

namespace SignalGraph

open ObjectText

/-! ## Writing -/

/-- A node of a record as a value. -/
def NodeRecord.toValue (e : NodeRecord) : Value :=
  .ofFields "NodeRecord" [("pkg", .string e.pkg), ("name", .string e.name),
    ("delay_write", .ofNat e.delayWrite.toNat)]

/-- A connection of a record as a value. -/
def ConnectionRecord.toValue (c : ConnectionRecord) : Value :=
  .ofFields "ConnectionRecord" [("src_node", .ofNat c.srcNode.toNat), ("src_port", .ofNat c.srcPort.toNat),
    ("dst_node", .ofNat c.dstNode.toNat), ("dst_port", .ofNat c.dstPort.toNat)]

def GraphRecord.toValue (r : GraphRecord) : Value :=
  .ofFields "GraphRecord" [("name", .string r.name), ("nodes", .list (r.nodes.map (·.toValue))),
    ("connections", .list (r.connections.map (·.toValue)))]

/-- The items of the tables of a record are numbered. -/
def GraphRecord.layout : Layout := ⟨true⟩

def GraphRecord.render (r : GraphRecord) : String := ObjectText.render layout r.toValue

/-! ## Reading -/

/-- The node of a record that a value stands for. -/
def NodeRecord.ofValue? : Decoder NodeRecord := fun s v => do
  let fs ← v.asStruct "NodeRecord" ["pkg", "name", "delay_write"] s
  let pkg ← fs.required "pkg" Value.asString
  let name ← fs.required "name" Value.asString
  let delayWrite ← fs.required "delay_write" Value.asWord
  pure { pkg, name, delayWrite }

/-- The connection of a record that a value stands for. -/
def ConnectionRecord.ofValue? : Decoder ConnectionRecord := fun s v => do
  let fs ← v.asStruct "ConnectionRecord" ["src_node", "src_port", "dst_node", "dst_port"] s
  let srcNode ← fs.required "src_node" Value.asWord
  let srcPort ← fs.required "src_port" Value.asWord
  let dstNode ← fs.required "dst_node" Value.asWord
  let dstPort ← fs.required "dst_port" Value.asWord
  pure { srcNode, srcPort, dstNode, dstPort }

/-- The record that a value stands for. -/
def GraphRecord.ofValue? : Decoder GraphRecord := fun s v => do
  let fs ← v.asStruct "GraphRecord" ["name", "nodes", "connections"] s
  let name ← fs.required "name" Value.asString
  let nodes ← fs.required "nodes" (Value.asList NodeRecord.ofValue?)
  let connections ← fs.required "connections" (Value.asList ConnectionRecord.ofValue?)
  pure { name, nodes, connections }

/-- The record that a text stands for. -/
def GraphRecord.parse? (s : String) : Option GraphRecord := ObjectText.decode? GraphRecord.ofValue? s

namespace Graph

/-- The text of the record of a graph. -/
def renderRecord (g : Graph) : String := g.toRecord.render

/-- The graph of the text of a record, with nodes built from what `resolve` knows. -/
def parseRecord (s : String) (resolve : Origin → Option Capability) : Except ReadError Graph :=
  match GraphRecord.parse? s with
  | none => .error .text
  | some r => (r.toGraph resolve).mapError .record

end Graph

end SignalGraph
