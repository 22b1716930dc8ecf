import SignalGraph.Bytes.Codec
import SignalGraph.Record.Basic

/-!
# The graph file format

A graph file is the bytes of a record: name, node table, connection table. Bytes behind the record are
ignored.
-/

namespace SignalGraph

open Bytes

/-- The bytes of a node of a record. -/
def NodeRecord.encode (e : NodeRecord) : List UInt8 :=
  writeText e.pkg ++ writeText e.name ++ writeWord e.delayWrite

/-- Read a node of a record. -/
def NodeRecord.decode : Reader NodeRecord := fun bs => do
  let (pkg, bs) ← readText bs
  let (name, bs) ← readText bs
  let (delayWrite, bs) ← readWord bs
  pure (⟨pkg, name, delayWrite⟩, bs)

/-- The bytes of a connection of a record. -/
def ConnectionRecord.encode (c : ConnectionRecord) : List UInt8 :=
  writeWord c.srcNode ++ writeWord c.srcPort ++ writeWord c.dstNode ++ writeWord c.dstPort

/-- Read a connection of a record. -/
def ConnectionRecord.decode : Reader ConnectionRecord := fun bs => do
  let (srcNode, bs) ← readWord bs
  let (srcPort, bs) ← readWord bs
  let (dstNode, bs) ← readWord bs
  let (dstPort, bs) ← readWord bs
  pure (⟨srcNode, srcPort, dstNode, dstPort⟩, bs)

namespace GraphRecord

def encode (r : GraphRecord) : List UInt8 :=
  writeText r.name ++ writeList NodeRecord.encode r.nodes ++
    writeList ConnectionRecord.encode r.connections

def decode : Reader GraphRecord := fun bs => do
  let (name, bs) ← readText bs
  let (nodes, bs) ← readList NodeRecord.decode bs
  let (connections, bs) ← readList ConnectionRecord.decode bs
  pure (⟨name, nodes, connections⟩, bs)

end GraphRecord

/-- Why bytes or a text are no graph. -/
inductive ReadError where
  | codec (cause : CodecError)
  | text
  | record (cause : RecordError)
deriving DecidableEq

def ReadError.message : ReadError → String
  | codec e => "Codec error: " ++ e.message
  | text => "RON parse error"
  | record e => e.message

namespace Graph

/-- The bytes of a graph file. -/
def encode (g : Graph) : List UInt8 := g.toRecord.encode

/-- The graph of a graph file, with nodes built from what `resolve` knows. -/
def decode (bs : List UInt8) (resolve : Origin → Option Capability) : Except ReadError Graph :=
  match GraphRecord.decode bs with
  | .error e => .error (.codec e)
  | .ok (r, _) => (r.toGraph resolve).mapError .record

end Graph

end SignalGraph
