import SignalGraph.Layering.Basic

/-!
# Ranks

A rank counts layers from the sinks backwards: a sink has rank 0, and every other node the negated number of
connections on its longest way down to a sink. Sinks then move to just behind their inputs, and terminals to
a first and a last rank of their own.
-/

namespace SignalGraph

/-- The ranks found so far, and the lowest of them. -/
structure Ranks where
  /-- The rank of each node. -/
  rank : Table NodeId Int := ∅
  /-- The lowest rank that was given. -/
  first : Int := 0

namespace Ranks

/--
Give a node a rank and its predecessors the ones before it, unless the node has a rank as low already.
`fuel` bounds the length of the way from consumers to sources.
-/
def propagate (predecessors : NodeId → List NodeId) : (fuel : Nat) → NodeId → Int → Ranks → Ranks
  | 0, _, _, r => r
  | fuel + 1, n, rank, r =>
    if (r.rank.get? n).any (· ≤ rank) then r
    else
      let r := { r with rank := r.rank.set n rank }
      let r := (predecessors n).foldl (fun r p => propagate predecessors fuel p (rank - 1) r) r
      { r with first := min r.first rank }

/-- The rank of a node, if it has one, is this one. -/
def holds (r : Table NodeId Int) (rank : Int) (n : NodeId) : Bool := r.get? n == some rank

end Ranks

namespace Graph

/-- Whether no output of a node is connected. -/
def isSink (g : Graph) (n : NodeId) : Bool :=
  (g.node? n).any fun node => node.outputs.all fun p => !p.isConnected

/-- The nodes that feed no other node. -/
def sinks (g : Graph) : List NodeId := g.allNodes.filter g.isSink

/-- The rank of every node from which a sink can be reached. No way is longer than the number of nodes. -/
def ranks (g : Graph) : Ranks :=
  g.sinks.foldl (fun r n => r.propagate g.predecessors g.arena.size n 0) {}

/--
The rank of a sink just behind its inputs. A sink without inputs goes to the middle.
-/
def trailingRank (g : Graph) (first : Int) (rank : Table NodeId Int) (n : NodeId) : Int :=
  let before := ((g.predecessors n).filterMap rank.get?).max?.getD (first - 1)
  if before < first then first + Int.tdiv (1 - first) 2 else before + 1

/-- Move every sink to just behind its inputs. -/
def trailSinks (g : Graph) (r : Ranks) : Table NodeId Int :=
  g.sinks.foldl (fun rank n => rank.set n (g.trailingRank r.first rank n)) r.rank

/-- Whether a node may share the first rank with input terminals: numbers wait for no input. -/
def sharesFirst (g : Graph) (d : Direction) (n : NodeId) : Bool :=
  d == .input && (g.node? n).any Node.isConstant

/--
Move the terminals of a direction to `rank` if they have it to themselves already, and otherwise to the
unused rank `fresh` next to it.
-/
def pinTerminals (g : Graph) (d : Direction) (rank fresh : Int) (r : Table NodeId Int) :
    Table NodeId Int :=
  let ports := g.terminals d
  let held := ports.countP (Ranks.holds r rank)
  let occupants := g.allNodes.countP fun n => Ranks.holds r rank n && !g.sharesFirst d n
  let target := if held = occupants then rank else fresh
  ports.foldl (fun r n => r.set n target) r

/-- The rank of every node, with sinks and terminals in their places. -/
def finalRanks (g : Graph) : Table NodeId Int :=
  let r := g.ranks
  let rank := g.trailSinks r
  let rank := if g.inPorts.isEmpty then rank else g.pinTerminals .input r.first (r.first - 1) rank
  if g.outPorts.isEmpty then rank else g.pinTerminals .output 0 1 rank

end Graph

end SignalGraph
