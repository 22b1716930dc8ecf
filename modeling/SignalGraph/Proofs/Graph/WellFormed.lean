import Mathlib.Algebra.Group.Nat.Defs
import Mathlib.Data.Fintype.Card
import Mathlib.Data.Fintype.EquivFin
import Mathlib.Data.List.Nodup
import Mathlib.Data.List.Permutation
import Mathlib.Logic.Relation
import SignalGraph.Proofs.Node
import SignalGraph.Proofs.Table

/-!
# What holds of every graph that was built by edits

A graph keeps each fact twice: a node is in the arena and in one of three sequences, a connection is in the
table and in the lists of two ports. `WellFormed` says that the two always agree, that an input has at most
one source, that delay reads have a line to read, that signals do not run in a circle, and that every
identity in use lies below its counter.

The predicate comes in four parts, because removing the owner of a delay line breaks the last one for a
moment: `Wired` holds in between, and `WellFormed` adds the delay lines.

Everything that walks the graph is then a question about the relation `Feeds`.
-/

namespace SignalGraph

namespace Graph

/-! ## Relations between ports and between nodes -/

/-- The connections listed at an output port, if there is such a port. -/
def outgoing? (g : Graph) (s : OutPort) : Option (List ConnectionId) :=
  (g.node? s.node).bind fun node => node.outgoing[s.index]?

/-- The connections listed at an input port, if there is such a port. -/
def incoming? (g : Graph) (d : InPort) : Option (List ConnectionId) :=
  (g.node? d.node).bind fun node => node.incoming[d.index]?

/-- Some connection leads from one port to the other. -/
def Connects (g : Graph) (s : OutPort) (d : InPort) : Prop := ∃ c, g.connection? c = some ⟨s, d⟩

/-- Some connection leads from one node to the other. -/
def Feeds (g : Graph) (a b : NodeId) : Prop :=
  ∃ c ends, g.connection? c = some ends ∧ ends.src.node = a ∧ ends.dst.node = b

/-- No signal comes back to the node it left. -/
def Acyclic (g : Graph) : Prop := ∀ n, ¬ Relation.TransGen g.Feeds n n

/-! ## The invariant -/

/-- The three sequences hold every node once, each in the sequence that its origin asks for. -/
structure Partitioned (g : Graph) : Prop where
  /-- No node is listed twice. -/
  nodup : g.allNodes.Nodup
  /-- The input terminals are the nodes marked as such. -/
  mem_inPorts : ∀ n, n ∈ g.inPorts ↔ ∃ node, g.node? n = some node ∧ node.isInputTerminal = true
  /-- The body holds the nodes that are no terminals. -/
  mem_body : ∀ n, n ∈ g.body ↔ ∃ node, g.node? n = some node ∧ node.isTerminal = false
  /-- The output terminals are the nodes marked as such. -/
  mem_outPorts : ∀ n, n ∈ g.outPorts ↔ ∃ node, g.node? n = some node ∧ node.isOutputTerminal = true

/-- A connection is listed at its two ends and nowhere else, and an input has one source at most. -/
structure Registered (g : Graph) : Prop where
  /-- The source of a connection is a port of the graph. -/
  src_listed : ∀ c ends, g.connection? c = some ends → ∃ cs, g.outgoing? ends.src = some cs
  /-- The destination of a connection is a port of the graph. -/
  dst_listed : ∀ c ends, g.connection? c = some ends → ∃ cs, g.incoming? ends.dst = some cs
  /-- An output lists the connections that start there. -/
  mem_outgoing : ∀ s cs c, g.outgoing? s = some cs →
    (c ∈ cs ↔ ∃ ends, g.connection? c = some ends ∧ ends.src = s)
  /-- An input lists the connections that end there. -/
  mem_incoming : ∀ d cs c, g.incoming? d = some cs →
    (c ∈ cs ↔ ∃ ends, g.connection? c = some ends ∧ ends.dst = d)
  /-- No output lists a connection twice. -/
  outgoing_nodup : ∀ s cs, g.outgoing? s = some cs → cs.Nodup
  /-- An input lists one connection at most. -/
  incoming_length : ∀ d cs, g.incoming? d = some cs → cs.length ≤ 1

/-- Every identity in use lies below its counter. -/
structure Numbered (g : Graph) : Prop where
  node_lt : ∀ n node, g.node? n = some node → n.val < g.nextNode
  connection_lt : ∀ c ends, g.connection? c = some ends → c.val < g.nextConnection

/-- Every delay read refers to a delay write of the graph. -/
def DelaysLinked (g : Graph) : Prop :=
  ∀ n node w, g.node? n = some node → node.delay = some (.read w) →
    ∃ writer, g.node? w = some writer ∧ writer.isDelayWrite = true

/-- The invariant without the delay lines. -/
structure Wired (g : Graph) : Prop extends Partitioned g, Registered g, Numbered g where
  /-- No signal runs in a circle. -/
  acyclic : g.Acyclic

/-- The invariant of every graph that was built by edits. -/
structure WellFormed (g : Graph) : Prop extends Wired g where
  /-- Every delay read has a line to read. -/
  delays : g.DelaysLinked

/-! ## Nodes and their sequences -/

theorem node?_of_outgoing? {g : Graph} {s : OutPort} {cs : List ConnectionId}
    (h : g.outgoing? s = some cs) : ∃ node, g.node? s.node = some node ∧ node.outgoing[s.index]? = some cs :=
  Option.bind_eq_some_iff.mp h

theorem node?_of_incoming? {g : Graph} {d : InPort} {cs : List ConnectionId}
    (h : g.incoming? d = some cs) : ∃ node, g.node? d.node = some node ∧ node.incoming[d.index]? = some cs :=
  Option.bind_eq_some_iff.mp h

theorem outgoing?_of_node? {g : Graph} {n : NodeId} {node : Node} (h : g.node? n = some node) (i : Nat) :
    g.outgoing? ⟨n, i⟩ = node.outgoing[i]? := by
  unfold outgoing?
  rw [h]
  rfl

theorem incoming?_of_node? {g : Graph} {n : NodeId} {node : Node} (h : g.node? n = some node) (i : Nat) :
    g.incoming? ⟨n, i⟩ = node.incoming[i]? := by
  unfold incoming?
  rw [h]
  rfl

theorem exists_connections_iff {ps : List Port} {i : Nat} :
    (∃ cs, (ps.map Port.connections)[i]? = some cs) ↔ i < ps.length := by
  simp only [List.getElem?_eq_some_iff, List.length_map]
  constructor
  · rintro ⟨_, hi, -⟩
    exact hi
  · intro hi
    exact ⟨_, hi, rfl⟩

/-- An output has a list if the node has the port. -/
theorem exists_outgoing?_iff {g : Graph} {s : OutPort} :
    (∃ cs, g.outgoing? s = some cs) ↔ ∃ node, g.node? s.node = some node ∧ s.index < node.outputs.length := by
  unfold outgoing?
  cases g.node? s.node with
  | none => simp
  | some node =>
      simp only [Option.bind_some, Option.some.injEq, exists_eq_left']
      exact exists_connections_iff

/-- An input has a list if the node has the port. -/
theorem exists_incoming?_iff {g : Graph} {d : InPort} :
    (∃ cs, g.incoming? d = some cs) ↔ ∃ node, g.node? d.node = some node ∧ d.index < node.inputs.length := by
  unfold incoming?
  cases g.node? d.node with
  | none => simp
  | some node =>
      simp only [Option.bind_some, Option.some.injEq, exists_eq_left']
      exact exists_connections_iff

theorem Partitioned.mem_allNodes {g : Graph} (h : g.Partitioned) {n : NodeId} :
    n ∈ g.allNodes ↔ ∃ node, g.node? n = some node := by
  unfold allNodes
  rw [List.mem_append, List.mem_append, h.mem_inPorts, h.mem_body, h.mem_outPorts]
  constructor
  · rintro ((⟨node, hn, -⟩ | ⟨node, hn, -⟩) | ⟨node, hn, -⟩) <;> exact ⟨node, hn⟩
  · rintro ⟨node, hn⟩
    cases hin : node.isInputTerminal with
    | true => exact Or.inl (Or.inl ⟨node, hn, hin⟩)
    | false =>
        cases hout : node.isOutputTerminal with
        | true => exact Or.inr ⟨node, hn, hout⟩
        | false => exact Or.inl (Or.inr ⟨node, hn, by simp [Node.isTerminal, hin, hout]⟩)

theorem Partitioned.allNodes_perm_keys {g : Graph} (h : g.Partitioned) :
    g.allNodes.Perm g.arena.keys := by
  refine (List.perm_ext_iff_of_nodup h.nodup g.arena.keys_nodup).mpr ?_
  intro n
  rw [h.mem_allNodes, Table.mem_keys_iff]
  rfl

/-! ## Connections and port lists -/

theorem Registered.outgoing_of_src {g : Graph} (h : g.Registered) {c : ConnectionId} {ends : Connection}
    (hc : g.connection? c = some ends) : ∃ cs, g.outgoing? ends.src = some cs ∧ c ∈ cs := by
  obtain ⟨cs, hcs⟩ := h.src_listed c ends hc
  exact ⟨cs, hcs, (h.mem_outgoing _ _ _ hcs).mpr ⟨ends, hc, rfl⟩⟩

theorem Registered.incoming_of_dst {g : Graph} (h : g.Registered) {c : ConnectionId} {ends : Connection}
    (hc : g.connection? c = some ends) : ∃ cs, g.incoming? ends.dst = some cs ∧ c ∈ cs := by
  obtain ⟨cs, hcs⟩ := h.dst_listed c ends hc
  exact ⟨cs, hcs, (h.mem_incoming _ _ _ hcs).mpr ⟨ends, hc, rfl⟩⟩

/-- The list of an input that a connection reaches holds that connection alone. -/
theorem Registered.incoming_eq_singleton {g : Graph} (h : g.Registered) {c : ConnectionId}
    {ends : Connection} (hc : g.connection? c = some ends) : g.incoming? ends.dst = some [c] := by
  obtain ⟨cs, hcs, hmem⟩ := h.incoming_of_dst hc
  have hlen := h.incoming_length _ _ hcs
  rcases cs with _ | ⟨a, _ | ⟨b, cs⟩⟩
  · exact absurd hmem (by simp)
  · rw [List.mem_singleton] at hmem
    rw [hcs, hmem]
  · simp at hlen

theorem Registered.connection_unique {g : Graph} (h : g.Registered) {c c' : ConnectionId}
    {ends ends' : Connection} (hc : g.connection? c = some ends) (hc' : g.connection? c' = some ends')
    (hd : ends.dst = ends'.dst) : c = c' := by
  have h1 := h.incoming_eq_singleton hc
  have h2 := h.incoming_eq_singleton hc'
  rw [hd, h2] at h1
  injection h1 with h1
  injection h1 with h1
  exact h1.symm

/-- The source that an input finds is the one that is connected to it. -/
theorem Registered.sourceOf?_eq_some_iff {g : Graph} (h : g.Registered) {s : OutPort} {d : InPort} :
    g.sourceOf? d = some s ↔ g.Connects s d := by
  have hview : g.sourceOf? d = (g.incoming? d).bind fun cs =>
      cs.head?.bind fun c => (g.connection? c).map (·.src) := by
    unfold sourceOf? incoming? Node.incoming
    cases g.node? d.node with
    | none => rfl
    | some node =>
        simp only [Option.bind_some, List.getElem?_map]
        cases node.inputs[d.index]? <;> rfl
  rw [hview]
  constructor
  · intro hs
    obtain ⟨cs, hcs, hs⟩ := Option.bind_eq_some_iff.mp hs
    obtain ⟨c, hhead, hs⟩ := Option.bind_eq_some_iff.mp hs
    obtain ⟨ends, hends, rfl⟩ := Option.map_eq_some_iff.mp hs
    obtain ⟨ends', hends', hd⟩ := (h.mem_incoming d cs c hcs).mp (List.mem_of_head? hhead)
    rw [hends] at hends'
    injection hends' with heq
    subst heq
    exact ⟨c, by rw [hends, ← hd]⟩
  · rintro ⟨c, hc⟩
    have hin := h.incoming_eq_singleton hc
    dsimp only at hin
    rw [hin]
    simp [hc]

theorem Registered.sourceOf?_eq_none_iff {g : Graph} (h : g.Registered) {d : InPort} :
    g.sourceOf? d = none ↔ ∀ s, ¬ g.Connects s d := by
  rw [Option.eq_none_iff_forall_ne_some]
  exact forall_congr' fun s => not_congr h.sourceOf?_eq_some_iff

/-- The inputs that an output feeds are the ones connected to it. -/
theorem Registered.mem_consumersOf {g : Graph} (h : g.Registered) {s : OutPort} {d : InPort} :
    d ∈ g.consumersOf s ↔ g.Connects s d := by
  have hview : g.consumersOf s =
      ((g.outgoing? s).getD []).filterMap fun c => (g.connection? c).map (·.dst) := by
    unfold consumersOf outgoing? Node.outgoing
    cases g.node? s.node with
    | none => rfl
    | some node =>
        simp only [Option.bind_some, List.getElem?_map]
        cases node.outputs[s.index]? <;> rfl
  rw [hview, List.mem_filterMap]
  constructor
  · rintro ⟨c, hc, hd⟩
    obtain ⟨ends, hends, rfl⟩ := Option.map_eq_some_iff.mp hd
    cases hcs : g.outgoing? s with
    | none =>
        rw [hcs] at hc
        exact absurd hc (by simp)
    | some cs =>
        rw [hcs] at hc
        obtain ⟨ends', hends', hs⟩ := (h.mem_outgoing s cs c hcs).mp hc
        rw [hends] at hends'
        injection hends' with heq
        subst heq
        exact ⟨c, by rw [hends, ← hs]⟩
  · rintro ⟨c, hc⟩
    obtain ⟨cs, hcs, hmem⟩ := h.outgoing_of_src hc
    dsimp only at hcs
    exact ⟨c, by rw [hcs]; exact hmem, by rw [hc]; rfl⟩

/-! ## Neighbours -/

theorem mem_flatMap_ports {ps : List Port} {c : ConnectionId} :
    c ∈ ps.flatMap Port.connections ↔
      ∃ (i : Nat) (cs : List ConnectionId), (ps.map Port.connections)[i]? = some cs ∧ c ∈ cs := by
  rw [List.mem_flatMap]
  constructor
  · rintro ⟨p, hp, hc⟩
    obtain ⟨i, hi⟩ := List.mem_iff_getElem?.mp hp
    exact ⟨i, p.connections, by rw [List.getElem?_map, hi]; rfl, hc⟩
  · rintro ⟨i, cs, hi, hc⟩
    rw [List.getElem?_map, Option.map_eq_some_iff] at hi
    obtain ⟨p, hp, rfl⟩ := hi
    exact ⟨p, List.mem_of_getElem? hp, hc⟩

theorem Registered.mem_predecessors {g : Graph} (h : g.Registered) {a b : NodeId} :
    a ∈ g.predecessors b ↔ g.Feeds a b := by
  unfold predecessors
  constructor
  · intro ha
    split at ha
    · rename_i node hnode
      obtain ⟨c, hc, hsrc⟩ := List.mem_filterMap.mp ha
      obtain ⟨ends, hends, rfl⟩ := Option.map_eq_some_iff.mp hsrc
      obtain ⟨i, cs, hi, hmem⟩ := mem_flatMap_ports.mp hc
      have hin : g.incoming? ⟨b, i⟩ = some cs := (incoming?_of_node? hnode i).trans hi
      obtain ⟨ends', hends', hd⟩ := (h.mem_incoming _ _ _ hin).mp hmem
      rw [hends] at hends'
      injection hends' with heq
      subst heq
      exact ⟨c, ends, hends, rfl, by rw [hd]⟩
    · exact absurd ha (by simp)
  · rintro ⟨c, ends, hends, rfl, rfl⟩
    obtain ⟨cs, hcs, hmem⟩ := h.incoming_of_dst hends
    obtain ⟨node, hnode, hi⟩ := node?_of_incoming? hcs
    rw [hnode]
    refine List.mem_filterMap.mpr ⟨c, mem_flatMap_ports.mpr ⟨_, cs, hi, hmem⟩, ?_⟩
    rw [hends]
    rfl

theorem Registered.mem_successors {g : Graph} (h : g.Registered) {a b : NodeId} :
    b ∈ g.successors a ↔ g.Feeds a b := by
  unfold successors
  constructor
  · intro hb
    split at hb
    · rename_i node hnode
      obtain ⟨c, hc, hdst⟩ := List.mem_filterMap.mp hb
      obtain ⟨ends, hends, rfl⟩ := Option.map_eq_some_iff.mp hdst
      obtain ⟨i, cs, hi, hmem⟩ := mem_flatMap_ports.mp hc
      have hout : g.outgoing? ⟨a, i⟩ = some cs := (outgoing?_of_node? hnode i).trans hi
      obtain ⟨ends', hends', hs⟩ := (h.mem_outgoing _ _ _ hout).mp hmem
      rw [hends] at hends'
      injection hends' with heq
      subst heq
      exact ⟨c, ends, hends, by rw [hs], rfl⟩
    · exact absurd hb (by simp)
  · rintro ⟨c, ends, hends, rfl, rfl⟩
    obtain ⟨cs, hcs, hmem⟩ := h.outgoing_of_src hends
    obtain ⟨node, hnode, hi⟩ := node?_of_outgoing? hcs
    rw [hnode]
    refine List.mem_filterMap.mpr ⟨c, mem_flatMap_ports.mpr ⟨_, cs, hi, hmem⟩, ?_⟩
    rw [hends]
    rfl

theorem Registered.feeds_src_present {g : Graph} (h : g.Registered) {a b : NodeId} (hf : g.Feeds a b) :
    ∃ node, g.node? a = some node := by
  obtain ⟨c, ends, hends, rfl, -⟩ := hf
  obtain ⟨cs, hcs⟩ := h.src_listed c ends hends
  obtain ⟨node, hnode, -⟩ := node?_of_outgoing? hcs
  exact ⟨node, hnode⟩

theorem Registered.feeds_dst_present {g : Graph} (h : g.Registered) {a b : NodeId} (hf : g.Feeds a b) :
    ∃ node, g.node? b = some node := by
  obtain ⟨c, ends, hends, -, rfl⟩ := hf
  obtain ⟨cs, hcs⟩ := h.dst_listed c ends hends
  obtain ⟨node, hnode, -⟩ := node?_of_incoming? hcs
  exact ⟨node, hnode⟩

/-! ## Acyclic graphs are well founded -/

instance : Finite NodeId :=
  Finite.of_injective (fun n : NodeId => n.val.toFin) (by
    rintro ⟨a⟩ ⟨b⟩ h
    exact congrArg NodeId.mk (UInt32.toFin_inj.mp h))

/-- There are only finitely many nodes, so a walk along connections comes to an end, either way. -/
theorem Acyclic.wellFounded {g : Graph} (h : g.Acyclic) : WellFounded g.Feeds := by
  have hirr : Std.Irrefl (Relation.TransGen g.Feeds) := ⟨h⟩
  have hwf := Finite.wellFounded_of_trans_of_irrefl (Relation.TransGen g.Feeds)
  exact Subrelation.wf Relation.TransGen.single hwf

theorem Acyclic.wellFounded_swap {g : Graph} (h : g.Acyclic) : WellFounded (Function.swap g.Feeds) := by
  have hirr : Std.Irrefl (Relation.TransGen (Function.swap g.Feeds)) :=
    ⟨fun n hn => h n (Relation.transGen_swap.mp hn)⟩
  have hwf := Finite.wellFounded_of_trans_of_irrefl (Relation.TransGen (Function.swap g.Feeds))
  exact Subrelation.wf Relation.TransGen.single hwf

end Graph

end SignalGraph
