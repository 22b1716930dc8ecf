import SignalGraph.Proofs.Graph.WellFormed

/-!
# New nodes and changed nodes

A new node comes without connections, so the relations between ports and between nodes stay what they were.
A node that is put in the place of another has the same connections at the same ports. Both are stated as
relations between two graphs, `AddsNode` and `PutsNode`, and the edits are instances of them.

A counter may be used as long as it does not run out, which is what `NodeRoom` says.
-/

namespace SignalGraph

namespace Graph

/-- The node counter can be advanced. -/
def NodeRoom (g : Graph) : Prop := g.nextNode.toNat + 1 < 2 ^ 32

/-- The connection counter can be advanced. -/
def ConnectionRoom (g : Graph) : Prop := g.nextConnection.toNat + 1 < 2 ^ 32

theorem lt_add_one_of_room {a b : UInt32} (hroom : b.toNat + 1 < 2 ^ 32) (h : a ≤ b) : a < b + 1 := by
  rw [UInt32.le_iff_toNat_le] at h
  rw [UInt32.lt_iff_toNat_lt, UInt32.toNat_add, UInt32.toNat_one, Nat.mod_eq_of_lt hroom]
  omega

/-! ## Graphs with the same connections -/

theorem feeds_congr {g g' : Graph} (h : ∀ c, g'.connection? c = g.connection? c) : g'.Feeds = g.Feeds := by
  funext a b
  unfold Feeds
  simp only [h]

/-- The lists of ports keep their meaning where ports are lost, as long as no connection ends at one of them. -/
theorem Registered.of_ports {g g' : Graph} (h : g.Registered) (hconn : ∀ c, g'.connection? c = g.connection? c)
    (hout : ∀ s cs, g'.outgoing? s = some cs → g.outgoing? s = some cs)
    (hin : ∀ d cs, g'.incoming? d = some cs → g.incoming? d = some cs)
    (hsrc : ∀ c ends, g.connection? c = some ends → ∃ cs, g'.outgoing? ends.src = some cs)
    (hdst : ∀ c ends, g.connection? c = some ends → ∃ cs, g'.incoming? ends.dst = some cs) : g'.Registered where
  src_listed := by
    intro c ends hc
    rw [hconn] at hc
    exact hsrc c ends hc
  dst_listed := by
    intro c ends hc
    rw [hconn] at hc
    exact hdst c ends hc
  mem_outgoing := by
    intro s cs c hs
    rw [hconn]
    exact h.mem_outgoing s cs c (hout s cs hs)
  mem_incoming := by
    intro d cs c hd
    rw [hconn]
    exact h.mem_incoming d cs c (hin d cs hd)
  outgoing_nodup := by
    intro s cs hs
    exact h.outgoing_nodup s cs (hout s cs hs)
  incoming_length := by
    intro d cs hd
    exact h.incoming_length d cs (hin d cs hd)

/-! ## A new node -/

/-- `g'` is `g` with a new node. -/
structure AddsNode (g : Graph) (n : NodeId) (node : Node) (g' : Graph) : Prop where
  /-- The identity was free. -/
  fresh : g.node? n = none
  /-- The new node is there, and the others are as they were. -/
  node? : ∀ m, g'.node? m = if m = n then some node else g.node? m
  /-- The connections are as they were. -/
  connection? : ∀ c, g'.connection? c = g.connection? c

section AddsNode

variable {g g' : Graph} {n : NodeId} {node : Node}

theorem AddsNode.node?_self (ha : AddsNode g n node g') : g'.node? n = some node := by
  rw [ha.node?, if_pos rfl]

theorem AddsNode.node?_of_some (ha : AddsNode g n node g') {m : NodeId} {old : Node}
    (hm : g.node? m = some old) : g'.node? m = some old := by
  have hne : m ≠ n := by
    rintro rfl
    rw [ha.fresh] at hm
    exact absurd hm (by simp)
  rw [ha.node?, if_neg hne, hm]

theorem AddsNode.outgoing?_of_some (ha : AddsNode g n node g') {s : OutPort} {cs : List ConnectionId}
    (h : g.outgoing? s = some cs) : g'.outgoing? s = some cs := by
  obtain ⟨old, hold, hcs⟩ := node?_of_outgoing? h
  rw [← hcs]
  exact outgoing?_of_node? (ha.node?_of_some hold) s.index

theorem AddsNode.incoming?_of_some (ha : AddsNode g n node g') {d : InPort} {cs : List ConnectionId}
    (h : g.incoming? d = some cs) : g'.incoming? d = some cs := by
  obtain ⟨old, hold, hcs⟩ := node?_of_incoming? h
  rw [← hcs]
  exact incoming?_of_node? (ha.node?_of_some hold) d.index

theorem AddsNode.outgoing?_cases (ha : AddsNode g n node g') (hu : node.Unconnected) {s : OutPort}
    {cs : List ConnectionId} (h : g'.outgoing? s = some cs) :
    (s.node = n ∧ cs = []) ∨ g.outgoing? s = some cs := by
  obtain ⟨found, hfound, hcs⟩ := node?_of_outgoing? h
  rw [ha.node?] at hfound
  split at hfound
  · rename_i heq
    injection hfound with hfound
    subst hfound
    exact Or.inl ⟨heq, hu.outgoing hcs⟩
  · exact Or.inr ((outgoing?_of_node? hfound s.index).trans hcs)

theorem AddsNode.incoming?_cases (ha : AddsNode g n node g') (hu : node.Unconnected) {d : InPort}
    {cs : List ConnectionId} (h : g'.incoming? d = some cs) :
    (d.node = n ∧ cs = []) ∨ g.incoming? d = some cs := by
  obtain ⟨found, hfound, hcs⟩ := node?_of_incoming? h
  rw [ha.node?] at hfound
  split at hfound
  · rename_i heq
    injection hfound with hfound
    subst hfound
    exact Or.inl ⟨heq, hu.incoming hcs⟩
  · exact Or.inr ((incoming?_of_node? hfound d.index).trans hcs)

theorem Registered.addsNode (h : g.Registered) (ha : AddsNode g n node g') (hu : node.Unconnected) :
    g'.Registered where
  src_listed := by
    intro c ends hc
    rw [ha.connection?] at hc
    obtain ⟨cs, hcs⟩ := h.src_listed c ends hc
    exact ⟨cs, ha.outgoing?_of_some hcs⟩
  dst_listed := by
    intro c ends hc
    rw [ha.connection?] at hc
    obtain ⟨cs, hcs⟩ := h.dst_listed c ends hc
    exact ⟨cs, ha.incoming?_of_some hcs⟩
  mem_outgoing := by
    intro s cs c hs
    rw [ha.connection?]
    rcases ha.outgoing?_cases hu hs with ⟨hn, rfl⟩ | hold
    · refine ⟨fun hc => absurd hc (by simp), ?_⟩
      -- no connection of `g` starts at a node that was not there
      rintro ⟨ends, hends, rfl⟩
      obtain ⟨cs, hcs⟩ := h.src_listed c ends hends
      obtain ⟨old, hold, -⟩ := node?_of_outgoing? hcs
      rw [hn, ha.fresh] at hold
      exact absurd hold (by simp)
    · exact h.mem_outgoing s cs c hold
  mem_incoming := by
    intro d cs c hd
    rw [ha.connection?]
    rcases ha.incoming?_cases hu hd with ⟨hn, rfl⟩ | hold
    · refine ⟨fun hc => absurd hc (by simp), ?_⟩
      rintro ⟨ends, hends, rfl⟩
      obtain ⟨cs, hcs⟩ := h.dst_listed c ends hends
      obtain ⟨old, hold, -⟩ := node?_of_incoming? hcs
      rw [hn, ha.fresh] at hold
      exact absurd hold (by simp)
    · exact h.mem_incoming d cs c hold
  outgoing_nodup := by
    intro s cs hs
    rcases ha.outgoing?_cases hu hs with ⟨-, rfl⟩ | hold
    · exact List.nodup_nil
    · exact h.outgoing_nodup s cs hold
  incoming_length := by
    intro d cs hd
    rcases ha.incoming?_cases hu hd with ⟨-, rfl⟩ | hold
    · exact Nat.zero_le _
    · exact h.incoming_length d cs hold

/-- The sequences hold the new node where its marks ask for it. -/
structure Enlists (g : Graph) (n : NodeId) (node : Node) (g' : Graph) : Prop where
  /-- Nothing but the new node is new. -/
  perm : g'.allNodes.Perm (n :: g.allNodes)
  /-- It is an input terminal if it is marked so. -/
  mem_inPorts : ∀ m, m ∈ g'.inPorts ↔ (m = n ∧ node.isInputTerminal = true) ∨ m ∈ g.inPorts
  /-- It is in the body if it has no mark. -/
  mem_body : ∀ m, m ∈ g'.body ↔ (m = n ∧ node.isTerminal = false) ∨ m ∈ g.body
  /-- It is an output terminal if it is marked so. -/
  mem_outPorts : ∀ m, m ∈ g'.outPorts ↔ (m = n ∧ node.isOutputTerminal = true) ∨ m ∈ g.outPorts

theorem AddsNode.exists_iff (ha : AddsNode g n node g') (p : Node → Prop) (m : NodeId) :
    (∃ found, g'.node? m = some found ∧ p found) ↔
      (m = n ∧ p node) ∨ ∃ found, g.node? m = some found ∧ p found := by
  rw [ha.node?]
  by_cases hm : m = n
  · rw [if_pos hm, hm, ha.fresh]
    simp
  · simp [hm]

theorem Partitioned.addsNode (h : g.Partitioned) (ha : AddsNode g n node g') (he : Enlists g n node g') :
    g'.Partitioned where
  nodup := by
    refine he.perm.nodup_iff.mpr (List.nodup_cons.mpr ⟨?_, h.nodup⟩)
    rw [h.mem_allNodes, ha.fresh]
    simp
  mem_inPorts := by
    intro m
    rw [he.mem_inPorts, h.mem_inPorts, ha.exists_iff (fun found => found.isInputTerminal = true)]
  mem_body := by
    intro m
    rw [he.mem_body, h.mem_body, ha.exists_iff (fun found => found.isTerminal = false)]
  mem_outPorts := by
    intro m
    rw [he.mem_outPorts, h.mem_outPorts, ha.exists_iff (fun found => found.isOutputTerminal = true)]

theorem DelaysLinked.addsNode (h : g.DelaysLinked) (ha : AddsNode g n node g')
    (hlink : ∀ w, node.delay = some (.read w) → ∃ writer, g.node? w = some writer ∧ writer.isDelayWrite = true) :
    g'.DelaysLinked := by
  intro m found w hm hd
  have hold : ∃ writer, g.node? w = some writer ∧ writer.isDelayWrite = true := by
    rw [ha.node?] at hm
    split at hm
    · injection hm with hm
      subst hm
      exact hlink w hd
    · exact h m found w hm hd
  obtain ⟨writer, hw, hwrite⟩ := hold
  exact ⟨writer, ha.node?_of_some hw, hwrite⟩

end AddsNode

/-! ## Allocation -/

theorem Numbered.fresh {g : Graph} (h : g.Numbered) : g.node? ⟨g.nextNode⟩ = none := by
  cases hn : g.node? ⟨g.nextNode⟩ with
  | none => rfl
  | some node => exact absurd (h.node_lt _ _ hn) (UInt32.lt_irrefl _)

theorem node?_allocate (g : Graph) (node : Node) (m : NodeId) :
    (g.allocate node).2.node? m = if m = (g.allocate node).1 then some node else g.node? m :=
  Table.get?_set _ _ _ _

/-- A graph that differs from an allocation in its sequences only. -/
theorem addsNode_of_allocate {g g' : Graph} {node : Node} (h : g.Numbered)
    (harena : g'.arena = (g.allocate node).2.arena) (hconn : g'.connections = g.connections) :
    AddsNode g ⟨g.nextNode⟩ node g' where
  fresh := h.fresh
  node? := by
    intro m
    unfold Graph.node?
    rw [harena]
    exact node?_allocate g node m
  connection? := by
    intro c
    unfold Graph.connection?
    rw [hconn]

theorem Numbered.allocated {g g' : Graph} {node : Node} (h : g.Numbered) (hroom : g.NodeRoom)
    (ha : AddsNode g ⟨g.nextNode⟩ node g') (hnext : g'.nextNode = g.nextNode + 1)
    (hconn : g'.nextConnection = g.nextConnection) : g'.Numbered where
  node_lt := by
    intro m found hm
    rw [hnext]
    rw [ha.node?] at hm
    split at hm
    · rename_i heq
      subst heq
      exact lt_add_one_of_room hroom (UInt32.le_refl _)
    · exact lt_add_one_of_room hroom (UInt32.le_of_lt (h.node_lt m found hm))
  connection_lt := by
    intro c ends hc
    rw [hconn]
    rw [ha.connection?] at hc
    exact h.connection_lt c ends hc

/-- Adding a node keeps the invariant, whichever way the node gets into its sequence. -/
theorem WellFormed.allocated {g g' : Graph} {node : Node} (h : g.WellFormed) (hroom : g.NodeRoom)
    (hu : node.Unconnected) (ha : AddsNode g ⟨g.nextNode⟩ node g') (he : Enlists g ⟨g.nextNode⟩ node g')
    (hnext : g'.nextNode = g.nextNode + 1) (hconn : g'.nextConnection = g.nextConnection)
    (hlink : ∀ w, node.delay = some (.read w) → ∃ writer, g.node? w = some writer ∧ writer.isDelayWrite = true) :
    g'.WellFormed where
  toPartitioned := h.toPartitioned.addsNode ha he
  toRegistered := h.toRegistered.addsNode ha hu
  toNumbered := h.toNumbered.allocated hroom ha hnext hconn
  acyclic := by
    unfold Acyclic
    rw [feeds_congr ha.connection?]
    exact h.acyclic
  delays := h.delays.addsNode ha hlink

/-! ## Adding a node at the end of its sequence -/

theorem enlists_enlist (g : Graph) (n : NodeId) (node : Node) : Enlists g n node (g.enlist n node) := by
  have hperm : ∀ a b c : List NodeId, (a ++ [n] ++ b ++ c).Perm (n :: (a ++ b ++ c)) := by
    intro a b c
    rw [List.append_assoc, List.append_assoc, List.append_assoc]
    exact List.perm_middle
  unfold enlist
  cases hin : node.isInputTerminal with
  | true =>
      have hout := Node.not_isOutputTerminal hin
      refine ⟨hperm _ _ _, ?_, ?_, ?_⟩ <;> intro m <;> simp [hin, hout, Node.isTerminal, or_comm]
  | false =>
      cases hout : node.isOutputTerminal with
      | true =>
          refine ⟨?_, ?_, ?_, ?_⟩
          · have h := hperm (g.inPorts ++ g.body ++ g.outPorts) [] []
            simpa [allNodes] using h
          all_goals intro m; simp [hin, hout, Node.isTerminal, or_comm]
      | false =>
          refine ⟨?_, ?_, ?_, ?_⟩
          · have h := hperm (g.inPorts ++ g.body) g.outPorts []
            simpa [allNodes] using h
          all_goals intro m; simp [hin, hout, Node.isTerminal, or_comm]

theorem expectDelayWrite_eq_ok_iff {g : Graph} {w : NodeId} :
    g.expectDelayWrite w = .ok () ↔ ∃ writer, g.node? w = some writer ∧ writer.isDelayWrite = true := by
  unfold expectDelayWrite
  cases g.node? w with
  | none => simp
  | some writer => cases hw : writer.isDelayWrite <;> simp [hw]

/-- A node is added unless it would read a delay line that is not there. -/
theorem addNode_eq_ok_iff {g g' : Graph} {n : NodeId} {node : Node} :
    g.addNode node = .ok (n, g') ↔
      (∀ w, node.delay = some (.read w) → ∃ writer, g.node? w = some writer ∧ writer.isDelayWrite = true)
        ∧ n = ⟨g.nextNode⟩ ∧ g' = (g.allocate node).2.enlist ⟨g.nextNode⟩ node := by
  have hadd : (Except.ok ((g.allocate node).1, (g.allocate node).2.enlist (g.allocate node).1 node)
      : Except GraphError (NodeId × Graph)) = .ok (n, g') ↔
      n = ⟨g.nextNode⟩ ∧ g' = (g.allocate node).2.enlist ⟨g.nextNode⟩ node := by
    rw [Except.ok.injEq, Prod.mk.injEq, eq_comm, @eq_comm _ _ g']
    rfl
  unfold addNode
  dsimp only
  rcases node.delay with _ | _ | w
  · simpa using hadd
  · simpa using hadd
  · dsimp only
    cases he : g.expectDelayWrite w with
    | error e =>
        have hno : ¬ ∃ writer, g.node? w = some writer ∧ writer.isDelayWrite = true := by
          rw [← expectDelayWrite_eq_ok_iff, he]
          simp
        refine ⟨fun h => absurd h (by simp [Except.map]), ?_⟩
        rintro ⟨hlink, -⟩
        exact absurd (hlink w rfl) hno
    | ok u =>
        have hyes := expectDelayWrite_eq_ok_iff.mp he
        refine ⟨fun h => ⟨?_, hadd.mp h⟩, fun h => hadd.mpr h.2⟩
        intro w' hw'
        injection hw' with hw'
        injection hw' with hw'
        rw [← hw']
        exact hyes

theorem addsNode_enlist {g : Graph} (h : g.Numbered) (node : Node) :
    AddsNode g ⟨g.nextNode⟩ node ((g.allocate node).2.enlist ⟨g.nextNode⟩ node) := by
  refine addsNode_of_allocate h ?_ ?_ <;> unfold enlist <;> split <;> (try split) <;> rfl

theorem nextNode_enlist (g : Graph) (n : NodeId) (node : Node) : (g.enlist n node).nextNode = g.nextNode := by
  unfold enlist
  split <;> (try split) <;> rfl

theorem nextConnection_enlist (g : Graph) (n : NodeId) (node : Node) :
    (g.enlist n node).nextConnection = g.nextConnection := by
  unfold enlist
  split <;> (try split) <;> rfl

theorem WellFormed.addNode {g g' : Graph} {n : NodeId} {node : Node} (h : g.WellFormed)
    (hroom : g.NodeRoom) (hu : node.Unconnected) (hadd : g.addNode node = .ok (n, g')) : g'.WellFormed := by
  obtain ⟨hlink, -, rfl⟩ := addNode_eq_ok_iff.mp hadd
  have he : Enlists g ⟨g.nextNode⟩ node ((g.allocate node).2.enlist ⟨g.nextNode⟩ node) := by
    obtain ⟨hperm, hin, hbody, hout⟩ := enlists_enlist (g.allocate node).2 ⟨g.nextNode⟩ node
    exact ⟨hperm, hin, hbody, hout⟩
  refine h.allocated hroom hu (addsNode_enlist h.toNumbered node) he ?_ ?_ hlink
  · exact nextNode_enlist _ _ _
  · exact nextConnection_enlist _ _ _

/-! ## Inserting a terminal -/

theorem insertIdx_perm (n : NodeId) (ns : List NodeId) (position : Nat) :
    (ns.insertIdx (min position ns.length) n).Perm (n :: ns) :=
  List.perm_insertIdx _ _ (Nat.min_le_right _ _)

theorem enlists_insertTerminal (g : Graph) (d : Direction) (position : Nat) (name : String) :
    Enlists g ⟨g.nextNode⟩ (.terminal d name) (g.insertTerminal d position name).2 := by
  have hmark := Node.isTerminalOf_terminal d name
  cases d with
  | input =>
      have hin : (Node.terminal .input name).isInputTerminal = true := hmark
      have hout := Node.not_isOutputTerminal hin
      have hperm := insertIdx_perm ⟨g.nextNode⟩ g.inPorts position
      refine ⟨?_, ?_, ?_, ?_⟩
      · exact (hperm.append_right g.body).append_right g.outPorts
      · intro m
        refine hperm.mem_iff.trans ?_
        simp [hin]
      all_goals intro m; simp [insertTerminal, allocate, hin, hout, Node.isTerminal]
  | output =>
      have hout : (Node.terminal .output name).isOutputTerminal = true := hmark
      have hin := Node.isInputTerminal_terminal_output name
      have hperm := insertIdx_perm ⟨g.nextNode⟩ g.outPorts position
      refine ⟨?_, ?_, ?_, ?_⟩
      · exact (hperm.append_left (g.inPorts ++ g.body)).trans List.perm_middle
      · intro m; simp [insertTerminal, allocate, hin]
      · intro m; simp [insertTerminal, allocate, hin, hout, Node.isTerminal]
      · intro m
        refine hperm.mem_iff.trans ?_
        simp [hout]

theorem addsNode_insertTerminal {g : Graph} (h : g.Numbered) (d : Direction) (position : Nat) (name : String) :
    AddsNode g ⟨g.nextNode⟩ (.terminal d name) (g.insertTerminal d position name).2 := by
  cases d with
  | input => exact addsNode_of_allocate h rfl rfl
  | output => exact addsNode_of_allocate h rfl rfl

theorem nextNode_insertTerminal (g : Graph) (d : Direction) (position : Nat) (name : String) :
    (g.insertTerminal d position name).2.nextNode = g.nextNode + 1 := by
  cases d <;> rfl

theorem nextConnection_insertTerminal (g : Graph) (d : Direction) (position : Nat) (name : String) :
    (g.insertTerminal d position name).2.nextConnection = g.nextConnection := by
  cases d <;> rfl

theorem WellFormed.insertTerminal {g : Graph} (h : g.WellFormed) (hroom : g.NodeRoom) (d : Direction)
    (position : Nat) (name : String) : (g.insertTerminal d position name).2.WellFormed := by
  refine h.allocated hroom (Node.terminal_unconnected d name) (addsNode_insertTerminal h.toNumbered d position name)
    (enlists_insertTerminal g d position name) (nextNode_insertTerminal g d position name)
    (nextConnection_insertTerminal g d position name) ?_
  -- a terminal has no part in a delay line
  intro w hw
  cases d <;> exact absurd hw (by simp [Node.terminal, Node.ofNames])

/-! ## Putting a node in the place of another -/

/-- `g'` is `g` with another node under an identity of `g`, wired like the one before. -/
structure PutsNode (g : Graph) (n : NodeId) (node node' : Node) (g' : Graph) : Prop where
  /-- The node that was there. -/
  old : g.node? n = some node
  /-- The new node is there, and the others are as they were. -/
  node? : ∀ m, g'.node? m = if m = n then some node' else g.node? m
  /-- The marks and the connections at the ports are as they were. -/
  place : node'.SamePlace node
  /-- The connections are as they were. -/
  connection? : ∀ c, g'.connection? c = g.connection? c
  /-- The input terminals are as they were. -/
  inPorts : g'.inPorts = g.inPorts
  /-- The body is as it was. -/
  body : g'.body = g.body
  /-- The output terminals are as they were. -/
  outPorts : g'.outPorts = g.outPorts
  /-- The node counter is as it was. -/
  nextNode : g'.nextNode = g.nextNode
  /-- The connection counter is as it was. -/
  nextConnection : g'.nextConnection = g.nextConnection

section PutsNode

variable {g g' : Graph} {n : NodeId} {node node' : Node}

theorem PutsNode.outgoing? (hp : PutsNode g n node node' g') (s : OutPort) :
    g'.outgoing? s = g.outgoing? s := by
  unfold Graph.outgoing?
  rw [hp.node?]
  split
  · rename_i heq
    rw [heq, hp.old, Option.bind_some, Option.bind_some, hp.place.outgoing]
  · rfl

theorem PutsNode.incoming? (hp : PutsNode g n node node' g') (d : InPort) :
    g'.incoming? d = g.incoming? d := by
  unfold Graph.incoming?
  rw [hp.node?]
  split
  · rename_i heq
    rw [heq, hp.old, Option.bind_some, Option.bind_some, hp.place.incoming]
  · rfl

/-- What depends on the marks of a node only is as it was. -/
theorem PutsNode.exists_iff (hp : PutsNode g n node node' g') {p : Node → Prop} (hpp : p node' ↔ p node)
    (m : NodeId) :
    (∃ found, g'.node? m = some found ∧ p found) ↔ ∃ found, g.node? m = some found ∧ p found := by
  rw [hp.node?]
  by_cases hm : m = n
  · rw [if_pos hm, hm, hp.old]
    simp [hpp]
  · rw [if_neg hm]

theorem Partitioned.putsNode (h : g.Partitioned) (hp : PutsNode g n node node' g') : g'.Partitioned where
  nodup := by
    unfold allNodes
    rw [hp.inPorts, hp.body, hp.outPorts]
    exact h.nodup
  mem_inPorts := by
    intro m
    rw [hp.inPorts, h.mem_inPorts]
    have hmark : node'.isInputTerminal = node.isInputTerminal := hp.place.terminal .input
    exact (hp.exists_iff (by rw [hmark]) m).symm
  mem_body := by
    intro m
    rw [hp.body, h.mem_body]
    have hmark : node'.isTerminal = node.isTerminal := by
      unfold Node.isTerminal Node.isInputTerminal Node.isOutputTerminal
      rw [hp.place.terminal .input, hp.place.terminal .output]
    exact (hp.exists_iff (by rw [hmark]) m).symm
  mem_outPorts := by
    intro m
    rw [hp.outPorts, h.mem_outPorts]
    have hmark : node'.isOutputTerminal = node.isOutputTerminal := hp.place.terminal .output
    exact (hp.exists_iff (by rw [hmark]) m).symm

theorem Registered.putsNode (h : g.Registered) (hp : PutsNode g n node node' g') : g'.Registered := by
  refine h.of_ports hp.connection? ?_ ?_ ?_ ?_
  · intro s cs hs
    rwa [hp.outgoing?] at hs
  · intro d cs hd
    rwa [hp.incoming?] at hd
  · intro c ends hc
    rw [hp.outgoing?]
    exact h.src_listed c ends hc
  · intro c ends hc
    rw [hp.incoming?]
    exact h.dst_listed c ends hc

theorem Wired.putsNode (h : g.Wired) (hp : PutsNode g n node node' g') : g'.Wired where
  toPartitioned := h.toPartitioned.putsNode hp
  toRegistered := h.toRegistered.putsNode hp
  node_lt := by
    intro m found hm
    rw [hp.nextNode]
    obtain ⟨old, hold, -⟩ := (hp.exists_iff (p := fun _ => True) Iff.rfl m).mp ⟨found, hm, trivial⟩
    exact h.node_lt m old hold
  connection_lt := by
    intro c ends hc
    rw [hp.connection?] at hc
    rw [hp.nextConnection]
    exact h.connection_lt c ends hc
  acyclic := by
    unfold Acyclic
    rw [feeds_congr hp.connection?]
    exact h.acyclic

/-- A delay write that stays one keeps its readers linked. -/
theorem DelaysLinked.putsNode (h : g.DelaysLinked) (hp : PutsNode g n node node' g')
    (hwrite : node.isDelayWrite = true → node'.isDelayWrite = true)
    (hlink : ∀ w, node'.delay = some (.read w) → ∃ writer, g.node? w = some writer ∧ writer.isDelayWrite = true) :
    g'.DelaysLinked := by
  intro m found w hm hd
  have hold : ∃ writer, g.node? w = some writer ∧ writer.isDelayWrite = true := by
    rw [hp.node?] at hm
    split at hm
    · injection hm with hm
      subst hm
      exact hlink w hd
    · exact h m found w hm hd
  obtain ⟨writer, hw, hiw⟩ := hold
  rw [hp.node?]
  by_cases heq : w = n
  · rw [if_pos heq]
    rw [heq, hp.old] at hw
    injection hw with hw
    subst hw
    exact ⟨node', rfl, hwrite hiw⟩
  · rw [if_neg heq]
    exact ⟨writer, hw, hiw⟩

end PutsNode

theorem mem_keys_of_node? {g : Graph} {n : NodeId} {node : Node} (h : g.node? n = some node) :
    n ∈ g.arena.keys :=
  Table.mem_keys_iff.mpr ⟨node, h⟩

/-- A node can be renamed if and only if it is a terminal, and it is all that changes. -/
theorem renameTerminal_eq_ok_iff {g g' : Graph} {n : NodeId} {name : String} :
    g.renameTerminal n name = .ok g' ↔ ∃ node node', g.node? n = some node ∧ renamedTerminal? node name = some node'
      ∧ g' = { g with arena := g.arena.set n node' } := by
  unfold renameTerminal
  constructor
  · intro h
    split at h
    · exact absurd h (by simp)
    · rename_i node hnode
      split at h
      · exact absurd h (by simp)
      · rename_i node' hren
        injection h with h
        exact ⟨node, node', hnode, hren, h.symm⟩
  · rintro ⟨node, node', hnode, hren, rfl⟩
    rw [hnode]
    dsimp only
    rw [hren]

theorem putsNode_renameTerminal {g g' : Graph} {n : NodeId} {name : String}
    (h : g.renameTerminal n name = .ok g') :
    ∃ node node', renamedTerminal? node name = some node' ∧ PutsNode g n node node' g' := by
  obtain ⟨node, node', hnode, hren, rfl⟩ := renameTerminal_eq_ok_iff.mp h
  refine ⟨node, node', hren, ?_⟩
  exact {
    old := hnode
    node? := fun m => Table.get?_set _ _ _ _
    place := Node.renamedTerminal?_samePlace hren
    connection? := fun _ => rfl
    inPorts := rfl, body := rfl, outPorts := rfl, nextNode := rfl, nextConnection := rfl }

theorem WellFormed.renameTerminal {g g' : Graph} {n : NodeId} {name : String} (h : g.WellFormed)
    (hren : g.renameTerminal n name = .ok g') : g'.WellFormed := by
  obtain ⟨node, node', hname, hp⟩ := putsNode_renameTerminal hren
  have hdelay := Node.renamedTerminal?_delay hname
  refine { toWired := h.toWired.putsNode hp, delays := h.delays.putsNode hp ?_ ?_ }
  · intro hw
    unfold Node.isDelayWrite at hw ⊢
    rw [hdelay]
    exact hw
  · intro w hw
    rw [hdelay] at hw
    exact h.delays n node w hp.old hw

/-! ## Giving a reader its line -/

theorem putsNode_linkDelayRead {g : Graph} {r w : NodeId} {node : Node} (hr : g.node? r = some node)
    (hw : ∃ owner, g.node? w = some owner ∧ owner.isDelayWrite = true) :
    ∃ g', g.linkDelayRead r w = .ok g' ∧ g'.name = g.name
      ∧ PutsNode g r node { node with delay := some (.read w) } g' := by
  have hmem : g.arena.contains r = true := Table.contains_iff.mpr (mem_keys_of_node? hr)
  unfold linkDelayRead
  rw [expectDelayWrite_eq_ok_iff.mpr hw, Except.bind, if_pos hmem]
  refine ⟨_, rfl, rfl, ?_⟩
  exact {
    old := hr
    node? := by
      intro m
      refine (Table.get?_modify _ _ _ _).trans ?_
      split
      · rename_i heq
        rw [heq, show g.arena.get? r = some node from hr]
        rfl
      · rfl
    place := ⟨fun _ => rfl, rfl, rfl⟩
    connection? := fun _ => rfl
    inPorts := rfl, body := rfl, outPorts := rfl, nextNode := rfl, nextConnection := rfl }

/-- The owner of a line must not become a reader. -/
theorem WellFormed.putsReader {g g' : Graph} {r w : NodeId} {node : Node} (h : g.WellFormed)
    (hp : PutsNode g r node { node with delay := some (.read w) } g') (hnot : node.delay ≠ some .write)
    (hw : ∃ owner, g.node? w = some owner ∧ owner.isDelayWrite = true) : g'.WellFormed := by
  refine { toWired := h.toWired.putsNode hp, delays := h.delays.putsNode hp ?_ ?_ }
  · exact fun hwrite => absurd (Node.isDelayWrite_iff.mp hwrite) hnot
  · rintro w' hw'
    injection hw' with hw'
    injection hw' with hw'
    exact hw' ▸ hw

end Graph

end SignalGraph
