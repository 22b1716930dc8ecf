import SignalGraph.Proofs.Graph.Adding
import SignalGraph.Proofs.Graph.Search

/-!
# Making and dropping connections

Both edits change the list of one output and the list of one input and leave every node otherwise as it was.
`Relists` says so once for both. A new connection closes no cycle because the search found no path from its
destination back to its source: a chain through the new connection would contain one.
-/

namespace SignalGraph

namespace Graph

/-! ## Changing the lists at two ports -/

/-- `g'` is `g` with the lists at the two ends of a connection changed. -/
structure Relists (g : Graph) (ends : Connection) (change : List ConnectionId → List ConnectionId)
    (g' : Graph) : Prop where
  /-- The list of the source changes, the other outputs keep theirs. -/
  outgoing? : ∀ s, g'.outgoing? s = (g.outgoing? s).map fun cs => if s = ends.src then change cs else cs
  /-- The list of the destination changes, the other inputs keep theirs. -/
  incoming? : ∀ d, g'.incoming? d = (g.incoming? d).map fun cs => if d = ends.dst then change cs else cs
  /-- But for their connections the nodes are as they were. -/
  bare : ∀ n, (g'.node? n).map Node.bare = (g.node? n).map Node.bare
  /-- The input terminals are as they were. -/
  inPorts : g'.inPorts = g.inPorts
  /-- The body is as it was. -/
  body : g'.body = g.body
  /-- The output terminals are as they were. -/
  outPorts : g'.outPorts = g.outPorts
  /-- The node counter is as it was. -/
  nextNode : g'.nextNode = g.nextNode

section Relists

variable {g g' : Graph} {ends : Connection} {change : List ConnectionId → List ConnectionId}

theorem outgoing_modifyOutput {f : Port → Port} (hf : ∀ p, (f p).connections = change p.connections)
    (node : Node) (i j : Nat) : (node.modifyOutput i f).outgoing[j]? =
      (node.outgoing[j]?).map fun cs => if j = i then change cs else cs := by
  unfold Node.outgoing Node.modifyOutput
  rw [List.getElem?_map, List.getElem?_map, List.getElem?_modify]
  cases node.outputs[j]? with
  | none => rfl
  | some p =>
      by_cases hj : i = j
      · simp [hj, hf]
      · simp [hj, Ne.symm hj]

theorem incoming_modifyInput {f : Port → Port} (hf : ∀ p, (f p).connections = change p.connections)
    (node : Node) (i j : Nat) : (node.modifyInput i f).incoming[j]? =
      (node.incoming[j]?).map fun cs => if j = i then change cs else cs := by
  unfold Node.incoming Node.modifyInput
  rw [List.getElem?_map, List.getElem?_map, List.getElem?_modify]
  cases node.inputs[j]? with
  | none => rfl
  | some p =>
      by_cases hj : i = j
      · simp [hj, hf]
      · simp [hj, Ne.symm hj]

/-- The arena after the same change of a port at either end of a connection. -/
def relistedArena (g : Graph) (ends : Connection) (f : Port → Port) : Table NodeId Node :=
  (g.arena.modify ends.src.node (·.modifyOutput ends.src.index f)).modify
    ends.dst.node (·.modifyInput ends.dst.index f)

/-- What such a change makes of a node. -/
def relistedNode (ends : Connection) (f : Port → Port) (n : NodeId) (node : Node) : Node :=
  let sent := if n = ends.src.node then node.modifyOutput ends.src.index f else node
  if n = ends.dst.node then sent.modifyInput ends.dst.index f else sent

theorem get?_relistedArena (g : Graph) (ends : Connection) (f : Port → Port) (n : NodeId) :
    (g.relistedArena ends f).get? n = (g.node? n).map (relistedNode ends f n) := by
  unfold relistedArena relistedNode Graph.node?
  rw [Table.get?_modify, Table.get?_modify]
  cases g.arena.get? n with
  | none => simp
  | some node =>
      simp only [Option.map_some]
      split <;> split <;> rfl

theorem outgoing_relistedNode {f : Port → Port} (hf : ∀ p, (f p).connections = change p.connections)
    (s : OutPort) (node : Node) : (relistedNode ends f s.node node).outgoing[s.index]? =
      (node.outgoing[s.index]?).map fun cs => if s = ends.src then change cs else cs := by
  obtain ⟨⟨src, i⟩, ⟨dst, j⟩⟩ := ends
  obtain ⟨n, k⟩ := s
  unfold relistedNode
  -- the change at the input does not show at an output
  have hsame : ∀ m : Node, (if n = dst then m.modifyInput j f else m).outgoing = m.outgoing := by
    intro m
    split <;> rfl
  dsimp only
  rw [hsame]
  by_cases hn : n = src
  · rw [if_pos hn, outgoing_modifyOutput hf]
    subst hn
    simp
  · rw [if_neg hn]
    simp [hn]

theorem incoming_relistedNode {f : Port → Port} (hf : ∀ p, (f p).connections = change p.connections)
    (d : InPort) (node : Node) : (relistedNode ends f d.node node).incoming[d.index]? =
      (node.incoming[d.index]?).map fun cs => if d = ends.dst then change cs else cs := by
  obtain ⟨⟨src, i⟩, ⟨dst, j⟩⟩ := ends
  obtain ⟨n, k⟩ := d
  unfold relistedNode
  have hsame : (if n = src then node.modifyOutput i f else node).incoming = node.incoming := by
    split <;> rfl
  dsimp only
  by_cases hn : n = dst
  · rw [if_pos hn, incoming_modifyInput hf, hsame]
    subst hn
    simp
  · rw [if_neg hn, hsame]
    simp [hn]

theorem bare_relistedNode {f : Port → Port} (hname : ∀ p, (f p).name = p.name) (n : NodeId) (node : Node) :
    (relistedNode ends f n node).bare = node.bare := by
  have hsent : (if n = ends.src.node then node.modifyOutput ends.src.index f else node).bare = node.bare := by
    split
    · exact Node.bare_modifyOutput hname _ _
    · rfl
  unfold relistedNode
  dsimp only
  split
  · exact (Node.bare_modifyInput hname _ _).trans hsent
  · exact hsent

/-- Both edits are a change of the arena by which ports get other lists and keep their names. -/
theorem relists_of_arena {f : Port → Port} (hname : ∀ p, (f p).name = p.name)
    (hf : ∀ p, (f p).connections = change p.connections) (harena : g'.arena = g.relistedArena ends f)
    (hin : g'.inPorts = g.inPorts) (hbody : g'.body = g.body) (hout : g'.outPorts = g.outPorts)
    (hnext : g'.nextNode = g.nextNode) : Relists g ends change g' := by
  have hnode : ∀ n, g'.node? n = (g.node? n).map (relistedNode ends f n) := by
    intro n
    rw [← get?_relistedArena, ← harena]
    rfl
  refine ⟨?_, ?_, ?_, hin, hbody, hout, hnext⟩
  · intro s
    unfold Graph.outgoing?
    rw [hnode]
    cases g.node? s.node with
    | none => rfl
    | some node => exact outgoing_relistedNode hf s node
  · intro d
    unfold Graph.incoming?
    rw [hnode]
    cases g.node? d.node with
    | none => rfl
    | some node => exact incoming_relistedNode hf d node
  · intro n
    rw [hnode, Option.map_map]
    exact congrArg (fun view => (g.node? n).map view) (funext fun node => bare_relistedNode hname n node)

theorem exists_bare_of_map_eq {a b : Option Node} (h : a.map Node.bare = b.map Node.bare) {node : Node}
    (ha : a = some node) : ∃ old, b = some old ∧ node.bare = old.bare := by
  rw [ha, Option.map_some] at h
  obtain ⟨old, hold, heq⟩ := Option.map_eq_some_iff.mp h.symm
  exact ⟨old, hold, heq.symm⟩

theorem Relists.node?_bare (hr : Relists g ends change g') {n : NodeId} {node : Node}
    (h : g'.node? n = some node) : ∃ old, g.node? n = some old ∧ node.bare = old.bare :=
  exists_bare_of_map_eq (hr.bare n) h

/-- What depends on the bare node only is as it was. -/
theorem Relists.exists_iff (hr : Relists g ends change g') {p : Node → Prop}
    (hp : ∀ m m' : Node, m.bare = m'.bare → (p m ↔ p m')) (n : NodeId) :
    (∃ node, g'.node? n = some node ∧ p node) ↔ ∃ node, g.node? n = some node ∧ p node := by
  constructor
  · rintro ⟨node, hn, hnode⟩
    obtain ⟨old, hold, heq⟩ := exists_bare_of_map_eq (hr.bare n) hn
    exact ⟨old, hold, (hp _ _ heq).mp hnode⟩
  · rintro ⟨node, hn, hnode⟩
    obtain ⟨new, hnew, heq⟩ := exists_bare_of_map_eq (hr.bare n).symm hn
    exact ⟨new, hnew, (hp _ _ heq).mp hnode⟩

theorem Partitioned.relists (h : g.Partitioned) (hr : Relists g ends change g') : g'.Partitioned where
  nodup := by
    unfold allNodes
    rw [hr.inPorts, hr.body, hr.outPorts]
    exact h.nodup
  mem_inPorts := by
    intro n
    rw [hr.inPorts, h.mem_inPorts]
    refine (hr.exists_iff ?_ n).symm
    intro m m' heq
    rw [show m.isInputTerminal = m'.isInputTerminal from Node.isTerminalOf_of_bare_eq heq .input]
  mem_body := by
    intro n
    rw [hr.body, h.mem_body]
    refine (hr.exists_iff ?_ n).symm
    intro m m' heq
    unfold Node.isTerminal Node.isInputTerminal Node.isOutputTerminal
    rw [Node.isTerminalOf_of_bare_eq heq .input, Node.isTerminalOf_of_bare_eq heq .output]
  mem_outPorts := by
    intro n
    rw [hr.outPorts, h.mem_outPorts]
    refine (hr.exists_iff ?_ n).symm
    intro m m' heq
    rw [show m.isOutputTerminal = m'.isOutputTerminal from Node.isTerminalOf_of_bare_eq heq .output]

theorem DelaysLinked.relists (h : g.DelaysLinked) (hr : Relists g ends change g') : g'.DelaysLinked := by
  intro n node w hn hd
  obtain ⟨old, hold, heq⟩ := exists_bare_of_map_eq (hr.bare n) hn
  rw [Node.delay_of_bare_eq heq] at hd
  refine (hr.exists_iff ?_ w).mpr (h n old w hold hd)
  intro m m' heq'
  rw [Node.isDelayWrite_of_bare_eq heq']

theorem Relists.exists_outgoing? (hr : Relists g ends change g') {s : OutPort} :
    (∃ cs, g'.outgoing? s = some cs) ↔ ∃ cs, g.outgoing? s = some cs := by
  rw [hr.outgoing?]
  cases g.outgoing? s <;> simp

theorem Relists.exists_incoming? (hr : Relists g ends change g') {d : InPort} :
    (∃ cs, g'.incoming? d = some cs) ↔ ∃ cs, g.incoming? d = some cs := by
  rw [hr.incoming?]
  cases g.incoming? d <;> simp

end Relists

/-! ## Connecting -/

/-- The graph with a further connection. -/
def join (g : Graph) (src : OutPort) (dst : InPort) : Graph :=
  { g with
    arena := g.relistedArena ⟨src, dst⟩ (·.register ⟨g.nextConnection⟩)
    connections := g.connections.set ⟨g.nextConnection⟩ ⟨src, dst⟩
    nextConnection := g.nextConnection + 1 }

/-- Exactly when two ports can be connected, and what comes of it. -/
theorem connect_eq_ok_iff {g g' : Graph} {c : ConnectionId} {src : OutPort} {dst : InPort} :
    g.connect src dst = .ok (c, g') ↔
      (∃ cs, g.outgoing? src = some cs) ∧ g.incoming? dst = some []
        ∧ g.isOrPrecedes dst.node src.node = false ∧ c = ⟨g.nextConnection⟩ ∧ g' = g.join src dst := by
  unfold connect
  -- one case for each check of `connect`, in its order; on the right the same part of the condition fails
  cases hs : g.node? src.node with
  | none => simp [Graph.outgoing?, hs]
  | some source =>
      have hsrc : (∃ cs, g.outgoing? src = some cs) ↔ src.index < source.outputs.length := by
        rw [exists_outgoing?_iff, hs]
        simp
      dsimp only
      rw [hsrc]
      by_cases hlen : source.outputs.length ≤ src.index
      · rw [if_pos hlen]
        simp [Nat.not_lt.mpr hlen]
      · rw [if_neg hlen]
        cases hd : g.node? dst.node with
        | none => simp [Graph.incoming?, hd]
        | some target =>
            have hdst : g.incoming? dst = (target.inputs[dst.index]?).map (·.connections) := by
              rw [show g.incoming? dst = target.incoming[dst.index]? from incoming?_of_node? hd dst.index]
              unfold Node.incoming
              rw [List.getElem?_map]
            dsimp only
            rw [hdst]
            cases target.inputs[dst.index]? with
            | none => simp
            | some port =>
                have hfree : port.accepts .input = true ↔ port.connections = [] := List.isEmpty_iff
                dsimp only [Option.map_some]
                cases hacc : port.accepts .input with
                | false =>
                    have hne : port.connections ≠ [] := by
                      rw [Ne, ← hfree, hacc]
                      simp
                    simp [hne]
                | true =>
                    have hnil := hfree.mp hacc
                    cases hpath : g.isOrPrecedes dst.node src.node with
                    | true => simp
                    | false =>
                        have hlt := Nat.lt_of_not_le hlen
                        simp only [Bool.not_true, Bool.false_eq_true, if_false, Except.ok.injEq, Prod.mk.injEq,
                          hnil, hlt, true_and]
                        rw [eq_comm, @eq_comm _ _ g']
                        rfl

/-- `g'` is `g` with a new connection. -/
structure Joins (g : Graph) (c : ConnectionId) (ends : Connection) (g' : Graph) : Prop
    extends Relists g ends (· ++ [c]) g' where
  /-- The identity was free. -/
  fresh : g.connection? c = none
  /-- The connection is there, and the others are as they were. -/
  connection? : ∀ c', g'.connection? c' = if c' = c then some ends else g.connection? c'
  /-- The source is a port of the graph. -/
  src_listed : ∃ cs, g.outgoing? ends.src = some cs
  /-- The destination had no source. -/
  dst_free : g.incoming? ends.dst = some []

theorem Numbered.fresh_connection {g : Graph} (h : g.Numbered) : g.connection? ⟨g.nextConnection⟩ = none := by
  cases hc : g.connection? ⟨g.nextConnection⟩ with
  | none => rfl
  | some ends => exact absurd (h.connection_lt _ _ hc) (UInt32.lt_irrefl _)

theorem joins_join {g : Graph} {src : OutPort} {dst : InPort} (h : g.Numbered)
    (hsrc : ∃ cs, g.outgoing? src = some cs) (hdst : g.incoming? dst = some []) :
    Joins g ⟨g.nextConnection⟩ ⟨src, dst⟩ (g.join src dst) where
  toRelists := relists_of_arena (f := (·.register ⟨g.nextConnection⟩)) (fun _ => rfl) (fun _ => rfl) rfl rfl rfl
    rfl rfl
  fresh := h.fresh_connection
  connection? := fun _ => Table.get?_set _ _ _ _
  src_listed := hsrc
  dst_free := hdst

section Joins

variable {g g' : Graph} {c : ConnectionId} {ends : Connection}

theorem Joins.connection?_self (hj : Joins g c ends g') : g'.connection? c = some ends := by
  rw [hj.connection?, if_pos rfl]

theorem Joins.connection?_of_some (hj : Joins g c ends g') {c' : ConnectionId} {ends' : Connection}
    (h : g.connection? c' = some ends') : g'.connection? c' = some ends' := by
  have hne : c' ≠ c := by
    rintro rfl
    rw [hj.fresh] at h
    exact absurd h (by simp)
  rw [hj.connection?, if_neg hne, h]

theorem Joins.connection?_cases (hj : Joins g c ends g') {c' : ConnectionId} {ends' : Connection}
    (h : g'.connection? c' = some ends') : (c' = c ∧ ends' = ends) ∨ g.connection? c' = some ends' := by
  rw [hj.connection?] at h
  split at h
  · rename_i heq
    injection h with h
    exact Or.inl ⟨heq, h.symm⟩
  · exact Or.inr h

/-- With the new connection at its ends, a port still lists what has its end there. -/
theorem Joins.mem_iff (hj : Joins g c ends g') {π : Type} [DecidableEq π] (place : Connection → π) {p : π}
    {cs : List ConnectionId} (h : ∀ c', c' ∈ cs ↔ ∃ ends', g.connection? c' = some ends' ∧ place ends' = p)
    (c' : ConnectionId) : c' ∈ (if p = place ends then cs ++ [c] else cs) ↔
      ∃ ends', g'.connection? c' = some ends' ∧ place ends' = p := by
  rw [hj.connection?]
  by_cases hc : c' = c
  · subst hc
    have hnot : c' ∉ cs := by
      rw [h, hj.fresh]
      simp
    by_cases hp : p = place ends <;> simp [hp, hnot, eq_comm]
  · rw [if_neg hc, ← h]
    by_cases hp : p = place ends <;> simp [hp, hc]

theorem Joins.connects_iff (hj : Joins g c ends g') {s : OutPort} {d : InPort} :
    g'.Connects s d ↔ (s = ends.src ∧ d = ends.dst) ∨ g.Connects s d := by
  constructor
  · rintro ⟨c', hc'⟩
    rcases hj.connection?_cases hc' with ⟨-, rfl⟩ | hold
    · exact Or.inl ⟨rfl, rfl⟩
    · exact Or.inr ⟨c', hold⟩
  · rintro (⟨rfl, rfl⟩ | ⟨c', hc'⟩)
    · exact ⟨c, hj.connection?_self⟩
    · exact ⟨c', hj.connection?_of_some hc'⟩

theorem Joins.feeds_cases (hj : Joins g c ends g') {a b : NodeId} (h : g'.Feeds a b) :
    g.Feeds a b ∨ (a = ends.src.node ∧ b = ends.dst.node) := by
  obtain ⟨c', ends', hc', rfl, rfl⟩ := h
  rcases hj.connection?_cases hc' with ⟨-, rfl⟩ | hold
  · exact Or.inr ⟨rfl, rfl⟩
  · exact Or.inl ⟨c', ends', hold, rfl, rfl⟩

/-- A chain of the larger graph is one of the smaller graph, or it runs through the new connection. -/
theorem Joins.transGen_cases (hj : Joins g c ends g') {a b : NodeId} (h : Relation.TransGen g'.Feeds a b) :
    Relation.TransGen g.Feeds a b ∨ (g.Reaches a ends.src.node ∧ g.Reaches ends.dst.node b) := by
  induction h with
  | single hab =>
      rcases hj.feeds_cases hab with hold | ⟨rfl, rfl⟩
      · exact Or.inl (Relation.TransGen.single hold)
      · exact Or.inr ⟨Relation.ReflTransGen.refl, Relation.ReflTransGen.refl⟩
  | tail _ hstep ih =>
      rcases hj.feeds_cases hstep with hold | ⟨rfl, rfl⟩
      · rcases ih with hchain | ⟨hto, hfrom⟩
        · exact Or.inl (hchain.tail hold)
        · exact Or.inr ⟨hto, hfrom.tail hold⟩
      · rcases ih with hchain | ⟨hto, -⟩
        · exact Or.inr ⟨hchain.to_reflTransGen, Relation.ReflTransGen.refl⟩
        · exact Or.inr ⟨hto, Relation.ReflTransGen.refl⟩

theorem Acyclic.joins (h : g.Acyclic) (hj : Joins g c ends g')
    (hno : ¬ g.Reaches ends.dst.node ends.src.node) : g'.Acyclic := by
  intro n hn
  -- a cycle is an old one, or it runs over the new connection and comes back
  rcases hj.transGen_cases hn with hold | ⟨hto, hfrom⟩
  · exact h n hold
  · exact hno (hfrom.trans hto)

theorem Registered.joins (h : g.Registered) (hj : Joins g c ends g') : g'.Registered where
  src_listed := by
    intro c' ends' hc'
    rw [hj.exists_outgoing?]
    rcases hj.connection?_cases hc' with ⟨-, rfl⟩ | hold
    · exact hj.src_listed
    · exact h.src_listed c' ends' hold
  dst_listed := by
    intro c' ends' hc'
    rw [hj.exists_incoming?]
    rcases hj.connection?_cases hc' with ⟨-, rfl⟩ | hold
    · exact ⟨[], hj.dst_free⟩
    · exact h.dst_listed c' ends' hold
  mem_outgoing := by
    intro s cs c' hs
    rw [hj.outgoing?] at hs
    obtain ⟨old, hold, rfl⟩ := Option.map_eq_some_iff.mp hs
    exact hj.mem_iff Connection.src (fun c' => h.mem_outgoing s old c' hold) c'
  mem_incoming := by
    intro d cs c' hd
    rw [hj.incoming?] at hd
    obtain ⟨old, hold, rfl⟩ := Option.map_eq_some_iff.mp hd
    exact hj.mem_iff Connection.dst (fun c' => h.mem_incoming d old c' hold) c'
  outgoing_nodup := by
    intro s cs hs
    rw [hj.outgoing?] at hs
    obtain ⟨old, hold, rfl⟩ := Option.map_eq_some_iff.mp hs
    have hnodup := h.outgoing_nodup s old hold
    -- a list of the graph names connections of the graph only
    have hnot : c ∉ old := by
      rw [h.mem_outgoing s old c hold, hj.fresh]
      simp
    split
    · rw [← List.concat_eq_append]
      exact List.Nodup.concat hnot hnodup
    · exact hnodup
  incoming_length := by
    intro d cs hd
    rw [hj.incoming?] at hd
    obtain ⟨old, hold, rfl⟩ := Option.map_eq_some_iff.mp hd
    split
    · -- the destination had none, so it has one now
      rename_i heq
      rw [heq, hj.dst_free] at hold
      injection hold with hold
      simp [← hold]
    · exact h.incoming_length d old hold

theorem Wired.joins (h : g.Wired) (hj : Joins g c ends g') (hroom : g.ConnectionRoom)
    (hc : c = ⟨g.nextConnection⟩) (hnext : g'.nextConnection = g.nextConnection + 1)
    (hno : ¬ g.Reaches ends.dst.node ends.src.node) : g'.Wired where
  toPartitioned := h.toPartitioned.relists hj.toRelists
  toRegistered := h.toRegistered.joins hj
  toNumbered := by
    refine ⟨?_, ?_⟩
    · intro n node hn
      obtain ⟨old, hold, -⟩ := hj.toRelists.node?_bare hn
      rw [hj.nextNode]
      exact h.node_lt n old hold
    · intro c' ends' hc'
      rw [hnext]
      rcases hj.connection?_cases hc' with ⟨heq, -⟩ | hold
      · rw [heq, hc]
        exact lt_add_one_of_room hroom (UInt32.le_refl _)
      · exact lt_add_one_of_room hroom (UInt32.le_of_lt (h.connection_lt c' ends' hold))
  acyclic := h.acyclic.joins hj hno

end Joins

theorem joins_connect {g g' : Graph} {c : ConnectionId} {src : OutPort} {dst : InPort} (h : g.Numbered)
    (hc : g.connect src dst = .ok (c, g')) : Joins g c ⟨src, dst⟩ g' := by
  obtain ⟨hsrc, hdst, -, rfl, rfl⟩ := connect_eq_ok_iff.mp hc
  exact joins_join h hsrc hdst

theorem WellFormed.connect {g g' : Graph} {c : ConnectionId} {src : OutPort} {dst : InPort}
    (h : g.WellFormed) (hroom : g.ConnectionRoom) (hc : g.connect src dst = .ok (c, g')) : g'.WellFormed := by
  have hj := joins_connect h.toNumbered hc
  obtain ⟨-, -, hpath, hid, heq⟩ := connect_eq_ok_iff.mp hc
  have hno : ¬ g.Reaches dst.node src.node := by
    rw [← isOrPrecedes_iff h.toRegistered, hpath]
    simp
  have hnext : g'.nextConnection = g.nextConnection + 1 := by rw [heq]; rfl
  exact { toWired := h.toWired.joins hj hroom hid hnext hno, delays := h.delays.relists hj.toRelists }

/-! ## Dropping a connection -/

/-- `g'` is `g` without a connection. -/
structure Drops (g : Graph) (c : ConnectionId) (ends : Connection) (g' : Graph) : Prop
    extends Relists g ends (·.filter (· ≠ c)) g' where
  /-- The connection was there. -/
  old : g.connection? c = some ends
  /-- The connection is gone, and the others are as they were. -/
  connection? : ∀ c', g'.connection? c' = if c' = c then none else g.connection? c'
  /-- The connection counter is as it was. -/
  nextConnection : g'.nextConnection = g.nextConnection

theorem drops_dropConnection {g : Graph} {c : ConnectionId} {ends : Connection}
    (h : g.connection? c = some ends) : Drops g c ends (g.dropConnection c ends) where
  toRelists := relists_of_arena (f := (·.deregister c)) (fun _ => rfl) (fun _ => rfl) rfl rfl rfl rfl rfl
  old := h
  connection? := fun _ => Table.get?_erase _ _ _
  nextConnection := rfl

section Drops

variable {g g' : Graph} {c : ConnectionId} {ends : Connection}

theorem Drops.connection?_of_some (hd : Drops g c ends g') {c' : ConnectionId} {ends' : Connection}
    (h : g'.connection? c' = some ends') : c' ≠ c ∧ g.connection? c' = some ends' := by
  rw [hd.connection?] at h
  split at h
  · exact absurd h (by simp)
  · rename_i hne
    exact ⟨hne, h⟩

/-- Without the connection, a port still lists what has its end there: only the two ends listed it. -/
theorem Drops.mem_iff (hd : Drops g c ends g') {π : Type} [DecidableEq π] (place : Connection → π) {p : π}
    {cs : List ConnectionId} (h : ∀ c', c' ∈ cs ↔ ∃ ends', g.connection? c' = some ends' ∧ place ends' = p)
    (c' : ConnectionId) : c' ∈ (if p = place ends then cs.filter (· ≠ c) else cs) ↔
      ∃ ends', g'.connection? c' = some ends' ∧ place ends' = p := by
  rw [hd.connection?]
  by_cases hc : c' = c
  · subst hc
    by_cases hp : p = place ends
    · simp [hp]
    · have hnot : c' ∉ cs := by
        rw [h, hd.old]
        simpa using fun heq => hp heq.symm
      simp [hp, hnot]
  · rw [if_neg hc, ← h]
    by_cases hp : p = place ends <;> simp [hp, hc]

theorem Acyclic.mono (h : g.Acyclic) (hsub : ∀ c' ends', g'.connection? c' = some ends' →
    g.connection? c' = some ends') : g'.Acyclic := by
  intro n hn
  have hfeeds : ∀ a b, g'.Feeds a b → g.Feeds a b := by
    rintro a b ⟨c', ends', hc', ha, hb⟩
    exact ⟨c', ends', hsub c' ends' hc', ha, hb⟩
  exact h n (Relation.TransGen.mono hfeeds n n hn)

theorem Registered.drops (h : g.Registered) (hd : Drops g c ends g') : g'.Registered where
  src_listed := by
    intro c' ends' hc'
    rw [hd.exists_outgoing?]
    exact h.src_listed c' ends' (hd.connection?_of_some hc').2
  dst_listed := by
    intro c' ends' hc'
    rw [hd.exists_incoming?]
    exact h.dst_listed c' ends' (hd.connection?_of_some hc').2
  mem_outgoing := by
    intro s cs c' hs
    rw [hd.outgoing?] at hs
    obtain ⟨old, hold, rfl⟩ := Option.map_eq_some_iff.mp hs
    exact hd.mem_iff Connection.src (fun c' => h.mem_outgoing s old c' hold) c'
  mem_incoming := by
    intro d cs c' hdst
    rw [hd.incoming?] at hdst
    obtain ⟨old, hold, rfl⟩ := Option.map_eq_some_iff.mp hdst
    exact hd.mem_iff Connection.dst (fun c' => h.mem_incoming d old c' hold) c'
  outgoing_nodup := by
    intro s cs hs
    rw [hd.outgoing?] at hs
    obtain ⟨old, hold, rfl⟩ := Option.map_eq_some_iff.mp hs
    have hnodup := h.outgoing_nodup s old hold
    split
    · exact hnodup.filter _
    · exact hnodup
  incoming_length := by
    intro d cs hdst
    rw [hd.incoming?] at hdst
    obtain ⟨old, hold, rfl⟩ := Option.map_eq_some_iff.mp hdst
    have hlen := h.incoming_length d old hold
    split
    · exact Nat.le_trans (List.length_filter_le _ _) hlen
    · exact hlen

theorem Wired.drops (h : g.Wired) (hd : Drops g c ends g') : g'.Wired where
  toPartitioned := h.toPartitioned.relists hd.toRelists
  toRegistered := h.toRegistered.drops hd
  toNumbered := by
    refine ⟨?_, ?_⟩
    · intro n node hn
      obtain ⟨old, hold, -⟩ := hd.toRelists.node?_bare hn
      rw [hd.nextNode]
      exact h.node_lt n old hold
    · intro c' ends' hc'
      rw [hd.nextConnection]
      exact h.connection_lt c' ends' (hd.connection?_of_some hc').2
  acyclic := h.acyclic.mono fun _ _ hc' => (hd.connection?_of_some hc').2

end Drops

theorem drops_disconnect {g g' : Graph} {c : ConnectionId} {ends : Connection}
    (hdis : g.disconnect c = some (ends, g')) : Drops g c ends g' := by
  obtain ⟨found, hfound, heq⟩ := Option.map_eq_some_iff.mp hdis
  injection heq with hends hg
  subst hends hg
  exact drops_dropConnection hfound

theorem WellFormed.disconnect {g g' : Graph} {c : ConnectionId} {ends : Connection} (h : g.WellFormed)
    (hdis : g.disconnect c = some (ends, g')) : g'.WellFormed := by
  have hd := drops_disconnect hdis
  exact { toWired := h.toWired.drops hd, delays := h.delays.relists hd.toRelists }

end Graph

end SignalGraph
