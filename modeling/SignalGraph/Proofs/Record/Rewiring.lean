import SignalGraph.Proofs.Record.Loading
import SignalGraph.Proofs.Shapes

/-!
# Making the connections of a record

The third pass of a reader makes the connections of the table, one after the other. `Rewired` says that the
graph has the nodes of the graph that was written, and of its connections those whose turn it was. So far no
input is connected twice, and a path from one node to another is one in the graph that was written; that graph
has no cycle, so the next connection closes none. At the end the two graphs are the same up to numbers.
-/

namespace SignalGraph

variable {resolve : Origin → Option Capability}

namespace Graph

variable {g : Graph}

/-- The nodes of `g` under the numbers of their places, with some of the connections of `g`. -/
structure Rewired (g : Graph) (made : List Connection) (h : Graph) : Prop extends SameNodes g.placed g h where
  /-- The invariant holds throughout. -/
  wellFormed : h.WellFormed
  /-- The connections are those that were made. -/
  connects : ∀ s d, h.Connects s d ↔
    ∃ ends ∈ made, ends.src.renumber g.placed = s ∧ ends.dst.renumber g.placed = d
  /-- As many numbers are taken as there are connections. -/
  nextConnection : h.nextConnection.toNat = made.length

/-! ## The graph before the first connection -/

/-- What the middle of a list without repetition holds. -/
theorem filter_mem_middle (xs ys zs : List NodeId) (h : (xs ++ ys ++ zs).Nodup) :
    (xs ++ ys ++ zs).filter (· ∈ ys) = ys := by
  obtain ⟨hxy, -, hz⟩ := List.nodup_append.mp h
  obtain ⟨-, -, hx⟩ := List.nodup_append.mp hxy
  have hleft : xs.filter (· ∈ ys) = [] := by
    rw [List.filter_eq_nil_iff]
    intro n hn
    simpa using fun hy => hx n hn n hy rfl
  have hmiddle : ys.filter (· ∈ ys) = ys := by
    rw [List.filter_eq_self]
    intro n hn
    exact decide_eq_true hn
  have hright : zs.filter (· ∈ ys) = [] := by
    rw [List.filter_eq_nil_iff]
    intro n hn
    simpa using fun hy => hz n (List.mem_append_right _ hy) n hn rfl
  rw [List.filter_append, List.filter_append, hleft, hmiddle, hright, List.nil_append, List.append_nil]

theorem Shell.rewired {h : Graph} (hs : Shell g g.allNodes (fun _ node => node.bare.renumber g.placed) h)
    (hwf : g.WellFormed) : Rewired g [] h where
  name := hs.name
  injective := hwf.placed_injective
  inPorts := by
    rw [hs.inPorts]
    have hin := filter_mem_middle [] g.inPorts (g.body ++ g.outPorts) (by simpa [allNodes] using hwf.nodup)
    rw [show g.allNodes = [] ++ g.inPorts ++ (g.body ++ g.outPorts) by simp [allNodes], hin]
  body := by
    rw [hs.body]
    unfold allNodes
    rw [filter_mem_middle _ _ _ hwf.nodup]
  outPorts := by
    rw [hs.outPorts]
    have hout := filter_mem_middle (g.inPorts ++ g.body) g.outPorts [] (by simpa [allNodes] using hwf.nodup)
    rw [show g.allNodes = g.inPorts ++ g.body ++ g.outPorts ++ [] by simp [allNodes], hout]
  node? := by
    intro n node hn
    refine ⟨_, hs.node? n (hwf.mem_allNodes.mpr ⟨node, hn⟩) node hn, ?_⟩
    -- the node has no connection to lose
    exact Node.Unconnected.bare_eq node.bare_unconnected
  wellFormed := hs.wellFormed
  connects := by
    intro s d
    constructor
    · rintro ⟨c, hc⟩
      rw [hs.connection?] at hc
      exact absurd hc (by simp)
    · rintro ⟨ends, hmem, -⟩
      exact absurd hmem (by simp)
  nextConnection := by
    rw [hs.nextConnection]
    rfl

/-! ## One connection -/

theorem Rewired.reaches {made : List Connection} {h : Graph} (hr : Rewired g made h) (hwf : g.WellFormed)
    (hmade : ∀ ends ∈ made, g.Connects ends.src ends.dst) {b : NodeId} (hb : b ∈ g.allNodes) {x : NodeId}
    (hpath : h.Reaches (g.placed b) x) : ∃ a ∈ g.allNodes, g.placed a = x ∧ g.Reaches b a := by
  induction hpath with
  | refl => exact ⟨b, hb, rfl, Relation.ReflTransGen.refl⟩
  | tail _ hstep ih =>
      obtain ⟨m, hm, rfl, hpath⟩ := ih
      obtain ⟨c, ends', hc, hsrc, rfl⟩ := hstep
      obtain ⟨ends, hends, hs, hd⟩ := (hr.connects ends'.src ends'.dst).mp ⟨c, hc⟩
      have hconn := hmade ends hends
      obtain ⟨hsmem, hdmem⟩ := hwf.mem_of_connects hconn
      have hm' : ends.src.node = m := by
        refine hwf.placed_injective _ hsmem m hm ?_
        rw [← hsrc, ← hs]
        rfl
      refine ⟨ends.dst.node, hdmem, by rw [← hd]; rfl, hpath.tail ?_⟩
      obtain ⟨c₀, hc₀⟩ := hconn
      exact ⟨c₀, ⟨ends.src, ends.dst⟩, hc₀, hm', rfl⟩

/-- The ends of a connection are ports of the nodes under their other numbers. -/
theorem SameNodes.ports {ρ : NodeId → NodeId} {h : Graph} (hsame : SameNodes ρ g h) (hwf : g.WellFormed) {s : OutPort}
    {d : InPort} (hc : g.Connects s d) :
    (∃ cs, h.outgoing? (s.renumber ρ) = some cs) ∧ ∃ cs, h.incoming? (d.renumber ρ) = some cs := by
  obtain ⟨c, hc⟩ := hc
  refine ⟨?_, ?_⟩
  · obtain ⟨node, hnode, hlt⟩ := exists_outgoing?_iff.mp (hwf.src_listed c _ hc)
    obtain ⟨node', hnode', -⟩ := hsame.node? _ node hnode
    exact exists_outgoing?_iff.mpr ⟨node', hnode', by rw [(hsame.lengths hnode hnode').2]; exact hlt⟩
  · obtain ⟨node, hnode, hlt⟩ := exists_incoming?_iff.mp (hwf.dst_listed c _ hc)
    obtain ⟨node', hnode', -⟩ := hsame.node? _ node hnode
    exact exists_incoming?_iff.mpr ⟨node', hnode', by rw [(hsame.lengths hnode hnode').1]; exact hlt⟩

section Connect

variable {done todo : List Connection} {ends : Connection} {h : Graph}

theorem WellFormed.connects_of_split (hwf : g.WellFormed) (hall : g.replay = done ++ ends :: todo) :
    ∀ e ∈ done ++ [ends], g.Connects e.src e.dst := by
  intro e he
  refine hwf.mem_replay.mp ?_
  rw [hall]
  rcases List.mem_append.mp he with hold | hnew
  · exact List.mem_append_left _ hold
  · rw [List.mem_singleton.mp hnew]
    exact List.mem_append_right _ List.mem_cons_self

/-- The input of the next connection is free, because the table holds one connection for each input. -/
theorem Rewired.input_free (hr : Rewired g done h) (hwf : g.WellFormed) (hall : g.replay = done ++ ends :: todo)
    {cs : List ConnectionId} (hcs : h.incoming? (ends.dst.renumber g.placed) = some cs) : cs = [] := by
  have hmade := hwf.connects_of_split hall
  have hdmem := (hwf.mem_of_connects (hmade ends (by simp))).2
  refine List.eq_nil_iff_forall_not_mem.mpr ?_
  intro c hmem
  obtain ⟨old, hold, hdst⟩ := (hr.wellFormed.mem_incoming _ cs c hcs).mp hmem
  obtain ⟨e, he, -, heq⟩ := (hr.connects old.src old.dst).mp ⟨c, hold⟩
  have hemem := (hwf.mem_of_connects (hmade e (List.mem_append_left _ he))).2
  -- the row that took the input names the same input as this one
  have hsame : e.dst = ends.dst :=
    InPort.eq_of_renumber_eq (hwf.placed_injective _ hemem _ hdmem) (by rw [heq, hdst])
  have hnodup := hwf.replay_dst_nodup
  rw [hall, List.map_append, List.map_cons] at hnodup
  exact (not_mem_of_nodup_append_cons hnodup).1 (hsame ▸ List.mem_map_of_mem he)

/-- The next connection closes no cycle, because a path back would be one in `g`. -/
theorem Rewired.no_path_back (hr : Rewired g done h) (hwf : g.WellFormed) (hall : g.replay = done ++ ends :: todo) :
    ¬ h.Reaches (g.placed ends.dst.node) (g.placed ends.src.node) := by
  have hmade := hwf.connects_of_split hall
  have hc := hmade ends (by simp)
  obtain ⟨hsmem, hdmem⟩ := hwf.mem_of_connects hc
  intro hpath
  obtain ⟨a, ha, heq, hback⟩ := hr.reaches hwf (fun e he => hmade e (List.mem_append_left _ he)) hdmem hpath
  rw [hwf.placed_injective a ha _ hsmem heq] at hback
  obtain ⟨c, hc⟩ := hc
  exact hwf.acyclic _ (Relation.TransGen.head' ⟨c, ⟨ends.src, ends.dst⟩, hc, rfl, rfl⟩ hback)

theorem Rewired.joins {h' : Graph} {c : ConnectionId} (hr : Rewired g done h)
    (hj : Joins h c ⟨ends.src.renumber g.placed, ends.dst.renumber g.placed⟩ h') (hwf : h'.WellFormed)
    (hnext : h'.nextConnection.toNat = done.length + 1) (hname : h'.name = h.name) :
    Rewired g (done ++ [ends]) h' where
  name := hname.trans hr.name
  injective := hr.injective
  inPorts := hj.inPorts.trans hr.inPorts
  body := hj.body.trans hr.body
  outPorts := hj.outPorts.trans hr.outPorts
  node? := by
    intro n node hn
    obtain ⟨old, hold, heq⟩ := hr.node? n node hn
    obtain ⟨new, hnew, hbare⟩ := exists_bare_of_map_eq (hj.bare (g.placed n)).symm hold
    exact ⟨new, hnew, by rw [← hbare, heq]⟩
  wellFormed := hwf
  connects := by
    intro s d
    rw [hj.connects_iff, hr.connects]
    constructor
    · rintro (⟨rfl, rfl⟩ | ⟨e, he, hends⟩)
      · exact ⟨ends, by simp, rfl, rfl⟩
      · exact ⟨e, List.mem_append_left _ he, hends⟩
    · rintro ⟨e, he, hsrc, hdst⟩
      rcases List.mem_append.mp he with hold | hnew
      · exact Or.inr ⟨e, hold, hsrc, hdst⟩
      · rw [List.mem_singleton.mp hnew] at hsrc hdst
        exact Or.inl ⟨hsrc.symm, hdst.symm⟩
  nextConnection := by rw [hnext, List.length_append, List.length_singleton]

/-- A connection that is not made yet can be made. -/
theorem Rewired.connect (hr : Rewired g done h) (hwf : g.WellFormed) (hall : g.replay = done ++ ends :: todo) :
    ∃ c h', h.connect (ends.src.renumber g.placed) (ends.dst.renumber g.placed) = .ok (c, h')
      ∧ Rewired g (done ++ [ends]) h' := by
  have hc := hwf.connects_of_split hall ends (by simp)
  obtain ⟨hsource, cs, hcs⟩ := hr.toSameNodes.ports hwf hc
  have hfree := hr.input_free hwf hall hcs
  have hsearch : h.isOrPrecedes (g.placed ends.dst.node) (g.placed ends.src.node) = false := by
    rw [← Bool.not_eq_true, isOrPrecedes_iff hr.wellFormed.toRegistered]
    exact hr.no_path_back hwf hall
  have hconn := connect_eq_ok_iff.mpr ⟨hsource, hfree ▸ hcs, hsearch, rfl, rfl⟩
  have hroom : h.ConnectionRoom := by
    have hlen := hwf.length_replay
    rw [hall, List.length_append, List.length_cons] at hlen
    unfold ConnectionRoom
    rw [hr.nextConnection]
    omega
  have hnext : (h.nextConnection + 1).toNat = done.length + 1 := by
    rw [toNat_add_one hroom, hr.nextConnection]
  exact ⟨_, _, hconn, hr.joins (joins_connect hr.wellFormed.toNumbered hconn) (hr.wellFormed.connect hroom hconn)
    hnext rfl⟩

end Connect

/-! ## The third pass -/

/-- Port numbers that a row of the connection table has room for. -/
def PortsFit (g : Graph) : Prop := ∀ s d, g.Connects s d → s.index < 2 ^ 32 ∧ d.index < 2 ^ 32

theorem WellFormed.nodeAt_placed (hwf : g.WellFormed) {n : NodeId} (hn : n ∈ g.allNodes) :
    GraphRecord.nodeAt (g.allNodes.map g.placed) (g.placed n).val = .ok (g.placed n) := by
  unfold GraphRecord.nodeAt
  rw [hwf.placed_toNat hn, getElem?_placed hn]

theorem Rewired.addConnection {done todo : List Connection} {ends : Connection} {h : Graph} (hr : Rewired g done h)
    (hwf : g.WellFormed) (hports : g.PortsFit) (hall : g.replay = done ++ ends :: todo) :
    ∃ h', GraphRecord.addConnection (g.allNodes.map g.placed) h (g.connectionRecord ends) = .ok h'
      ∧ Rewired g (done ++ [ends]) h' := by
  have hc : g.Connects ends.src ends.dst := hwf.mem_replay.mp (by simp [hall])
  obtain ⟨hsmem, hdmem⟩ := hwf.mem_of_connects hc
  have hi : (UInt32.ofNat ends.src.index).toNat = ends.src.index := UInt32.toNat_ofNat_of_lt' (hports _ _ hc).1
  have hj : (UInt32.ofNat ends.dst.index).toNat = ends.dst.index := UInt32.toNat_ofNat_of_lt' (hports _ _ hc).2
  obtain ⟨c, h', hconn, hr'⟩ := hr.connect hwf hall
  refine ⟨h', addConnection_eq_ok_iff.mpr ⟨_, _, c, hwf.nodeAt_placed hsmem, hwf.nodeAt_placed hdmem, ?_⟩, hr'⟩
  unfold connectionRecord
  dsimp only
  rw [hi, hj]
  exact hconn

/-- The third pass makes every connection of the table. -/
theorem Rewired.rewire {h : Graph} (hr : Rewired g [] h) (hwf : g.WellFormed) (hports : g.PortsFit) :
    ∃ h', g.toRecord.connections.foldlM (GraphRecord.addConnection (g.allNodes.map g.placed)) h = .ok h'
      ∧ Rewired g g.replay h' := by
  have htable : List.Forall₂ (fun ends row => row = g.connectionRecord ends) g.replay g.toRecord.connections := by
    rw [hwf.toRecord_connections, List.forall₂_map_right_iff]
    exact List.forall₂_same.mpr fun _ _ => rfl
  refine foldlM_ok_of_step (P := Rewired g) ?_ htable hr
  rintro done ends todo row h hall rfl hr
  exact hr.addConnection hwf hports hall

/-! ## The whole record -/

/-- With all connections made, the graph is the one that was written, under other numbers. -/
theorem Rewired.renumbered {h : Graph} (hr : Rewired g g.replay h) (hwf : g.WellFormed) : Renumbered g.placed g h where
  toSameNodes := hr.toSameNodes
  connects := by
    intro s d
    rw [hr.connects]
    constructor
    · rintro ⟨ends, he, hsrc, hdst⟩
      exact ⟨ends.src, ends.dst, hwf.mem_replay.mp he, hsrc, hdst⟩
    · rintro ⟨s₀, d₀, hc, hsrc, hdst⟩
      exact ⟨⟨s₀, d₀⟩, hwf.mem_replay.mpr hc, hsrc, hdst⟩

/-- The terminals of a graph of factory nodes have their one port, under other numbers too. -/
theorem SameNodes.onePort {ρ : NodeId → NodeId} {h : Graph} (hsame : SameNodes ρ g h) (hg : g.WellFormed)
    (hh : h.WellFormed) (hbuilt : g.AllBare (Node.Rebuilds resolve)) :
    ∀ n node, h.node? n = some node → node.OnePort := by
  intro n node hn
  have hmem := hh.mem_allNodes.mpr ⟨node, hn⟩
  rw [hsame.allNodes] at hmem
  obtain ⟨m, hm, rfl⟩ := List.mem_map.mp hmem
  obtain ⟨old, hold⟩ := hg.mem_allNodes.mp hm
  obtain ⟨found, hfound, heq⟩ := hsame.node? m old hold
  rw [hn] at hfound
  injection hfound with hfound
  rw [hfound, ← Node.onePort_bare, heq]
  have hshape : old.bare.OnePort := (hbuilt m old hold).regular.onePort
  exact (Node.onePort_congr (fun _ => rfl) rfl rfl).mpr hshape

/-- A graph of factory nodes comes back from its record, with the places of its nodes as numbers. -/
theorem WellFormed.toGraph_toRecord (hwf : g.WellFormed) (hbuilt : g.AllBare (Node.Rebuilds resolve))
    (hports : g.PortsFit) :
    ∃ g', g.toRecord.toGraph resolve = .ok g' ∧ g'.WellFormed ∧ Renumbered g.placed g g' := by
  obtain ⟨d, hdraft, hd⟩ := hwf.draft hbuilt
  obtain ⟨shell, hshell, hs⟩ := hd.link hwf
  obtain ⟨g', hrewire, hr⟩ := (hs.rewired hwf).rewire hwf hports
  have hcheck : g'.checkInvariants = .ok () :=
    hr.wellFormed.checkInvariants (hr.toSameNodes.onePort hwf hr.wellFormed hbuilt)
  refine ⟨g', ?_, hr.wellFormed, hr.renumbered hwf⟩
  rw [hd.ids] at hshell
  unfold GraphRecord.toGraph
  rw [hdraft]
  dsimp only [bind, Except.bind]
  rw [hd.ids, hshell]
  dsimp only
  rw [hrewire]
  dsimp only
  rw [hcheck]
  rfl

end Graph

end SignalGraph
