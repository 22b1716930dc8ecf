import SignalGraph.Proofs.Graph.Connecting

/-!
# Removing nodes

A node is first freed of its connections and then taken out. With the owner of a delay line go the nodes that
read it. While they go one by one, the ones still there read a line that is no longer owned; `DanglingAt`
allows for that, and once the last of them is gone every remaining read has its line.
-/

namespace SignalGraph

namespace Graph

/-! ## Smaller graphs -/

/-- `g'` holds nodes of `g` only, with other connections perhaps, and has used up no further number. -/
structure Shrinks (g g' : Graph) : Prop where
  /-- Every node was there. -/
  node? : ∀ n node, g'.node? n = some node → ∃ old, g.node? n = some old ∧ node.bare = old.bare
  /-- The node counter is as it was. -/
  nextNode : g'.nextNode = g.nextNode
  /-- The connection counter is as it was. -/
  nextConnection : g'.nextConnection = g.nextConnection

theorem Shrinks.refl (g : Graph) : Shrinks g g :=
  ⟨fun _ node h => ⟨node, h, rfl⟩, rfl, rfl⟩

theorem Shrinks.trans {g g' g'' : Graph} (h : Shrinks g g') (h' : Shrinks g' g'') : Shrinks g g'' := by
  refine ⟨?_, h'.nextNode.trans h.nextNode, h'.nextConnection.trans h.nextConnection⟩
  intro n node hn
  obtain ⟨mid, hmid, heq⟩ := h'.node? n node hn
  obtain ⟨old, hold, heq'⟩ := h.node? n mid hmid
  exact ⟨old, hold, heq.trans heq'⟩

theorem Shrinks.node?_eq_none {g g' : Graph} (h : Shrinks g g') {n : NodeId} (hn : g.node? n = none) :
    g'.node? n = none := by
  cases hn' : g'.node? n with
  | none => rfl
  | some node =>
      obtain ⟨old, hold, -⟩ := h.node? n node hn'
      rw [hn] at hold
      exact absurd hold (by simp)

theorem Drops.shrinks {g g' : Graph} {c : ConnectionId} {ends : Connection} (hd : Drops g c ends g') :
    Shrinks g g' :=
  ⟨fun _ _ hn => hd.toRelists.node?_bare hn, hd.nextNode, hd.nextConnection⟩

/-- `g'` holds nodes and connections of `g` only, and has used up no further number. -/
structure Loses (g g' : Graph) : Prop extends Shrinks g g' where
  /-- Every connection was there. -/
  connection? : ∀ c ends, g'.connection? c = some ends → g.connection? c = some ends

theorem Loses.refl (g : Graph) : Loses g g :=
  ⟨Shrinks.refl g, fun _ _ h => h⟩

theorem Loses.trans {g g' g'' : Graph} (h : Loses g g') (h' : Loses g' g'') : Loses g g'' :=
  ⟨h.toShrinks.trans h'.toShrinks, fun c ends hc => h.connection? c ends (h'.connection? c ends hc)⟩

/-- Nothing is asked of the graph here: a connection that is not there is not dropped either. -/
theorem loses_dropConnection (g : Graph) (c : ConnectionId) (ends : Connection) :
    Loses g (g.dropConnection c ends) := by
  have hr : Relists g ends (·.filter (· ≠ c)) (g.dropConnection c ends) :=
    relists_of_arena (f := (·.deregister c)) (fun _ => rfl) (fun _ => rfl) rfl rfl rfl rfl rfl
  refine ⟨⟨fun _ _ hn => hr.node?_bare hn, hr.nextNode, rfl⟩, ?_⟩
  intro c' ends' hc'
  have hold : (g.connections.erase c).get? c' = some ends' := hc'
  rw [Table.get?_erase] at hold
  split at hold
  · exact absurd hold (by simp)
  · exact hold

theorem loses_isolate (g : Graph) (n : NodeId) : Loses g (g.isolate n) := by
  unfold isolate
  refine List.foldlRecOn (motive := fun g' => Loses g g') _ _ (Loses.refl g) ?_
  intro g' h e _
  exact h.trans (loses_dropConnection g' e.1 e.2)

theorem loses_removeOne {g g' : Graph} {n : NodeId} {node : Node} (hrem : g.removeOne n = some (node, g')) :
    Loses g g' := by
  obtain ⟨found, -, heq⟩ := Option.map_eq_some_iff.mp hrem
  injection heq with hnode hg
  subst hg
  refine (loses_isolate g n).trans ⟨⟨?_, rfl, rfl⟩, fun _ _ hc => hc⟩
  intro m old hm
  have hold : ((g.isolate n).arena.erase n).get? m = some old := hm
  rw [Table.get?_erase] at hold
  split at hold
  · exact absurd hold (by simp)
  · exact ⟨old, hold, rfl⟩

theorem loses_discard (g : Graph) (n : NodeId) : Loses g (g.discard n) := by
  unfold discard
  cases hrem : g.removeOne n with
  | none => exact Loses.refl g
  | some removed => exact loses_removeOne hrem

theorem loses_removeNode {g g' : Graph} {n : NodeId} {node : Node} (hrem : g.removeNode n = some (node, g')) :
    Loses g g' := by
  obtain ⟨⟨removed, g₁⟩, hone, heq⟩ := Option.map_eq_some_iff.mp hrem
  injection heq with hnode hg
  subst hg
  split
  · refine (loses_removeOne hone).trans ?_
    refine List.foldlRecOn (motive := fun g' => Loses g₁ g') _ _ (Loses.refl g₁) ?_
    intro g' h m _
    exact h.trans (loses_discard g' m)
  · exact loses_removeOne hone

/-! ## Freeing a node of its connections -/

/-- `g'` is `g` without the connections in `cs`. -/
structure Unplugs (g : Graph) (cs : List ConnectionId) (g' : Graph) : Prop where
  /-- The listed connections are gone, and the others are as they were. -/
  connection? : ∀ c, g'.connection? c = if c ∈ cs then none else g.connection? c
  /-- But for their connections the nodes are as they were. -/
  bare : ∀ n, (g'.node? n).map Node.bare = (g.node? n).map Node.bare
  /-- The input terminals are as they were. -/
  inPorts : g'.inPorts = g.inPorts
  /-- The body is as it was. -/
  body : g'.body = g.body
  /-- The output terminals are as they were. -/
  outPorts : g'.outPorts = g.outPorts
  /-- The node counter is as it was. -/
  nextNode : g'.nextNode = g.nextNode
  /-- The connection counter is as it was. -/
  nextConnection : g'.nextConnection = g.nextConnection

theorem Unplugs.nil (g : Graph) : Unplugs g [] g := by
  refine ⟨fun c => ?_, fun n => rfl, rfl, rfl, rfl, rfl, rfl⟩
  simp

theorem Drops.cons_unplugs {g g' g'' : Graph} {c : ConnectionId} {ends : Connection}
    {cs : List ConnectionId} (hd : Drops g c ends g') (hu : Unplugs g' cs g'') : Unplugs g (c :: cs) g'' := by
  refine ⟨?_, fun n => (hu.bare n).trans (hd.bare n), hu.inPorts.trans hd.inPorts, hu.body.trans hd.body,
    hu.outPorts.trans hd.outPorts, hu.nextNode.trans hd.nextNode, hu.nextConnection.trans hd.nextConnection⟩
  intro c'
  rw [hu.connection?, hd.connection?]
  by_cases hc : c' = c
  · simp [hc]
  · by_cases hmem : c' ∈ cs <;> simp [hc, hmem]

/-- Dropping connections one after the other, each once. -/
theorem foldl_dropConnection {g : Graph} (es : List (ConnectionId × Connection)) (h : g.Wired)
    (hes : ∀ e ∈ es, g.connection? e.1 = some e.2) (hnodup : (es.map Prod.fst).Nodup) :
    (es.foldl (fun g e => g.dropConnection e.1 e.2) g).Wired
      ∧ Unplugs g (es.map Prod.fst) (es.foldl (fun g e => g.dropConnection e.1 e.2) g) := by
  induction es generalizing g with
  | nil => exact ⟨h, Unplugs.nil g⟩
  | cons e es ih =>
      rw [List.map_cons, List.nodup_cons] at hnodup
      have hd : Drops g e.1 e.2 (g.dropConnection e.1 e.2) :=
        drops_dropConnection (hes e List.mem_cons_self)
      -- the connections still to be dropped are others, so they are still there
      have hrest : ∀ e' ∈ es, (g.dropConnection e.1 e.2).connection? e'.1 = some e'.2 := by
        intro e' he'
        have hne : e'.1 ≠ e.1 := by
          intro heq
          exact hnodup.1 (heq ▸ List.mem_map_of_mem he')
        rw [hd.connection?, if_neg hne]
        exact hes e' (List.mem_cons_of_mem _ he')
      obtain ⟨hwired, hunplugs⟩ := ih (h.drops hd) hrest hnodup.2
      exact ⟨hwired, hd.cons_unplugs hunplugs⟩

def incident (g : Graph) (n : NodeId) : List (ConnectionId × Connection) :=
  g.connections.entries.filter (·.2.involves n)

theorem isolate_spec {g : Graph} (h : g.Wired) (n : NodeId) :
    (g.isolate n).Wired ∧ Unplugs g ((g.incident n).map Prod.fst) (g.isolate n) := by
  refine foldl_dropConnection (g.incident n) h ?_ ?_
  · intro e he
    exact Table.get?_of_mem (List.mem_filter.mp he).1
  · exact g.connections.nodup.sublist (List.filter_sublist.map Prod.fst)

theorem connection?_isolate {g : Graph} (h : g.Wired) (n : NodeId) {c : ConnectionId} {ends : Connection} :
    (g.isolate n).connection? c = some ends ↔ g.connection? c = some ends ∧ ends.involves n = false := by
  have hmem : c ∈ (g.incident n).map Prod.fst ↔
      ∃ found, g.connection? c = some found ∧ found.involves n = true := by
    rw [List.mem_map]
    constructor
    · rintro ⟨e, he, rfl⟩
      obtain ⟨hin, hinv⟩ := List.mem_filter.mp he
      exact ⟨e.2, Table.get?_of_mem hin, hinv⟩
    · rintro ⟨found, hfound, hinv⟩
      exact ⟨(c, found), List.mem_filter.mpr ⟨Table.mem_of_get? hfound, hinv⟩, rfl⟩
  rw [(isolate_spec h n).2.connection?]
  split
  · rename_i hc
    obtain ⟨found, hfound, hinv⟩ := hmem.mp hc
    rw [hfound]
    constructor
    · intro habs
      exact absurd habs (by simp)
    · rintro ⟨heq, hno⟩
      injection heq with heq
      rw [heq, hno] at hinv
      exact absurd hinv (by simp)
  · rename_i hc
    constructor
    · intro hends
      refine ⟨hends, ?_⟩
      rw [← Bool.not_eq_true]
      exact fun hinv => hc (hmem.mpr ⟨ends, hends, hinv⟩)
    · exact And.left

/-! ## Taking out a node that has no connection -/

/-- `g'` is `g` without a node. -/
structure Erases (g : Graph) (n : NodeId) (g' : Graph) : Prop where
  /-- The node is gone, and the others are as they were. -/
  node? : ∀ m, g'.node? m = if m = n then none else g.node? m
  /-- The connections are as they were. -/
  connection? : ∀ c, g'.connection? c = g.connection? c
  /-- The node is no input terminal. -/
  inPorts : g'.inPorts = g.inPorts.filter (· ≠ n)
  /-- The node is not in the body. -/
  body : g'.body = g.body.filter (· ≠ n)
  /-- The node is no output terminal. -/
  outPorts : g'.outPorts = g.outPorts.filter (· ≠ n)
  /-- The node counter is as it was. -/
  nextNode : g'.nextNode = g.nextNode
  /-- The connection counter is as it was. -/
  nextConnection : g'.nextConnection = g.nextConnection

section Erases

variable {g g' : Graph} {n : NodeId}

theorem Erases.node?_of_some (he : Erases g n g') {m : NodeId} {node : Node} (h : g'.node? m = some node) :
    m ≠ n ∧ g.node? m = some node := by
  rw [he.node?] at h
  split at h
  · exact absurd h (by simp)
  · rename_i hne
    exact ⟨hne, h⟩

theorem Erases.outgoing? (he : Erases g n g') (s : OutPort) :
    g'.outgoing? s = if s.node = n then none else g.outgoing? s := by
  unfold Graph.outgoing?
  rw [he.node?]
  split <;> rfl

theorem Erases.incoming? (he : Erases g n g') (d : InPort) :
    g'.incoming? d = if d.node = n then none else g.incoming? d := by
  unfold Graph.incoming?
  rw [he.node?]
  split <;> rfl

theorem Erases.allNodes (he : Erases g n g') : g'.allNodes = g.allNodes.filter (· ≠ n) := by
  unfold Graph.allNodes
  rw [he.inPorts, he.body, he.outPorts, List.filter_append, List.filter_append]

theorem Erases.mem_filter_iff (he : Erases g n g') {ns : List NodeId} {p : Node → Prop}
    (h : ∀ m, m ∈ ns ↔ ∃ node, g.node? m = some node ∧ p node) (m : NodeId) :
    m ∈ ns.filter (· ≠ n) ↔ ∃ node, g'.node? m = some node ∧ p node := by
  rw [List.mem_filter, h, he.node?]
  by_cases hm : m = n <;> simp [hm]

theorem Partitioned.erases (h : g.Partitioned) (he : Erases g n g') : g'.Partitioned where
  nodup := by
    rw [he.allNodes]
    exact h.nodup.filter _
  mem_inPorts := by
    intro m
    rw [he.inPorts]
    exact he.mem_filter_iff h.mem_inPorts m
  mem_body := by
    intro m
    rw [he.body]
    exact he.mem_filter_iff h.mem_body m
  mem_outPorts := by
    intro m
    rw [he.outPorts]
    exact he.mem_filter_iff h.mem_outPorts m

theorem Registered.erases (h : g.Registered) (he : Erases g n g')
    (hfree : ∀ c ends, g.connection? c = some ends → ends.src.node ≠ n ∧ ends.dst.node ≠ n) : g'.Registered := by
  refine h.of_ports he.connection? ?_ ?_ ?_ ?_
  · intro s cs hs
    rw [he.outgoing?] at hs
    split at hs
    · exact absurd hs (by simp)
    · exact hs
  · intro d cs hd
    rw [he.incoming?] at hd
    split at hd
    · exact absurd hd (by simp)
    · exact hd
  · intro c ends hc
    rw [he.outgoing?, if_neg (hfree c ends hc).1]
    exact h.src_listed c ends hc
  · intro c ends hc
    rw [he.incoming?, if_neg (hfree c ends hc).2]
    exact h.dst_listed c ends hc

theorem Wired.erases (h : g.Wired) (he : Erases g n g')
    (hfree : ∀ c ends, g.connection? c = some ends → ends.src.node ≠ n ∧ ends.dst.node ≠ n) : g'.Wired where
  toPartitioned := h.toPartitioned.erases he
  toRegistered := h.toRegistered.erases he hfree
  node_lt := by
    intro m node hm
    rw [he.nextNode]
    exact h.node_lt m node (he.node?_of_some hm).2
  connection_lt := by
    intro c ends hc
    rw [he.connection?] at hc
    rw [he.nextConnection]
    exact h.connection_lt c ends hc
  acyclic := by
    refine h.acyclic.mono ?_
    intro c ends hc
    rw [he.connection?] at hc
    exact hc

end Erases

/-! ## Removing one node -/

/-- What removing one node leaves, and what it gives back. -/
structure RemovesOne (g : Graph) (n : NodeId) (node : Node) (g' : Graph) : Prop where
  /-- The node was there. -/
  old : ∃ old, g.node? n = some old ∧ node.bare = old.bare
  /-- The node is gone, and the others are as they were but for their connections. -/
  bare : ∀ m, (g'.node? m).map Node.bare = if m = n then none else (g.node? m).map Node.bare
  /-- The connections at other nodes stay. -/
  connection? : ∀ c ends, g'.connection? c = some ends ↔ g.connection? c = some ends ∧ ends.involves n = false
  /-- Nothing else is there that was not there before. -/
  shrinks : Shrinks g g'

theorem removeOne_spec {g g' : Graph} {n : NodeId} {node : Node} (h : g.Wired)
    (hrem : g.removeOne n = some (node, g')) : g'.Wired ∧ RemovesOne g n node g' := by
  obtain ⟨hwired, hun⟩ := isolate_spec h n
  unfold removeOne at hrem
  obtain ⟨found, hfound, heq⟩ := Option.map_eq_some_iff.mp hrem
  injection heq with hnode hg
  subst hnode
  have he : Erases (g.isolate n) n g' := by
    subst hg
    exact ⟨fun m => Table.get?_erase _ _ _, fun _ => rfl, rfl, rfl, rfl, rfl, rfl⟩
  -- an isolated node has no connection left that taking it out could leave without an end
  have hfree : ∀ c ends, (g.isolate n).connection? c = some ends → ends.src.node ≠ n ∧ ends.dst.node ≠ n := by
    intro c ends hc
    have hno := ((connection?_isolate h n).mp hc).2
    simpa [Connection.involves] using hno
  refine ⟨hwired.erases he hfree, ?_⟩
  refine ⟨exists_bare_of_map_eq (hun.bare n) hfound, ?_, ?_, ?_⟩
  · intro m
    rw [he.node?]
    split
    · rfl
    · exact hun.bare m
  · intro c ends
    rw [he.connection?]
    exact connection?_isolate h n
  · refine ⟨?_, he.nextNode.trans hun.nextNode, he.nextConnection.trans hun.nextConnection⟩
    intro m old hm
    exact exists_bare_of_map_eq (hun.bare m) (he.node?_of_some hm).2

/-! ## Removing the readers of a delay line -/

/-- Every delay read has its line, those of the line that `n` owned excepted. -/
def DanglingAt (g : Graph) (n : NodeId) : Prop :=
  ∀ m node w, g.node? m = some node → node.delay = some (.read w) →
    w = n ∨ ∃ writer, g.node? w = some writer ∧ writer.isDelayWrite = true

/-- Taking out a node that owns no line leaves every line that was there. -/
theorem DanglingAt.removesOne {g g' : Graph} {n m : NodeId} {node : Node} (h : g.DanglingAt n)
    (hr : RemovesOne g m node g') (hm : m = n ∨ node.isDelayWrite = false) : g'.DanglingAt n := by
  intro k found w hk hd
  obtain ⟨old, hold, heq⟩ := hr.shrinks.node? k found hk
  rw [Node.delay_of_bare_eq heq] at hd
  rcases h k old w hold hd with hw | ⟨writer, hwriter, hwrite⟩
  · exact Or.inl hw
  · by_cases hwm : w = m
    · obtain ⟨gone, hgone, hbare⟩ := hr.old
      rcases hm with hmn | hno
      · exact Or.inl (hwm.trans hmn)
      · rw [hwm, hgone] at hwriter
        injection hwriter with hwriter
        rw [Node.isDelayWrite_of_bare_eq hbare, hwriter, hwrite] at hno
        exact absurd hno (by simp)
    · have hkept := hr.bare w
      rw [if_neg hwm] at hkept
      obtain ⟨new, hnew, hbare⟩ := exists_bare_of_map_eq hkept.symm hwriter
      exact Or.inr ⟨new, hnew, by rw [← Node.isDelayWrite_of_bare_eq hbare, hwrite]⟩

/-- Once nothing reads the line of `n` any more, no line is missing. -/
theorem DanglingAt.delaysLinked {g : Graph} {n : NodeId} (h : g.DanglingAt n)
    (hno : ∀ m node, g.node? m = some node → node.delay ≠ some (.read n)) : g.DelaysLinked := by
  intro m node w hm hd
  rcases h m node w hm hd with rfl | hw
  · exact absurd hd (hno m node hm)
  · exact hw

theorem discard_of_absent {g : Graph} {m : NodeId} (h : g.removeOne m = none) : g.discard m = g := by
  unfold discard
  rw [h]
  rfl

theorem discard_of_removeOne {g g' : Graph} {m : NodeId} {node : Node}
    (h : g.removeOne m = some (node, g')) : g.discard m = g' := by
  unfold discard
  rw [h]
  rfl

theorem node?_of_removeOne_eq_none {g : Graph} {m : NodeId} (h : g.Wired) (hrem : g.removeOne m = none) :
    g.node? m = none := by
  have hnone : (g.isolate m).node? m = none := Option.map_eq_none_iff.mp hrem
  have hbare := (isolate_spec h m).2.bare m
  rw [hnone] at hbare
  exact Option.map_eq_none_iff.mp hbare.symm

/-- The readers of a line go one by one; afterwards none of them is left. -/
theorem foldl_discard {g : Graph} {n : NodeId} (rs : List NodeId) (h : g.Wired) (hdang : g.DanglingAt n)
    (hrs : ∀ m ∈ rs, ∀ node, g.node? m = some node → node.delay = some (.read n)) :
    (rs.foldl discard g).Wired ∧ (rs.foldl discard g).DanglingAt n ∧ Shrinks g (rs.foldl discard g)
      ∧ ∀ m ∈ rs, (rs.foldl discard g).node? m = none := by
  induction rs generalizing g with
  | nil => exact ⟨h, hdang, Shrinks.refl g, by simp⟩
  | cons m rs ih =>
      have hstep : (g.discard m).Wired ∧ (g.discard m).DanglingAt n ∧ Shrinks g (g.discard m)
          ∧ (g.discard m).node? m = none := by
        cases hrem : g.removeOne m with
        | none =>
            -- a reader that is gone already leaves the graph as it is
            rw [discard_of_absent hrem]
            exact ⟨h, hdang, Shrinks.refl g, node?_of_removeOne_eq_none h hrem⟩
        | some removed =>
            obtain ⟨node, g'⟩ := removed
            rw [discard_of_removeOne hrem]
            obtain ⟨hwired, hr⟩ := removeOne_spec h hrem
            obtain ⟨old, hold, hbare⟩ := hr.old
            have hread : node.delay = some (.read n) := by
              rw [Node.delay_of_bare_eq hbare]
              exact hrs m List.mem_cons_self old hold
            have hno := Node.isDelayWrite_of_read hread
            have hgone := hr.bare m
            rw [if_pos rfl] at hgone
            exact ⟨hwired, hdang.removesOne hr (Or.inr hno), hr.shrinks, Option.map_eq_none_iff.mp hgone⟩
      obtain ⟨hwired, hdang', hshrink, hgone⟩ := hstep
      -- the readers to come are still readers of this line, or gone
      have hrs' : ∀ m' ∈ rs, ∀ node, (g.discard m).node? m' = some node → node.delay = some (.read n) := by
        intro m' hm' node hnode
        obtain ⟨old, hold, hbare⟩ := hshrink.node? m' node hnode
        rw [Node.delay_of_bare_eq hbare]
        exact hrs m' (List.mem_cons_of_mem _ hm') old hold
      obtain ⟨h1, h2, h3, h4⟩ := ih hwired hdang' hrs'
      refine ⟨h1, h2, hshrink.trans h3, ?_⟩
      intro m' hm'
      rcases List.mem_cons.mp hm' with rfl | hm'
      · exact h3.node?_eq_none hgone
      · exact h4 m' hm'

theorem Partitioned.mem_delayReadsOf {g : Graph} (h : g.Partitioned) {n m : NodeId} :
    m ∈ g.delayReadsOf n ↔ ∃ node, g.node? m = some node ∧ node.delay = some (.read n) := by
  unfold delayReadsOf
  rw [List.mem_filter, h.mem_allNodes]
  cases g.node? m with
  | none => simp
  | some node => simp

/-! ## Removing a node -/

theorem removeNode_spec {g g' : Graph} {n : NodeId} {node : Node} (h : g.WellFormed)
    (hrem : g.removeNode n = some (node, g')) : g'.WellFormed ∧ Shrinks g g' ∧ g'.node? n = none := by
  unfold removeNode at hrem
  obtain ⟨⟨removed, g₁⟩, hone, heq⟩ := Option.map_eq_some_iff.mp hrem
  injection heq with hnode hg
  subst hnode
  obtain ⟨hwired, hr⟩ := removeOne_spec h.toWired hone
  have hgone : g₁.node? n = none := by
    have hbare := hr.bare n
    rw [if_pos rfl] at hbare
    exact Option.map_eq_none_iff.mp hbare
  have hdang : g₁.DanglingAt n := by
    refine DanglingAt.removesOne ?_ hr (Or.inl rfl)
    intro m found w hm hd
    exact Or.inr (h.delays m found w hm hd)
  cases hwrite : removed.isDelayWrite with
  | false =>
      rw [hwrite, if_neg (by simp)] at hg
      subst hg
      refine ⟨{ toWired := hwired, delays := hdang.delaysLinked ?_ }, hr.shrinks, hgone⟩
      -- the node that went was no owner, so nothing read its line
      intro m found hm hd
      obtain ⟨old, hold, heq⟩ := hr.shrinks.node? m found hm
      rw [Node.delay_of_bare_eq heq] at hd
      obtain ⟨writer, hwriter, hiswrite⟩ := h.delays m old n hold hd
      obtain ⟨was, hwas, hbare⟩ := hr.old
      rw [hwas] at hwriter
      injection hwriter with hwriter
      rw [Node.isDelayWrite_of_bare_eq hbare, hwriter, hiswrite] at hwrite
      exact absurd hwrite (by simp)
  | true =>
      rw [hwrite, if_pos rfl] at hg
      subst hg
      have hrs : ∀ m ∈ g₁.delayReadsOf n, ∀ found, g₁.node? m = some found →
          found.delay = some (.read n) := by
        intro m hm found hfound
        obtain ⟨found', hfound', hd⟩ := hwired.mem_delayReadsOf.mp hm
        rw [hfound] at hfound'
        injection hfound' with hfound'
        rw [hfound', hd]
      obtain ⟨hwired', hdang', hshrink, hnone⟩ := foldl_discard (g₁.delayReadsOf n) hwired hdang hrs
      refine ⟨{ toWired := hwired', delays := hdang'.delaysLinked ?_ }, hr.shrinks.trans hshrink,
        hshrink.node?_eq_none hgone⟩
      -- a node that still read the line would have been discarded
      intro m found hm hd
      obtain ⟨old, hold, heq⟩ := hshrink.node? m found hm
      rw [Node.delay_of_bare_eq heq] at hd
      rw [hnone m (hwired.mem_delayReadsOf.mpr ⟨old, hold, hd⟩)] at hm
      exact absurd hm (by simp)

end Graph

end SignalGraph
