import SignalGraph.Proofs.Record.Accepted

/-!
# What a removal takes along

A node goes with its connections, and the owner of a delay line goes with the readers of the line and theirs. The
connections go one at a time, each off the lists at its two ends, and so do the readers, which are looked for after
their owner has gone.

What is left can be written down at once, as the graph `without` a list of nodes: the tables and the sequences lack
what went, the lists at the ports lack the connections that went, and everything else is as it was and in its order.
In a graph that keeps the invariant every step of a removal comes to that. Dropping a connection cuts it from all
lists, since only the lists at its ends hold it; freeing a node cuts all its connections; and leaving out nodes one
after the other is leaving out all of them.
-/

namespace SignalGraph

/-! ## Leaving things out -/

namespace Table

universe u v w

variable {κ : Type u} {ν : Type v}

/-- The entries of some of the keys, in their order. -/
def restrict (t : Table κ ν) (keep : κ → Bool) : Table κ ν where
  entries := t.entries.filter fun e => keep e.1
  nodup := t.nodup.sublist (List.filter_sublist.map Prod.fst)

theorem restrict_restrict (t : Table κ ν) (keep keep' : κ → Bool) :
    (t.restrict keep).restrict keep' = t.restrict fun k => keep k && keep' k := by
  refine eq_of_entries ((List.filter_filter ..).trans ?_)
  exact List.filter_congr fun e _ => Bool.and_comm _ _

theorem restrict_of_forall {t : Table κ ν} {keep : κ → Bool} (h : ∀ k ∈ t.keys, keep k = true) :
    t.restrict keep = t :=
  eq_of_entries (List.filter_eq_self.mpr fun e he => h e.1 (List.mem_map_of_mem he))

theorem restrict_mapValues {ω : Type w} (t : Table κ ν) (f : κ → ν → ω) (keep : κ → Bool) :
    (t.mapValues f).restrict keep = (t.restrict keep).mapValues f :=
  eq_of_entries List.filter_map

variable [DecidableEq κ]

theorem erase_eq_restrict (t : Table κ ν) (k : κ) : t.erase k = t.restrict fun k' => !decide (k' = k) :=
  eq_of_entries (List.filter_congr fun _ _ => decide_not)

theorem get?_restrict (t : Table κ ν) (keep : κ → Bool) (k : κ) :
    (t.restrict keep).get? k = if keep k then t.get? k else none := by
  split
  · rename_i hk
    cases h : t.get? k with
    | none =>
        rw [get?_eq_none_iff] at h ⊢
        exact fun hmem => h ((List.filter_sublist.map Prod.fst).subset hmem)
    | some v => exact get?_of_mem (List.mem_filter.mpr ⟨mem_of_get? h, hk⟩)
  · rename_i hk
    rw [get?_eq_none_iff]
    intro hmem
    obtain ⟨e, he, rfl⟩ := List.mem_map.mp hmem
    exact hk (List.mem_filter.mp he).2

end Table

/-- The port without some of its connections. -/
def Port.cut (p : Port) (gone : ConnectionId → Bool) : Port :=
  { p with connections := p.connections.filter fun c => !gone c }

theorem Port.cut_of_none {p : Port} {gone : ConnectionId → Bool} (h : ∀ c ∈ p.connections, gone c = false) :
    p.cut gone = p := by
  unfold cut
  rw [List.filter_eq_self.mpr fun c hc => by rw [h c hc]; rfl]

theorem Port.cut_cut (p : Port) (gone gone' : ConnectionId → Bool) :
    (p.cut gone).cut gone' = p.cut fun c => gone c || gone' c := by
  unfold cut
  dsimp only
  rw [List.filter_filter]
  simp only [Bool.not_or, Bool.and_comm]

namespace Node

/-- The node without some of its connections. -/
def cut (n : Node) (gone : ConnectionId → Bool) : Node :=
  { n with inputs := n.inputs.map (·.cut gone), outputs := n.outputs.map (·.cut gone) }

theorem cut_cut (n : Node) (gone gone' : ConnectionId → Bool) :
    (n.cut gone).cut gone' = n.cut fun c => gone c || gone' c := by
  have hports : ∀ ps : List Port,
      (ps.map (·.cut gone)).map (·.cut gone') = ps.map (·.cut fun c => gone c || gone' c) := by
    intro ps
    rw [List.map_map]
    exact List.map_congr_left fun p _ => p.cut_cut gone gone'
  unfold cut
  dsimp only
  rw [hports, hports]

theorem cut_of_none (n : Node) {gone : ConnectionId → Bool} (h : ∀ c, gone c = false) : n.cut gone = n := by
  have hports : ∀ ps : List Port, ps.map (·.cut gone) = ps := fun ps =>
    (List.map_congr_left fun p _ => Port.cut_of_none fun c _ => h c).trans (List.map_id ps)
  unfold cut
  rw [hports, hports]

/-- A node that loses all its connections is bare. -/
theorem cut_of_all {n : Node} {gone : ConnectionId → Bool}
    (h : ∀ p ∈ n.inputs ++ n.outputs, ∀ c ∈ p.connections, gone c = true) : n.cut gone = n.bare := by
  have hport : ∀ p ∈ n.inputs ++ n.outputs, p.cut gone = { p with connections := [] } := by
    intro p hp
    unfold Port.cut
    rw [List.filter_eq_nil_iff.mpr fun c hc => by rw [h p hp c hc]; simp]
  unfold cut bare
  rw [List.map_congr_left fun p hp => hport p (List.mem_append_left _ hp),
    List.map_congr_left fun p hp => hport p (List.mem_append_right _ hp)]

end Node

namespace Graph

/-- The graph without some of its connections. -/
def cut (g : Graph) (gone : ConnectionId → Bool) : Graph :=
  { g with
    arena := g.arena.mapValues fun _ node => node.cut gone
    connections := g.connections.restrict fun c => !gone c }

/-- The graph without some of its nodes. -/
def takeOut (g : Graph) (gone : List NodeId) : Graph :=
  { g with
    arena := g.arena.restrict fun n => !decide (n ∈ gone)
    inPorts := g.inPorts.filter (· ∉ gone)
    body := g.body.filter (· ∉ gone)
    outPorts := g.outPorts.filter (· ∉ gone) }

/-- Whether a connection has an end at some of the nodes. -/
def severed (g : Graph) (gone : List NodeId) (c : ConnectionId) : Bool :=
  (g.connection? c).any fun ends => gone.any ends.involves

/-- The graph without some of its nodes and without the connections that had an end at one of them. -/
def without (g : Graph) (gone : List NodeId) : Graph := (g.cut (g.severed gone)).takeOut gone

/-! ## Leaving out more -/

theorem cut_cut (g : Graph) (gone gone' : ConnectionId → Bool) :
    (g.cut gone).cut gone' = g.cut fun c => gone c || gone' c := by
  unfold cut
  dsimp only
  rw [Table.mapValues_mapValues, Table.restrict_restrict]
  simp only [Node.cut_cut, Bool.not_or]

/-- Where nothing is cut, everything stays. -/
theorem cut_of_none (g : Graph) {gone : ConnectionId → Bool} (h : ∀ c, gone c = false) : g.cut gone = g := by
  have hnode : ∀ n node, g.node? n = some node → node.cut gone = node := fun _ node _ => node.cut_of_none h
  unfold cut
  rw [Table.mapValues_congr hnode, Table.mapValues_id, Table.restrict_of_forall fun c _ => by rw [h c]; rfl]

theorem cut_takeOut (g : Graph) (gone : List NodeId) (lost : ConnectionId → Bool) :
    (g.takeOut gone).cut lost = (g.cut lost).takeOut gone := by
  unfold cut takeOut
  dsimp only
  rw [Table.restrict_mapValues]

theorem takeOut_takeOut (g : Graph) (gone gone' : List NodeId) :
    (g.takeOut gone).takeOut gone' = g.takeOut (gone ++ gone') := by
  have hseq : ∀ ns : List NodeId, (ns.filter (· ∉ gone)).filter (· ∉ gone') = ns.filter (· ∉ gone ++ gone') := by
    intro ns
    rw [List.filter_filter]
    refine List.filter_congr fun n _ => ?_
    simp [Bool.and_comm]
  unfold takeOut
  dsimp only
  rw [Table.restrict_restrict, hseq, hseq, hseq]
  simp only [List.mem_append, Bool.decide_or, Bool.not_or]

theorem connection?_cut (g : Graph) (gone : ConnectionId → Bool) (c : ConnectionId) :
    (g.cut gone).connection? c = if gone c then none else g.connection? c := by
  refine (Table.get?_restrict _ _ c).trans ?_
  cases gone c <;> rfl

theorem node?_cut (g : Graph) (gone : ConnectionId → Bool) (n : NodeId) :
    (g.cut gone).node? n = (g.node? n).map (·.cut gone) :=
  Table.get?_mapValues _ _ n

theorem node?_takeOut (g : Graph) (gone : List NodeId) (n : NodeId) :
    (g.takeOut gone).node? n = if n ∈ gone then none else g.node? n := by
  refine (Table.get?_restrict _ _ n).trans ?_
  by_cases hn : n ∈ gone
  · rw [if_pos hn, if_neg (by simp [hn])]
  · rw [if_neg hn, if_pos (by simp [hn])]
    rfl

/-- What is left out is left out, and every other node keeps all but the connections that went. -/
theorem node?_without (g : Graph) (gone : List NodeId) (n : NodeId) :
    (g.without gone).node? n = if n ∈ gone then none else (g.node? n).map (·.cut (g.severed gone)) := by
  unfold without
  rw [node?_takeOut, node?_cut]

/-- The connections that are left are those that had neither end at a node that went. -/
theorem connection?_without (g : Graph) (gone : List NodeId) (c : ConnectionId) :
    (g.without gone).connection? c = if g.severed gone c then none else g.connection? c :=
  connection?_cut g (g.severed gone) c

/-- Leaving out nodes one after the other is leaving out all of them. -/
theorem without_without (g : Graph) (gone gone' : List NodeId) :
    (g.without gone).without gone' = g.without (gone ++ gone') := by
  have hsevered : ∀ c, (g.severed gone c || (g.without gone).severed gone' c) = g.severed (gone ++ gone') c := by
    intro c
    unfold severed
    rw [connection?_without]
    unfold severed
    cases g.connection? c with
    | none => rfl
    | some ends =>
        rw [Option.any_some, Option.any_some, List.any_append]
        cases gone.any ends.involves <;> rfl
  calc (g.without gone).without gone'
      = (((g.cut (g.severed gone)).cut ((g.without gone).severed gone')).takeOut gone).takeOut gone' :=
        congrArg (takeOut · gone') (cut_takeOut _ _ _)
    _ = g.without (gone ++ gone') := by
        rw [takeOut_takeOut, cut_cut]
        simp only [hsevered]
        rfl

/-! ## Dropping connections is cutting them -/

section Ports

variable {ps : List Port} {c : ConnectionId}

/-- Where no port lists a connection, there is nothing to cut. -/
theorem map_cut_of_not_mem
    (h : ∀ (j : Nat) (cs : List ConnectionId), (ps.map Port.connections)[j]? = some cs → c ∉ cs) :
    ps.map (·.cut fun c' => decide (c' = c)) = ps := by
  refine (List.map_congr_left ?_).trans (List.map_id ps)
  intro p hp
  obtain ⟨j, hj⟩ := List.mem_iff_getElem?.mp hp
  refine Port.cut_of_none fun c' hc' => decide_eq_false ?_
  rintro rfl
  exact h j p.connections (by rw [List.getElem?_map, hj]; rfl) hc'

/-- Where one port only may list a connection, cutting it is taking it off the list of that port. -/
theorem map_cut_eq_modify {i : Nat}
    (h : ∀ (j : Nat) (cs : List ConnectionId), (ps.map Port.connections)[j]? = some cs → c ∈ cs → j = i) :
    ps.map (·.cut fun c' => decide (c' = c)) = ps.modify i (·.deregister c) := by
  refine List.ext_getElem? fun j => ?_
  rw [List.getElem?_map, List.getElem?_modify]
  cases hj : ps[j]? with
  | none => rfl
  | some p =>
      dsimp only [Option.map_some, Option.map_eq_map]
      by_cases hij : i = j
      · rw [if_pos hij]
        unfold Port.cut Port.deregister
        simp only [ne_eq, decide_not]
      · rw [if_neg hij]
        refine congrArg some (Port.cut_of_none fun c' hc' => decide_eq_false ?_)
        rintro rfl
        exact hij (h j p.connections (by rw [List.getElem?_map, hj]; rfl) hc').symm

end Ports

/-- In a graph whose lists are right, a connection is taken off everywhere when it is taken off at its ends. -/
theorem Registered.cut_node {g : Graph} (h : g.Registered) {c : ConnectionId} {ends : Connection}
    (hc : g.connection? c = some ends) {n : NodeId} {node : Node} (hn : g.node? n = some node) :
    node.cut (fun c' => decide (c' = c)) = relistedNode ends (·.deregister c) n node := by
  have hout : ∀ j cs, node.outgoing[j]? = some cs → c ∈ cs → ends.src = ⟨n, j⟩ := by
    intro j cs hj hmem
    obtain ⟨found, hfound, hsrc⟩ := (h.mem_outgoing ⟨n, j⟩ cs c ((outgoing?_of_node? hn j).trans hj)).mp hmem
    rwa [← Option.some.inj (hc.symm.trans hfound)] at hsrc
  have hin : ∀ j cs, node.incoming[j]? = some cs → c ∈ cs → ends.dst = ⟨n, j⟩ := by
    intro j cs hj hmem
    obtain ⟨found, hfound, hdst⟩ := (h.mem_incoming ⟨n, j⟩ cs c ((incoming?_of_node? hn j).trans hj)).mp hmem
    rwa [← Option.some.inj (hc.symm.trans hfound)] at hdst
  have houtputs : node.outputs.map (·.cut fun c' => decide (c' = c))
      = if n = ends.src.node then node.outputs.modify ends.src.index (·.deregister c) else node.outputs := by
    split
    · exact map_cut_eq_modify fun j cs hj hmem => by rw [hout j cs hj hmem]
    · rename_i hne
      exact map_cut_of_not_mem fun j cs hj hmem => hne (by rw [hout j cs hj hmem])
  have hinputs : node.inputs.map (·.cut fun c' => decide (c' = c))
      = if n = ends.dst.node then node.inputs.modify ends.dst.index (·.deregister c) else node.inputs := by
    split
    · exact map_cut_eq_modify fun j cs hj hmem => by rw [hin j cs hj hmem]
    · rename_i hne
      exact map_cut_of_not_mem fun j cs hj hmem => hne (by rw [hin j cs hj hmem])
  unfold Node.cut relistedNode
  rw [houtputs, hinputs]
  dsimp only
  split <;> split <;> rfl

/-- A change at the two ends of a connection is a change of every node, which most of them do not notice. -/
theorem relistedArena_eq_mapValues (g : Graph) (ends : Connection) (f : Port → Port) :
    g.relistedArena ends f = g.arena.mapValues (relistedNode ends f) := by
  refine Table.eq_of_entries ?_
  unfold relistedArena Table.modify Table.mapValues
  dsimp only
  rw [List.map_map]
  refine List.map_congr_left ?_
  rintro ⟨n, node⟩ -
  unfold relistedNode
  dsimp only [Function.comp_apply]
  split <;> split <;> rfl

theorem Registered.dropConnection_eq_cut {g : Graph} (h : g.Registered) {c : ConnectionId} {ends : Connection}
    (hc : g.connection? c = some ends) : g.dropConnection c ends = g.cut fun c' => decide (c' = c) := by
  have harena : g.relistedArena ends (·.deregister c)
      = g.arena.mapValues fun _ node => node.cut fun c' => decide (c' = c) := by
    rw [relistedArena_eq_mapValues]
    exact Table.mapValues_congr fun n node hn => (h.cut_node hc hn).symm
  show { g with arena := g.relistedArena ends (·.deregister c), connections := g.connections.erase c } = g.cut _
  rw [harena, Table.erase_eq_restrict]
  rfl

/-- Dropping connections one after the other, each once, cuts all of them. -/
theorem Wired.foldl_dropConnection_eq_cut {g : Graph} (es : List (ConnectionId × Connection)) (h : g.Wired)
    (hes : ∀ e ∈ es, g.connection? e.1 = some e.2) (hnodup : (es.map Prod.fst).Nodup) :
    es.foldl (fun g e => g.dropConnection e.1 e.2) g = g.cut fun c => decide (c ∈ es.map Prod.fst) := by
  induction es generalizing g with
  | nil => exact (g.cut_of_none fun c => decide_eq_false List.not_mem_nil).symm
  | cons e es ih =>
      rw [List.map_cons, List.nodup_cons] at hnodup
      have hd : Drops g e.1 e.2 (g.dropConnection e.1 e.2) := drops_dropConnection (hes e List.mem_cons_self)
      have hrest : ∀ e' ∈ es, (g.dropConnection e.1 e.2).connection? e'.1 = some e'.2 := by
        intro e' he'
        have hne : e'.1 ≠ e.1 := fun heq => hnodup.1 (heq ▸ List.mem_map_of_mem he')
        rw [hd.connection?, if_neg hne]
        exact hes e' (List.mem_cons_of_mem _ he')
      rw [List.foldl_cons, ih (h.drops hd) hrest hnodup.2,
        h.dropConnection_eq_cut (hes e List.mem_cons_self), cut_cut]
      simp only [List.map_cons, List.mem_cons, Bool.decide_or]

/-! ## Removing one node -/

theorem severed_iff {g : Graph} {gone : List NodeId} {c : ConnectionId} :
    g.severed gone c = true ↔ ∃ ends, g.connection? c = some ends ∧ (ends.src.node ∈ gone ∨ ends.dst.node ∈ gone) := by
  unfold severed
  rw [Option.any_eq_true]
  refine exists_congr fun ends => and_congr_right fun _ => ?_
  rw [List.any_eq_true]
  unfold Connection.involves
  simp only [Bool.or_eq_true, beq_iff_eq]
  constructor
  · rintro ⟨n, hn, heq | heq⟩
    · exact Or.inl (heq ▸ hn)
    · exact Or.inr (heq ▸ hn)
  · rintro (hn | hn)
    · exact ⟨_, hn, Or.inl rfl⟩
    · exact ⟨_, hn, Or.inr rfl⟩

theorem severed_singleton (g : Graph) (n : NodeId) (c : ConnectionId) :
    g.severed [n] c = decide (c ∈ (g.incident n).map Prod.fst) := by
  rw [Bool.eq_iff_iff, decide_eq_true_iff, severed_iff, List.mem_map]
  constructor
  · rintro ⟨ends, hc, hends⟩
    refine ⟨(c, ends), List.mem_filter.mpr ⟨Table.mem_of_get? hc, ?_⟩, rfl⟩
    simpa [Connection.involves] using hends
  · rintro ⟨e, he, rfl⟩
    obtain ⟨hmem, hinv⟩ := List.mem_filter.mp he
    exact ⟨e.2, Table.get?_of_mem hmem, by simpa [Connection.involves] using hinv⟩

theorem Wired.isolate_eq_cut {g : Graph} (h : g.Wired) (n : NodeId) : g.isolate n = g.cut (g.severed [n]) := by
  have hes : ∀ e ∈ g.incident n, g.connection? e.1 = some e.2 :=
    fun e he => Table.get?_of_mem (List.mem_filter.mp he).1
  have hnodup : ((g.incident n).map Prod.fst).Nodup :=
    g.connections.nodup.sublist (List.filter_sublist.map Prod.fst)
  refine (h.foldl_dropConnection_eq_cut (g.incident n) hes hnodup).trans ?_
  rw [funext (g.severed_singleton n)]

/-- All connections that the ports of a node list have an end there. -/
theorem Registered.cut_severed {g : Graph} (h : g.Registered) {n : NodeId} {node : Node}
    (hn : g.node? n = some node) : node.cut (g.severed [n]) = node.bare := by
  refine Node.cut_of_all fun p hp c hc => severed_iff.mpr ?_
  rcases List.mem_append.mp hp with hin | hout
  · obtain ⟨i, hi⟩ := List.mem_iff_getElem?.mp hin
    have hlist : g.incoming? ⟨n, i⟩ = some p.connections := by
      rw [incoming?_of_node? hn, Node.incoming, List.getElem?_map, hi]
      rfl
    obtain ⟨ends, hends, hdst⟩ := (h.mem_incoming _ _ c hlist).mp hc
    exact ⟨ends, hends, Or.inr (by rw [hdst]; exact List.mem_singleton_self n)⟩
  · obtain ⟨i, hi⟩ := List.mem_iff_getElem?.mp hout
    have hlist : g.outgoing? ⟨n, i⟩ = some p.connections := by
      rw [outgoing?_of_node? hn, Node.outgoing, List.getElem?_map, hi]
      rfl
    obtain ⟨ends, hends, hsrc⟩ := (h.mem_outgoing _ _ c hlist).mp hc
    exact ⟨ends, hends, Or.inl (by rw [hsrc]; exact List.mem_singleton_self n)⟩

theorem Wired.removeOne_eq {g : Graph} (h : g.Wired) (n : NodeId) :
    g.removeOne n = (g.node? n).map fun node => (node.bare, g.without [n]) := by
  have htaken : ∀ g' : Graph, { g' with
      arena := g'.arena.erase n
      inPorts := g'.inPorts.filter (· ≠ n)
      body := g'.body.filter (· ≠ n)
      outPorts := g'.outPorts.filter (· ≠ n) } = g'.takeOut [n] := by
    intro g'
    unfold takeOut
    simp only [Table.erase_eq_restrict, List.mem_singleton, ne_eq]
  unfold removeOne
  dsimp only
  rw [htaken, h.isolate_eq_cut, node?_cut]
  cases hn : g.node? n with
  | none => rfl
  | some node =>
      rw [Option.map_some, Option.map_some, Option.map_some, h.cut_severed hn]
      rfl

/-! ## Removing the readers of a line -/

theorem Wired.discard_eq_without {g : Graph} (h : g.Wired) {m : NodeId} {node : Node} (hm : g.node? m = some node) :
    (g.discard m).Wired ∧ g.discard m = g.without [m] := by
  have hrem : g.removeOne m = some (node.bare, g.without [m]) := by
    rw [h.removeOne_eq, hm]
    rfl
  rw [discard_of_removeOne hrem]
  exact ⟨(removeOne_spec h hrem).1, rfl⟩

/-- Nodes that are taken out one by one, each once, are left out together. -/
theorem Wired.foldl_discard_eq_without {g : Graph} (ms : List NodeId) (h : g.Wired) (hnodup : ms.Nodup)
    (hms : ∀ m ∈ ms, ∃ node, g.node? m = some node) (gone : List NodeId) {start : Graph} (hg : g = start.without gone) :
    ms.foldl discard g = start.without (gone ++ ms) := by
  induction ms generalizing g gone with
  | nil => rw [List.append_nil]; exact hg
  | cons m ms ih =>
      obtain ⟨hnot, hrest⟩ := List.nodup_cons.mp hnodup
      obtain ⟨node, hm⟩ := hms m List.mem_cons_self
      obtain ⟨hwired, heq⟩ := h.discard_eq_without hm
      have hleft : ∀ m' ∈ ms, ∃ node, (g.discard m).node? m' = some node := by
        intro m' hm'
        obtain ⟨found, hfound⟩ := hms m' (List.mem_cons_of_mem _ hm')
        rw [heq, node?_without, if_neg (by rw [List.mem_singleton]; rintro rfl; exact hnot hm'), hfound]
        exact ⟨_, rfl⟩
      have hnext := ih hwired hrest hleft (gone ++ [m]) (by rw [heq, hg, without_without])
      rw [List.append_assoc] at hnext
      exact hnext

/-! ## Removing a node -/

/-- The nodes that go when a node is removed: the node, and with the owner of a line the readers of the line. -/
def GoesWith (g : Graph) (n m : NodeId) : Prop :=
  m = n ∨ (g.node? n).any Node.isDelayWrite = true ∧ ∃ reader, g.node? m = some reader ∧ reader.delay = some (.read n)

theorem Wired.removeNode_eq {g : Graph} (h : g.Wired) {n : NodeId} {node : Node} (hn : g.node? n = some node) :
    ∃ gone, (∀ m, m ∈ gone ↔ g.GoesWith n m) ∧ g.removeNode n = some (node.bare, g.without gone) := by
  have hone : g.removeOne n = some (node.bare, g.without [n]) := by
    rw [h.removeOne_eq, hn]
    rfl
  have hrem : g.removeNode n = some (node.bare,
      if node.isDelayWrite then ((g.without [n]).delayReadsOf n).foldl discard (g.without [n]) else g.without [n]) := by
    unfold removeNode
    rw [hone]
    rfl
  have hwired := (removeOne_spec h hone).1
  unfold GoesWith
  rw [hrem, hn, Option.any_some]
  cases hwrite : node.isDelayWrite with
  | false => exact ⟨[n], fun m => by simp, rfl⟩
  | true =>
      have hpresent : ∀ m ∈ (g.without [n]).delayReadsOf n, ∃ found, (g.without [n]).node? m = some found := by
        intro m hm
        obtain ⟨found, hfound, -⟩ := hwired.mem_delayReadsOf.mp hm
        exact ⟨found, hfound⟩
      have hnodup : ((g.without [n]).delayReadsOf n).Nodup := hwired.nodup.filter _
      refine ⟨[n] ++ (g.without [n]).delayReadsOf n, fun m => ?_, ?_⟩
      · rw [List.mem_append, List.mem_singleton, hwired.mem_delayReadsOf, node?_without]
        refine or_congr_right' fun hm => ?_
        rw [if_neg (by rwa [List.mem_singleton])]
        cases g.node? m with
        | none => simp
        | some found => simp [Node.cut]
      · rw [if_pos rfl, hwired.foldl_discard_eq_without _ hnodup hpresent [n] rfl]

/--
**A removal takes along what depends on the node, and nothing else.** This holds of every node of every graph that
edits lead to, whether it was new or read at first. With the owner of a delay line go the readers of the line, and with
these nodes go the connections that had an end at one of them. What is left is the graph without them: the other nodes
and connections, each as it was but for the lists at the ports, which lack the connections that went, and all in their
order. No reader is left whose line went. The node that is given back lists no connection any more. A node that is
not there is not removed, and then nothing changes.
-/
theorem removal_cascades {g : Graph} (hg : g.Attained) (n : NodeId) :
    (g.node? n = none → g.perform (.remove n) = (.absent, g))
      ∧ ∀ node, g.node? n = some node → node.bare.Unconnected ∧ ∃ gone, (∀ m, m ∈ gone ↔ g.GoesWith n m)
        ∧ g.removeNode n = some (node.bare, g.without gone)
        ∧ ∀ m left w, (g.without gone).node? m = some left → left.delay = some (.read w) → ¬ g.GoesWith n w := by
  have hwf := hg.wellFormed
  refine ⟨fun habsent => ?_, fun node hn => ⟨node.bare_unconnected, ?_⟩⟩
  · have hrem : g.removeNode n = none := by
      unfold removeNode
      rw [hwf.removeOne_eq, habsent]
      rfl
    unfold perform
    dsimp only
    rw [hrem]
  · obtain ⟨gone, hgone, hrem⟩ := hwf.toWired.removeNode_eq hn
    refine ⟨gone, hgone, hrem, ?_⟩
    -- the line that a reader reads is there, so its owner is not one of those that went
    intro m left w hm hread hgoes
    obtain ⟨owner, howner, -⟩ := (removeNode_spec hwf hrem).1.delays m left w hm hread
    rw [node?_without, if_pos ((hgone w).mpr hgoes)] at howner
    exact absurd howner (by simp)

/--
Two delay lines. The first has two readers, one of which feeds the owner of the line and the other is fed by it; a
reader of the second line feeds its owner.
-/
def twoLineEdits : List Edit :=
  [.insert .input 0 "x", .add .delayWrite, .addRead ⟨1⟩, .add .delayWrite, .addRead ⟨2⟩,
    .add (.ofNames ⟨"math", "abs"⟩ [""] [""]), .addRead ⟨3⟩, .insert .output 0 "y",
    .connect ⟨⟨0⟩, 0⟩ ⟨⟨1⟩, 1⟩, .connect ⟨⟨0⟩, 0⟩ ⟨⟨5⟩, 0⟩, .connect ⟨⟨2⟩, 0⟩ ⟨⟨1⟩, 0⟩,
    .connect ⟨⟨1⟩, 0⟩ ⟨⟨4⟩, 0⟩, .connect ⟨⟨4⟩, 0⟩ ⟨⟨7⟩, 0⟩, .connect ⟨⟨5⟩, 0⟩ ⟨⟨6⟩, 0⟩,
    .connect ⟨⟨6⟩, 0⟩ ⟨⟨3⟩, 1⟩, .connect ⟨⟨0⟩, 0⟩ ⟨⟨3⟩, 0⟩]

theorem two_lines_cascade :
    (∃ gone, (∀ m, m ∈ gone ↔ m = ⟨1⟩ ∨ m = ⟨2⟩ ∨ m = ⟨4⟩)
      ∧ ((empty "lines").run twoLineEdits).removeNode ⟨1⟩
        = some (.delayWrite, ((empty "lines").run twoLineEdits).without gone))
    ∧ (((empty "lines").run twoLineEdits).perform (.remove ⟨1⟩)).2.connections.keys = [⟨1⟩, ⟨5⟩, ⟨6⟩, ⟨7⟩]
    ∧ (((empty "lines").run twoLineEdits).perform (.remove ⟨1⟩)).2.body = [⟨3⟩, ⟨5⟩, ⟨6⟩] := by
  have hedits : ((empty "lines").run twoLineEdits).Reachable Edit.Clean := by
    refine ⟨"lines", twoLineEdits, ?_, roomFor_of_length (by decide) (by decide), rfl⟩
    intro e he
    simp only [twoLineEdits, List.mem_cons, List.not_mem_nil, or_false] at he
    rcases he with rfl | rfl | rfl | rfl | rfl | rfl | rfl | rfl | rfl | rfl | rfl | rfl | rfl | rfl | rfl | rfl
    case inr.inl => exact Node.delayWrite_unconnected
    case inr.inr.inr.inl => exact Node.delayWrite_unconnected
    case inr.inr.inr.inr.inr.inl => exact Node.ofNames_unconnected _ _ _
    all_goals trivial
  have hbare : (((empty "lines").run twoLineEdits).node? ⟨1⟩).map Node.bare = some .delayWrite := by cbv
  obtain ⟨node, hnode, hnew⟩ := Option.map_eq_some_iff.mp hbare
  obtain ⟨-, gone, hgone, hrem, -⟩ := (removal_cascades hedits.attained ⟨1⟩).2 node hnode
  have hreads : ((empty "lines").run twoLineEdits).delayReadsOf ⟨1⟩ = [⟨2⟩, ⟨4⟩] := by cbv
  have howner : (((empty "lines").run twoLineEdits).node? ⟨1⟩).any Node.isDelayWrite = true := by cbv
  refine ⟨⟨gone, fun m => (hgone m).trans (or_congr_right ?_), hnew ▸ hrem⟩, by cbv, by cbv⟩
  rw [← hedits.attained.wellFormed.mem_delayReadsOf, hreads]
  simp [howner]

end Graph

end SignalGraph
