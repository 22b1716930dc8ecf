import SignalGraph.Proofs.Graph.Cascade

/-!
# Making and dropping connections undo each other

A connection that was made and is dropped again leaves nothing behind but the number it had. A connection that was
dropped can be made again: its input is free now, and there is no way back, since there was none with the connection
either. It comes back under the next number and behind all others, and apart from this the graph is the one from before
(`renewed`).

Both are equations between whole graphs. They come from what a change at the two ends of a connection makes of every
node: what is cut afterwards need not have been listed, and what a port lists is listed nowhere else. Since dropping a
connection is cutting it from all nodes, the order in which connections are dropped does not matter.
-/

namespace SignalGraph

namespace Table

universe u v

variable {κ : Type u} {ν : Type v} [DecidableEq κ]

/-- A new entry that is not kept need not have been made. -/
theorem restrict_set {t : Table κ ν} {keep : κ → Bool} {k : κ} (hnew : k ∉ t.keys) (hk : keep k = false) (v : ν) :
    (t.set k v).restrict keep = t.restrict keep := by
  refine eq_of_entries ?_
  unfold restrict
  dsimp only
  rw [entries_set_of_not_mem hnew, List.filter_append, List.filter_cons, if_neg (by rw [hk]; simp), List.filter_nil,
    List.append_nil]

end Table

/-- The port with another connection for one that it lists, behind all others. -/
def Port.renew (p : Port) (c c' : ConnectionId) : Port :=
  if c ∈ p.connections then { p with connections := p.connections.filter (· ≠ c) ++ [c'] } else p

/-- The node with another connection for one that its ports list. -/
def Node.renew (n : Node) (c c' : ConnectionId) : Node :=
  { n with inputs := n.inputs.map (·.renew c c'), outputs := n.outputs.map (·.renew c c') }

namespace Graph

/-- The graph with a connection under the next number, behind all others. -/
def renewed (g : Graph) (c : ConnectionId) (ends : Connection) : Graph :=
  { g with
    arena := g.arena.mapValues fun _ node => node.renew c ⟨g.nextConnection⟩
    connections := (g.connections.erase c).set ⟨g.nextConnection⟩ ends
    nextConnection := g.nextConnection + 1 }

/-! ## What is cut need not have been listed -/

section Ports

variable {ps : List Port} {c c' : ConnectionId} {gone : ConnectionId → Bool}

theorem map_cut_modify {f : Port → Port} (hf : ∀ p, (f p).cut gone = p.cut gone) (ps : List Port) (i : Nat) :
    (ps.modify i f).map (·.cut gone) = ps.map (·.cut gone) := by
  refine List.ext_getElem? fun j => ?_
  rw [List.getElem?_map, List.getElem?_map, List.getElem?_modify]
  cases ps[j]? with
  | none => rfl
  | some p =>
      dsimp only [Option.map_some, Option.map_eq_map]
      split
      · rw [hf]
      · rfl

/-- Where no port lists a connection, there is nothing to renew. -/
theorem map_renew_of_not_mem
    (h : ∀ (j : Nat) (cs : List ConnectionId), (ps.map Port.connections)[j]? = some cs → c ∉ cs) :
    ps.map (·.renew c c') = ps := by
  refine (List.map_congr_left ?_).trans (List.map_id ps)
  intro p hp
  obtain ⟨j, hj⟩ := List.mem_iff_getElem?.mp hp
  exact if_neg (h j p.connections (by rw [List.getElem?_map, hj]; rfl))

/-- Where one port lists a connection, renewing it is cutting it and adding the new one to the list of that port. -/
theorem map_renew_eq_modify {i : Nat}
    (h : ∀ (j : Nat) (cs : List ConnectionId), (ps.map Port.connections)[j]? = some cs → (c ∈ cs ↔ j = i)) :
    ps.map (·.renew c c') = (ps.map (·.cut fun c' => decide (c' = c))).modify i (·.register c') := by
  refine List.ext_getElem? fun j => ?_
  rw [List.getElem?_map, List.getElem?_modify, List.getElem?_map]
  cases hj : ps[j]? with
  | none => rfl
  | some p =>
      have hmem := h j p.connections (by rw [List.getElem?_map, hj]; rfl)
      dsimp only [Option.map_some, Option.map_eq_map]
      unfold Port.renew
      by_cases hij : i = j
      · rw [if_pos hij, if_pos (hmem.mpr hij.symm)]
        unfold Port.cut Port.register
        simp only [ne_eq, decide_not]
      · have hnot : c ∉ p.connections := fun hc => hij (hmem.mp hc).symm
        rw [if_neg hij, if_neg hnot]
        refine congrArg some (Port.cut_of_none fun c' hc' => decide_eq_false ?_).symm
        rintro rfl
        exact hnot hc'

end Ports

theorem cut_relistedNode {gone : ConnectionId → Bool} {f : Port → Port} (hf : ∀ p, (f p).cut gone = p.cut gone)
    (ends : Connection) (n : NodeId) (node : Node) : (relistedNode ends f n node).cut gone = node.cut gone := by
  have houtput : ∀ i, (node.modifyOutput i f).cut gone = node.cut gone := by
    intro i
    unfold Node.cut Node.modifyOutput
    rw [map_cut_modify hf]
  have hinput : ∀ (m : Node) (i : Nat), (m.modifyInput i f).cut gone = m.cut gone := by
    intro m i
    unfold Node.cut Node.modifyInput
    rw [map_cut_modify hf]
  unfold relistedNode
  dsimp only
  split <;> split
  · rw [hinput, houtput]
  · rw [hinput]
  · rw [houtput]
  · rfl

/-- A connection that is not there is on no list. -/
theorem Registered.cut_absent {g : Graph} (h : g.Registered) {c : ConnectionId} (hc : g.connection? c = none) :
    g.cut (fun c' => decide (c' = c)) = g := by
  have hnode : ∀ n node, g.node? n = some node → node.cut (fun c' => decide (c' = c)) = node := by
    intro n node hn
    have houtputs : node.outputs.map (·.cut fun c' => decide (c' = c)) = node.outputs := by
      refine map_cut_of_not_mem fun j cs hj hmem => ?_
      obtain ⟨ends, hends, -⟩ := (h.mem_outgoing ⟨n, j⟩ cs c ((outgoing?_of_node? hn j).trans hj)).mp hmem
      exact absurd (hc.symm.trans hends) (by simp)
    have hinputs : node.inputs.map (·.cut fun c' => decide (c' = c)) = node.inputs := by
      refine map_cut_of_not_mem fun j cs hj hmem => ?_
      obtain ⟨ends, hends, -⟩ := (h.mem_incoming ⟨n, j⟩ cs c ((incoming?_of_node? hn j).trans hj)).mp hmem
      exact absurd (hc.symm.trans hends) (by simp)
    unfold Node.cut
    rw [houtputs, hinputs]
  have hkeys : ∀ k ∈ g.connections.keys, (!decide (k = c)) = true := by
    rintro k hk
    have hne : k ≠ c := fun heq => Table.get?_eq_none_iff.mp hc (heq ▸ hk)
    rw [decide_eq_false hne]
    rfl
  unfold cut
  rw [Table.mapValues_congr hnode, Table.mapValues_id, Table.restrict_of_forall hkeys]

/-! ## Dropping what was made -/

/-- What is given back is the connection that was there. -/
theorem map_fst_disconnect (g : Graph) (c : ConnectionId) : (g.disconnect c).map Prod.fst = g.connection? c := by
  unfold disconnect
  rw [Option.map_map]
  exact Option.map_id'

theorem disconnect_of_connection? {g : Graph} {c : ConnectionId} {ends : Connection}
    (hc : g.connection? c = some ends) : g.disconnect c = some (ends, g.dropConnection c ends) := by
  unfold disconnect
  rw [hc, Option.map_some]

/-- A new connection that is cut leaves the advanced counter behind, and nothing else. -/
theorem Numbered.cut_join {g : Graph} (h : g.Numbered) (src : OutPort) (dst : InPort) :
    (g.join src dst).cut (fun c' => decide (c' = ⟨g.nextConnection⟩))
      = { g.cut (fun c' => decide (c' = ⟨g.nextConnection⟩)) with nextConnection := g.nextConnection + 1 } := by
  have hport : ∀ p : Port, (p.register ⟨g.nextConnection⟩).cut (fun c' => decide (c' = ⟨g.nextConnection⟩))
      = p.cut fun c' => decide (c' = ⟨g.nextConnection⟩) := by
    intro p
    unfold Port.cut Port.register
    rw [List.filter_append, List.filter_cons, if_neg (by simp), List.filter_nil, List.append_nil]
  unfold join cut
  dsimp only
  rw [relistedArena_eq_mapValues, Table.mapValues_mapValues,
    Table.restrict_set (Table.get?_eq_none_iff.mp h.fresh_connection) (by simp)]
  simp only [cut_relistedNode hport]

theorem WellFormed.disconnect_connect {g g' : Graph} (h : g.WellFormed) {src : OutPort} {dst : InPort}
    {c : ConnectionId} (hconnect : g.connect src dst = .ok (c, g')) :
    g'.disconnect c = some (⟨src, dst⟩, { g with nextConnection := g.nextConnection + 1 }) := by
  have hj := joins_connect h.toNumbered hconnect
  have hdrop := (h.toRegistered.joins hj).dropConnection_eq_cut hj.connection?_self
  obtain ⟨-, -, -, rfl, rfl⟩ := connect_eq_ok_iff.mp hconnect
  rw [disconnect_of_connection? hj.connection?_self, hdrop, h.toNumbered.cut_join, h.toRegistered.cut_absent hj.fresh]

/-! ## Making what was dropped -/

/-- At its ends a connection that was cut is renewed, and no other port notices. -/
theorem Registered.renew_node {g : Graph} (h : g.Registered) {c : ConnectionId} {ends : Connection}
    (hc : g.connection? c = some ends) (c' : ConnectionId) {n : NodeId} {node : Node} (hn : g.node? n = some node) :
    relistedNode ends (·.register c') n (node.cut fun c' => decide (c' = c)) = node.renew c c' := by
  have hout : ∀ j cs, node.outgoing[j]? = some cs → (c ∈ cs ↔ ends.src = ⟨n, j⟩) := by
    intro j cs hj
    rw [h.mem_outgoing ⟨n, j⟩ cs c ((outgoing?_of_node? hn j).trans hj), hc]
    simp
  have hin : ∀ j cs, node.incoming[j]? = some cs → (c ∈ cs ↔ ends.dst = ⟨n, j⟩) := by
    intro j cs hj
    rw [h.mem_incoming ⟨n, j⟩ cs c ((incoming?_of_node? hn j).trans hj), hc]
    simp
  obtain ⟨⟨src, i⟩, ⟨dst, k⟩⟩ := ends
  -- where the connection has an end one port lists it, and elsewhere none does
  have houtputs : node.outputs.map (·.renew c c') = if n = src
      then (node.outputs.map (·.cut fun c' => decide (c' = c))).modify i (·.register c')
      else node.outputs.map (·.cut fun c' => decide (c' = c)) := by
    split
    · rename_i heq
      refine map_renew_eq_modify fun j cs hj => (hout j cs hj).trans ?_
      simp [heq, eq_comm]
    · rename_i hne
      have hnot : ∀ j cs, node.outgoing[j]? = some cs → c ∉ cs :=
        fun j cs hj hmem => hne (congrArg OutPort.node ((hout j cs hj).mp hmem)).symm
      exact (map_renew_of_not_mem hnot).trans (map_cut_of_not_mem hnot).symm
  have hinputs : node.inputs.map (·.renew c c') = if n = dst
      then (node.inputs.map (·.cut fun c' => decide (c' = c))).modify k (·.register c')
      else node.inputs.map (·.cut fun c' => decide (c' = c)) := by
    split
    · rename_i heq
      refine map_renew_eq_modify fun j cs hj => (hin j cs hj).trans ?_
      simp [heq, eq_comm]
    · rename_i hne
      have hnot : ∀ j cs, node.incoming[j]? = some cs → c ∉ cs :=
        fun j cs hj hmem => hne (congrArg InPort.node ((hin j cs hj).mp hmem)).symm
      exact (map_renew_of_not_mem hnot).trans (map_cut_of_not_mem hnot).symm
  unfold Node.renew relistedNode
  rw [houtputs, hinputs]
  dsimp only
  split <;> split <;> rfl

theorem Registered.join_cut {g : Graph} (h : g.Registered) {c : ConnectionId} {ends : Connection}
    (hc : g.connection? c = some ends) :
    (g.cut fun c' => decide (c' = c)).join ends.src ends.dst = g.renewed c ends := by
  unfold join renewed
  rw [relistedArena_eq_mapValues]
  unfold cut
  dsimp only
  rw [Table.mapValues_mapValues, Table.erase_eq_restrict,
    Table.mapValues_congr fun n node hn => h.renew_node hc ⟨g.nextConnection⟩ hn]

/-- What was connected can be connected again: the input is free, and signals did not come back before either. -/
theorem WellFormed.connect_disconnect {g g' : Graph} (h : g.WellFormed) {c : ConnectionId} {ends : Connection}
    (hdis : g.disconnect c = some (ends, g')) :
    g'.connect ends.src ends.dst = .ok (⟨g.nextConnection⟩, g.renewed c ends) := by
  have hd := drops_disconnect hdis
  have hreg := h.toRegistered.drops hd
  have hcut : g' = g.cut fun c' => decide (c' = c) := by
    rw [disconnect_of_connection? hd.old, Option.some.injEq, Prod.mk.injEq] at hdis
    rw [← hdis.2, h.toRegistered.dropConnection_eq_cut hd.old]
  have hsource : ∃ cs, g'.outgoing? ends.src = some cs :=
    hd.exists_outgoing?.mpr (h.src_listed c ends hd.old)
  -- nothing else was listed at the input
  have hfree : g'.incoming? ends.dst = some [] := by
    rw [hd.incoming?, h.incoming_eq_singleton hd.old, Option.map_some, if_pos rfl]
    simp
  have hway : g'.isOrPrecedes ends.dst.node ends.src.node = false := by
    rw [← Bool.not_eq_true, isOrPrecedes_iff hreg]
    intro hback
    -- with the connection, a way back would have closed a circle
    have hfeeds : ∀ a b, g'.Feeds a b → g.Feeds a b := by
      rintro a b ⟨c', ends', hc', ha, hb⟩
      exact ⟨c', ends', (hd.connection?_of_some hc').2, ha, hb⟩
    have hstep : g.Feeds ends.src.node ends.dst.node := ⟨c, ends, hd.old, rfl, rfl⟩
    exact h.acyclic _ (Relation.TransGen.head' hstep (Relation.ReflTransGen.mono hfeeds _ _ hback))
  refine connect_eq_ok_iff.mpr ⟨hsource, hfree, hway, ?_, ?_⟩
  · rw [hd.nextConnection]
  · rw [hcut, h.join_cut hd.old]

theorem Numbered.entries_renewed {g : Graph} (h : g.Numbered) (c : ConnectionId) (ends : Connection) :
    (g.renewed c ends).connections.entries
      = g.connections.entries.filter (·.1 ≠ c) ++ [(⟨g.nextConnection⟩, ends)] := by
  have hnew : (⟨g.nextConnection⟩ : ConnectionId) ∉ (g.connections.erase c).keys :=
    fun hmem => Table.get?_eq_none_iff.mp h.fresh_connection (Table.mem_keys_erase.mp hmem).1
  exact Table.entries_set_of_not_mem hnew ends

/-! ## Dropping several -/

/-- Whether a connection is there or not, asking to drop it cuts it. -/
theorem Wired.perform_disconnect {g : Graph} (h : g.Wired) (c : ConnectionId) :
    (g.perform (.disconnect c)).2 = g.cut (fun c' => decide (c' = c)) ∧ (g.perform (.disconnect c)).2.Wired := by
  cases hc : g.connection? c with
  | none =>
      have hperform : (g.perform (.disconnect c)).2 = g := by
        unfold perform Graph.disconnect
        dsimp only
        rw [hc]
        rfl
      rw [hperform]
      exact ⟨(h.cut_absent hc).symm, h⟩
  | some ends =>
      have hperform : (g.perform (.disconnect c)).2 = g.dropConnection c ends := by
        unfold perform
        dsimp only
        rw [disconnect_of_connection? hc]
      rw [hperform]
      exact ⟨h.dropConnection_eq_cut hc, h.drops (drops_dropConnection hc)⟩

theorem Wired.run_disconnect {g : Graph} (h : g.Wired) (cs : List ConnectionId) :
    g.run (cs.map .disconnect) = g.cut fun c => decide (c ∈ cs) := by
  induction cs generalizing g with
  | nil => exact (g.cut_of_none fun c => decide_eq_false List.not_mem_nil).symm
  | cons c cs ih =>
      -- one edit cuts one connection, and the graph that is left keeps the invariant for the next
      obtain ⟨hcut, hwired⟩ := h.perform_disconnect c
      calc g.run ((c :: cs).map .disconnect)
          = (g.perform (.disconnect c)).2.run (cs.map .disconnect) := rfl
        _ = (g.perform (.disconnect c)).2.cut (fun c' => decide (c' ∈ cs)) := ih hwired
        _ = g.cut fun c' => decide (c' ∈ c :: cs) := by
            rw [hcut, cut_cut]
            simp only [List.mem_cons, Bool.decide_or]

/--
**Making a connection and dropping it undo each other.** This holds of every graph that edits lead to, whether it was
new or read at first. A connection that was made is given back when it is dropped, and then the graph is as it was
before, with the next number spent. Every connection that is there can be dropped, and it can always be made again
between the same ports. Then the graph is as it was before, only that the connection has the next number and comes last,
in the order of all connections and where a port lists it. Connections that are dropped one after the other leave the
same graph in any order, also if some are not there or named twice.
-/
theorem connections_made_and_dropped {g : Graph} (hg : g.Attained) :
    (∀ src dst c g', g.connect src dst = .ok (c, g') →
        g'.disconnect c = some (⟨src, dst⟩, { g with nextConnection := g.nextConnection + 1 }))
      ∧ (∀ c, (g.disconnect c).map Prod.fst = g.connection? c)
      ∧ (∀ c ends g', g.disconnect c = some (ends, g') →
        g'.connect ends.src ends.dst = .ok (⟨g.nextConnection⟩, g.renewed c ends)
          ∧ (g.renewed c ends).connections.entries
            = g.connections.entries.filter (·.1 ≠ c) ++ [(⟨g.nextConnection⟩, ends)])
      ∧ ∀ cs cs' : List ConnectionId, (∀ c, c ∈ cs ↔ c ∈ cs') →
        g.run (cs.map .disconnect) = g.run (cs'.map .disconnect) := by
  have hwf := hg.wellFormed
  refine ⟨fun _ _ _ _ hconnect => hwf.disconnect_connect hconnect, g.map_fst_disconnect, fun c ends _ hdis => ?_,
    fun cs cs' hsame => ?_⟩
  · exact ⟨hwf.connect_disconnect hdis, hwf.toNumbered.entries_renewed c ends⟩
  · rw [hwf.toWired.run_disconnect, hwf.toWired.run_disconnect]
    simp only [hsame]

/-- An input that feeds both inputs of a sum. -/
def doublingEdits : List Edit :=
  [.insert .input 0 "x", .add (.ofNames ⟨"", "+"⟩ ["", ""] [""]), .connect ⟨⟨0⟩, 0⟩ ⟨⟨1⟩, 0⟩,
    .connect ⟨⟨0⟩, 0⟩ ⟨⟨1⟩, 1⟩]

/-- The first of two connections comes back as the third, behind the second. -/
theorem doubling_renews :
    let g := (empty "double").run doublingEdits
    (∃ g' : Graph, g'.connect ⟨⟨0⟩, 0⟩ ⟨⟨1⟩, 0⟩ = .ok (⟨2⟩, g.renewed ⟨0⟩ ⟨⟨⟨0⟩, 0⟩, ⟨⟨1⟩, 0⟩⟩))
      ∧ (g.renewed ⟨0⟩ ⟨⟨⟨0⟩, 0⟩, ⟨⟨1⟩, 0⟩⟩).outgoing? ⟨⟨0⟩, 0⟩ = some [⟨1⟩, ⟨2⟩] := by
  have hclean : ∀ e ∈ doublingEdits, e.Clean := by
    intro e he
    simp only [doublingEdits, List.mem_cons, List.not_mem_nil, or_false] at he
    rcases he with rfl | rfl | rfl | rfl
    case inr.inl => exact Node.ofNames_unconnected _ _ _
    all_goals trivial
  have hedits : ((empty "double").run doublingEdits).Reachable Edit.Clean :=
    ⟨"double", doublingEdits, hclean, roomFor_of_length (by decide) (by decide), rfl⟩
  have hconnection : ((empty "double").run doublingEdits).connection? ⟨0⟩ = some ⟨⟨⟨0⟩, 0⟩, ⟨⟨1⟩, 0⟩⟩ := by
    cbv
  have hnext : ((empty "double").run doublingEdits).nextConnection = 2 := by cbv
  obtain ⟨-, -, hagain, -⟩ := connections_made_and_dropped hedits.attained
  obtain ⟨hmade, -⟩ := hagain ⟨0⟩ _ _ (disconnect_of_connection? hconnection)
  rw [hnext] at hmade
  exact ⟨⟨_, hmade⟩, by cbv⟩

end Graph

end SignalGraph
