import SignalGraph.Proofs.Layering.Placing
import SignalGraph.Proofs.Record.Accepted

/-!
# Every node in its layer

What `assignLayers` promises is a property of a graph and a layering (`Layering.Places`). It holds for every
well-formed graph whose terminals have their one port, whatever the ports of the other nodes, and so for every
graph that passes the check, new or read from a file at first, and edited in any way.
-/

namespace SignalGraph

/-- The layering places the nodes of the graph: each once, behind what feeds it, and terminals at the ends. -/
structure Layering.Places (l : Layering) (g : Graph) : Prop where
  /-- No node is placed twice. -/
  nodup : l.nodes.Nodup
  /-- The nodes of the graph are placed, and nothing else is. -/
  mem_nodes : ∀ n, n ∈ l.nodes ↔ ∃ node, g.node? n = some node
  /-- The index of a node is that of the layer that holds it. -/
  layerOf?_iff : ∀ n i, l.layerOf? n = some i ↔ ∃ layer, l.layers[i]? = some layer ∧ n ∈ layer
  /-- No layer is empty. -/
  nonempty : [] ∉ l.layers
  /-- Connections lead from a lower layer to a higher one. -/
  rising : ∀ c ends, g.connection? c = some ends →
    ∃ i j, l.layerOf? ends.src.node = some i ∧ l.layerOf? ends.dst.node = some j ∧ i < j
  /-- The first layer is that of the input terminals, as they were declared, and of numbers behind them. -/
  first : g.inPorts ≠ [] → ∃ numbers, l.layers.head? = some (g.inPorts ++ numbers)
    ∧ ∀ n ∈ numbers, ∃ node, g.node? n = some node ∧ node.isConstant = true
  /-- The last layer is that of the output terminals, as they were declared. -/
  last : g.outPorts ≠ [] → l.layers.getLast? = some g.outPorts
  /-- Input terminals and output terminals do not share a layer. -/
  apart : g.inPorts ≠ [] → g.outPorts ≠ [] → 1 < l.layers.length

theorem Layering.Places.lt_size {l : Layering} {g : Graph} (h : l.Places g) {n : NodeId} {i : Nat}
    (hn : l.layerOf? n = some i) : i < l.size := by
  obtain ⟨layer, hlayer, -⟩ := (h.layerOf?_iff n i).mp hn
  exact (List.getElem?_eq_some_iff.mp hlayer).1

namespace Graph

variable {g : Graph} {low high : Int}

/-- A layer holds the nodes with its index. -/
theorem Partitioned.mem_layer (h : g.Partitioned) (ht : g.Ranked low high g.finalRanks) {i : Nat}
    {layer : List NodeId} (hlayer : g.assignLayers.layers[i]? = some layer) {n : NodeId} :
    n ∈ layer ↔ g.assignLayers.layerOf? n = some i := by
  rw [mem_layer_iff hlayer]
  refine and_iff_right_of_imp ?_
  intro hn
  obtain ⟨rank, hrank, -⟩ := (ht.layerOf?_eq_some_iff h).mp hn
  exact h.mem_allNodes.mpr ((ht.mem_keys n).mp (Table.mem_keys_iff.mpr ⟨rank, hrank⟩))

/-- The rank of a node is among the ranks that become layers. -/
theorem Ranked.mem_usedRanks_of_get? (ht : g.Ranked low high g.finalRanks) {n : NodeId} {rank : Int}
    (hn : g.finalRanks.get? n = some rank) : rank ∈ usedRanks g.finalRanks := by
  obtain ⟨node, hnode⟩ := (ht.mem_keys n).mp (Table.mem_keys_iff.mpr ⟨rank, hn⟩)
  exact ht.mem_usedRanks.mpr ⟨n, node, hnode, hn⟩

theorem Partitioned.exists_layer (h : g.Partitioned) (ht : g.Ranked low high g.finalRanks) {n : NodeId} {i : Nat}
    (hn : g.assignLayers.layerOf? n = some i) : ∃ layer, g.assignLayers.layers[i]? = some layer ∧ n ∈ layer := by
  obtain ⟨rank, hrank, rfl⟩ := (ht.layerOf?_eq_some_iff h).mp hn
  have hlt := List.idxOf_lt_length_of_mem (ht.mem_usedRanks_of_get? hrank)
  rw [← ht.layers_length h] at hlt
  have hlayer := List.getElem?_eq_getElem hlt
  exact ⟨_, hlayer, (h.mem_layer ht hlayer).mpr hn⟩

theorem Partitioned.layers_nonempty (h : g.Partitioned) (ht : g.Ranked low high g.finalRanks) :
    [] ∉ g.assignLayers.layers := by
  intro hempty
  obtain ⟨i, hi⟩ := List.mem_iff_getElem?.mp hempty
  have hlt := (List.getElem?_eq_some_iff.mp hi).1
  rw [ht.layers_length h] at hlt
  obtain ⟨n, node, -, hrank⟩ := ht.mem_usedRanks.mp (List.getElem_mem hlt)
  have hn := (ht.layerOf?_eq_some_iff h).mpr ⟨_, hrank, idxOf_getElem_of_sorted (usedRanks_sorted _) hlt⟩
  exact absurd ((h.mem_layer ht hi).mpr hn) (by simp)

theorem Ranked.layerOf?_rising (h : g.WellFormed) (ht : g.Ranked low high g.finalRanks) {a b : NodeId}
    (hfeeds : g.Feeds a b) :
    ∃ i j, g.assignLayers.layerOf? a = some i ∧ g.assignLayers.layerOf? b = some j ∧ i < j := by
  obtain ⟨ra, ha⟩ := Table.mem_keys_iff.mp ((ht.mem_keys a).mpr (h.feeds_src_present hfeeds))
  obtain ⟨rb, hb⟩ := Table.mem_keys_iff.mp ((ht.mem_keys b).mpr (h.feeds_dst_present hfeeds))
  have hlt := idxOf_lt_of_sorted (usedRanks_sorted _) (ht.mem_usedRanks_of_get? ha) (ht.mem_usedRanks_of_get? hb)
    (ht.rising a b ra rb hfeeds ha hb)
  exact ⟨_, _, (ht.layerOf?_eq_some_iff h.toPartitioned).mpr ⟨ra, ha, rfl⟩,
    (ht.layerOf?_eq_some_iff h.toPartitioned).mpr ⟨rb, hb, rfl⟩, hlt⟩

/-- The layer of a rank holds the nodes of that rank. -/
theorem Ranked.layerOf?_iff_rank (h : g.Partitioned) (ht : g.Ranked low high g.finalRanks) (rank : Int)
    (m : NodeId) :
    g.assignLayers.layerOf? m = some ((usedRanks g.finalRanks).idxOf rank) ↔ g.finalRanks.get? m = some rank := by
  rw [ht.layerOf?_eq_some_iff h]
  constructor
  · rintro ⟨found, hfound, hsame⟩
    rw [hfound, (List.idxOf_inj (ht.mem_usedRanks_of_get? hfound)).mp hsame]
  · intro hm
    exact ⟨rank, hm, rfl⟩

theorem Ranked.idxOf_first (ht : g.Ranked low high g.finalRanks) {n : NodeId}
    (hn : g.finalRanks.get? n = some low) : (usedRanks g.finalRanks).idxOf low = 0 := by
  refine idxOf_of_lowest (usedRanks_sorted _) (ht.mem_usedRanks_of_get? hn) ?_
  intro rank hrank
  obtain ⟨m, -, -, hm⟩ := ht.mem_usedRanks.mp hrank
  exact ht.first_le m rank hm

theorem Ranked.idxOf_last (h : g.Partitioned) (ht : g.Ranked low high g.finalRanks) {n : NodeId}
    (hn : g.finalRanks.get? n = some high) :
    (usedRanks g.finalRanks).idxOf high = g.assignLayers.layers.length - 1 := by
  rw [ht.layers_length h]
  refine idxOf_of_highest (usedRanks_sorted _) (ht.mem_usedRanks_of_get? hn) ?_
  intro rank hrank
  obtain ⟨m, -, -, hm⟩ := ht.mem_usedRanks.mp hrank
  exact ht.le_last m rank hm

/-! ## The layers of terminals -/

/-- A layer that holds all terminals of a direction, and besides them body nodes only, starts with them. -/
theorem Partitioned.layer_eq (h : g.Partitioned) {d : Direction} {i : Nat}
    {layer others : List NodeId} (hlayer : g.assignLayers.layers[i]? = some layer)
    (hfilter : (g.allNodes.filter fun n => g.assignLayers.layerOf? n == some i) = g.terminals d ++ others)
    (hothers : ∀ n ∈ others, n ∈ g.body) : ∃ others', others'.Perm others ∧ layer = g.terminals d ++ others' := by
  obtain ⟨s, rfl, heq, hplaces⟩ := getElem?_assignLayers hlayer
  rw [heq, hfilter]
  refine s.sortLayer_terminals (d := d) ?_ ?_
  · intro k n hn
    have hmem := List.mem_of_getElem? hn
    have hin : n ∈ s.graph.allNodes.filter fun n => s.graph.assignLayers.layerOf? n == some i :=
      hfilter ▸ List.mem_append_left _ hmem
    refine ⟨?_, h.mem_terminals.mp hmem⟩
    rw [hplaces n (beq_iff_eq.mp (List.mem_filter.mp hin).2)]
    exact h.terminalPlaces_eq hn
  · intro n hn
    obtain ⟨node, hnode, hmark⟩ := (h.mem_body n).mp (hothers n hn)
    rw [hnode]
    exact hmark

theorem WellFormed.first_layer (h : g.WellFormed) (ht : g.RankedEnds low high g.finalRanks)
    (hne : g.inPorts ≠ []) : ∃ numbers, g.assignLayers.layers.head? = some (g.inPorts ++ numbers)
      ∧ ∀ n ∈ numbers, ∃ node, g.node? n = some node ∧ node.isConstant = true := by
  have hat := ht.inputsAt hne
  obtain ⟨n, hn⟩ := List.exists_mem_of_ne_nil _ hne
  have hlow : ∀ m, g.assignLayers.layerOf? m = some 0 ↔ g.finalRanks.get? m = some low := by
    rw [← ht.idxOf_first (hat.inputs n hn)]
    exact ht.layerOf?_iff_rank h.toPartitioned low
  have hinputs : ∀ m ∈ g.inPorts, g.assignLayers.layerOf? m = some 0 := fun m hm => (hlow m).mpr (hat.inputs m hm)
  have hrest : ∀ m, m ∉ g.inPorts → g.assignLayers.layerOf? m = some 0 →
      ∃ node, g.node? m = some node ∧ node.isConstant = true :=
    fun m hm hzero => (hat.others m ((hlow m).mp hzero)).resolve_left hm
  obtain ⟨layer, hfirst, -⟩ := h.exists_layer ht.toRanked (hinputs n hn)
  have hin : (g.inPorts.filter fun n => g.assignLayers.layerOf? n == some 0) = g.inPorts :=
    List.filter_eq_self.mpr fun m hm => beq_iff_eq.mpr (hinputs m hm)
  have hout : (g.outPorts.filter fun n => g.assignLayers.layerOf? n == some 0) = [] := by
    refine List.filter_eq_nil_iff.mpr ?_
    intro m hm hzero
    -- an output terminal is neither an input terminal nor a number
    obtain ⟨node, hnode, hmark⟩ := (h.mem_outPorts m).mp hm
    obtain ⟨found, hfound, hconst⟩ := hrest m (fun hin => h.not_mem_outPorts hin hm) (beq_iff_eq.mp hzero)
    rw [hnode] at hfound
    injection hfound with hfound
    rw [← hfound, Node.isConstant_of_isTerminalOf hmark] at hconst
    exact absurd hconst (by simp)
  have hfilter : (g.allNodes.filter fun n => g.assignLayers.layerOf? n == some 0)
      = g.terminals .input ++ g.body.filter fun n => g.assignLayers.layerOf? n == some 0 := by
    unfold allNodes
    rw [List.filter_append, List.filter_append, hin, hout, List.append_nil]
    rfl
  obtain ⟨numbers, hperm, heq⟩ := h.layer_eq hfirst hfilter fun m hm => (List.mem_filter.mp hm).1
  refine ⟨numbers, ?_, ?_⟩
  · rw [List.head?_eq_getElem?, hfirst, heq]
    rfl
  · intro m hm
    obtain ⟨hbody, hzero⟩ := List.mem_filter.mp (hperm.mem_iff.mp hm)
    refine hrest m ?_ (beq_iff_eq.mp hzero)
    intro hin
    have hdisjoint := (List.nodup_append.mp (List.nodup_append.mp h.nodup).1).2.2
    exact hdisjoint m hin m hbody rfl

theorem WellFormed.last_layer (h : g.WellFormed) (ht : g.RankedEnds low high g.finalRanks)
    (hne : g.outPorts ≠ []) : g.assignLayers.layers.getLast? = some g.outPorts := by
  have hat := ht.outputsAt hne
  obtain ⟨n, hn⟩ := List.exists_mem_of_ne_nil _ hne
  have hhigh : ∀ m, g.assignLayers.layerOf? m = some (g.assignLayers.layers.length - 1) ↔ m ∈ g.outPorts := by
    intro m
    rw [← ht.idxOf_last h.toPartitioned ((hat n).mpr hn), ht.layerOf?_iff_rank h.toPartitioned, hat m]
  obtain ⟨layer, hlast, -⟩ := h.exists_layer ht.toRanked ((hhigh n).mpr hn)
  have hfilter : (g.allNodes.filter fun n => g.assignLayers.layerOf? n == some (g.assignLayers.layers.length - 1))
      = g.terminals .output ++ [] := by
    unfold allNodes
    rw [List.filter_append, List.filter_eq_nil_iff.mpr, List.nil_append, List.filter_eq_self.mpr, List.append_nil]
    · rfl
    · intro m hm
      exact beq_iff_eq.mpr ((hhigh m).mpr hm)
    · intro m hm hout
      have hdisjoint := (List.nodup_append.mp h.nodup).2.2
      exact hdisjoint m hm m ((hhigh m).mp (beq_iff_eq.mp hout)) rfl
  obtain ⟨others, hperm, heq⟩ := h.layer_eq hlast hfilter (by simp)
  rw [List.perm_nil.mp hperm, List.append_nil] at heq
  rw [List.getLast?_eq_getElem?, hlast, heq]
  rfl

/-! ## The whole layering -/

theorem WellFormed.assignLayers_places (h : g.WellFormed)
    (hshape : ∀ n node, g.node? n = some node → node.OnePort) : g.assignLayers.Places g := by
  obtain ⟨low, high, ht⟩ := h.finalRanks_ends hshape
  exact {
    nodup := h.assignLayers_perm.nodup_iff.mpr h.nodup
    mem_nodes := by
      intro n
      rw [h.assignLayers_perm.mem_iff, h.mem_allNodes]
    layerOf?_iff := by
      intro n i
      constructor
      · exact h.exists_layer ht.toRanked
      · rintro ⟨layer, hlayer, hn⟩
        exact (h.mem_layer ht.toRanked hlayer).mp hn
    nonempty := h.layers_nonempty ht.toRanked
    rising := by
      intro c ends hends
      exact ht.layerOf?_rising h ⟨c, ends, hends, rfl, rfl⟩
    first := h.first_layer ht
    last := h.last_layer ht
    apart := by
      intro hin hout
      by_contra hle
      obtain ⟨numbers, hfirst, -⟩ := h.first_layer ht hin
      have hlast := h.last_layer ht hout
      -- a single layer would start with an input terminal and hold output terminals only
      rw [List.getLast?_eq_getElem?, show g.assignLayers.layers.length - 1 = 0 by omega, ← List.head?_eq_getElem?,
        hfirst] at hlast
      injection hlast with hlast
      obtain ⟨n, hn⟩ := List.exists_mem_of_ne_nil _ hin
      exact h.not_mem_outPorts hn (hlast ▸ List.mem_append_left _ hn) }

/-- A graph that passes the check has terminals with one port. -/
theorem Partitioned.onePort_of_check (h : g.Partitioned) (hcheck : g.checkInvariants = .ok ()) {n : NodeId}
    {node : Node} (hn : g.node? n = some node) : node.OnePort := by
  have hfault : g.fault? = none := by
    unfold checkInvariants at hcheck
    split at hcheck
    · assumption
    · exact absurd hcheck (by simp)
  unfold fault? at hfault
  dsimp only at hfault
  simp only [Option.orElse_eq_none] at hfault
  obtain ⟨-, -, hinputs, houtputs, -⟩ := hfault
  constructor
  · intro hmark
    have hshape := List.findSome?_eq_none_iff.mp hinputs n ((h.mem_inPorts n).mpr ⟨node, hn, hmark⟩)
    rw [hn, Option.any_some] at hshape
    simpa using hshape
  · intro hmark
    have hshape := List.findSome?_eq_none_iff.mp houtputs n ((h.mem_outPorts n).mpr ⟨node, hn, hmark⟩)
    rw [hn, Option.any_some] at hshape
    simpa using hshape

/--
**The layers of a graph.** A graph that passes the check, whether it was new or read at first, and whatever edits were
made to it, is divided into layers that hold every node once. Connections lead upwards, and the terminals lie at both
ends.
-/
theorem layers_place_nodes (hg : g.Attained) (hcheck : g.checkInvariants = .ok ()) : g.assignLayers.Places g := by
  have hwf := hg.wellFormed
  exact hwf.assignLayers_places fun n node hn => hwf.onePort_of_check hcheck hn

/-- A number beside an input terminal, and a node between the terminals with an output that leads nowhere. -/
theorem split_places :
    let g := (empty "split").run [.insert .input 0 "x", .add (.ofNames ⟨"bands", "split"⟩ ["x"] ["low", "high"]),
      .add (.ofNames ⟨"", "2.5"⟩ [] [""]), .insert .output 0 "y", .connect ⟨⟨0⟩, 0⟩ ⟨⟨1⟩, 0⟩,
      .connect ⟨⟨1⟩, 0⟩ ⟨⟨3⟩, 0⟩]
    g.checkInvariants = .ok () ∧ g.assignLayers.Places g := by
  intro g
  have hedits : g.Reachable fun e => e.Clean ∧ e.OnePort := by
    refine ⟨"split", _, ?_, ?_, rfl⟩
    · intro e he
      simp only [List.mem_cons, List.not_mem_nil, or_false] at he
      rcases he with rfl | rfl | rfl | rfl | rfl | rfl
      case inr.inl => exact ⟨Node.ofNames_unconnected _ _ _, by decide, by decide⟩
      case inr.inr.inl => exact ⟨Node.ofNames_unconnected _ _ _, by decide, by decide⟩
      all_goals exact ⟨trivial, trivial⟩
    · exact roomFor_of_length (by simp [empty]) (by simp [empty])
  exact ⟨hedits.checkInvariants, layers_place_nodes (hedits.mono fun _ he => he.1).attained hedits.checkInvariants⟩

end Graph

end SignalGraph
