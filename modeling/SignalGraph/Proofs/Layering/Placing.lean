import SignalGraph.Proofs.Layering.Layers
import SignalGraph.Proofs.Layering.Pinning

/-!
# What a layering of a graph says

The ranks that occur become the layers in order, so connections lead upwards, the first layer is that of the
input terminals and the last one that of the output terminals. Layers are put in order one after the other, each
when those before it are settled. The order within a layer leaves terminals as they were declared.
-/

namespace SignalGraph

/-! ## Ranks in order -/

theorem nodup_eraseDups (ranks : List Int) : ranks.eraseDups.Nodup := by
  induction hlen : ranks.length using Nat.strong_induction_on generalizing ranks with
  | _ k ih =>
      cases ranks with
      | nil => exact List.nodup_nil
      | cons rank ranks =>
          rw [List.eraseDups_cons]
          refine List.nodup_cons.mpr ⟨?_, ih _ ?_ _ rfl⟩
          · rw [List.mem_eraseDups]
            simp
          · have hle := List.length_filter_le (fun other => !other == rank) ranks
            rw [List.length_cons] at hlen
            omega

/-- Every rank that occurs is used once, and lower ones come first. -/
theorem usedRanks_sorted (t : Table NodeId Int) : (usedRanks t).Pairwise (· < ·) := by
  have hsorted : (usedRanks t).Pairwise (· ≤ ·) := by
    refine (List.pairwise_mergeSort ?_ ?_ _).imp of_decide_eq_true
    · intro a b c hab hbc
      exact decide_eq_true (Int.le_trans (of_decide_eq_true hab) (of_decide_eq_true hbc))
    · intro a b
      rw [Bool.or_eq_true, decide_eq_true_eq, decide_eq_true_eq]
      exact Int.le_total a b
  have hnodup : (usedRanks t).Nodup := (List.mergeSort_perm _ _).nodup_iff.mpr (nodup_eraseDups _)
  exact hsorted.imp₂ (fun a b hle hne => lt_of_le_of_ne hle hne) hnodup

/-- The place of a rank among the ranks rises with it. -/
theorem idxOf_lt_of_sorted {ranks : List Int} (h : ranks.Pairwise (· < ·)) {a b : Int} (ha : a ∈ ranks)
    (hb : b ∈ ranks) (hab : a < b) : ranks.idxOf a < ranks.idxOf b := by
  have hia := List.idxOf_lt_length_of_mem ha
  have hib := List.idxOf_lt_length_of_mem hb
  by_contra hnot
  rcases Nat.lt_or_eq_of_le (Nat.not_lt.mp hnot) with hlt | heq
  · have hless := List.pairwise_iff_getElem.mp h _ _ hib hia hlt
    rw [List.getElem_idxOf, List.getElem_idxOf] at hless
    omega
  · have hsame := (List.idxOf_inj hb).mp heq
    omega

theorem idxOf_le_of_sorted {ranks : List Int} (h : ranks.Pairwise (· < ·)) {a b : Int} (ha : a ∈ ranks)
    (hb : b ∈ ranks) (hab : a ≤ b) : ranks.idxOf a ≤ ranks.idxOf b := by
  rcases Int.lt_or_eq_of_le hab with hlt | rfl
  · exact Nat.le_of_lt (idxOf_lt_of_sorted h ha hb hlt)
  · exact Nat.le_refl _

theorem idxOf_getElem_of_sorted {ranks : List Int} (h : ranks.Pairwise (· < ·)) {i : Nat} (hi : i < ranks.length) :
    ranks.idxOf ranks[i] = i := List.Nodup.idxOf_getElem (h.imp ne_of_lt) i hi

/-- No rank stands before the lowest one. -/
theorem idxOf_of_lowest {ranks : List Int} (h : ranks.Pairwise (· < ·)) {low : Int} (hlow : low ∈ ranks)
    (hle : ∀ rank ∈ ranks, low ≤ rank) : ranks.idxOf low = 0 := by
  have hpos := List.length_pos_of_mem hlow
  have hfirst := List.getElem_mem hpos
  have hbefore := idxOf_le_of_sorted h hlow hfirst (hle _ hfirst)
  rw [idxOf_getElem_of_sorted h hpos] at hbefore
  omega

/-- No rank stands behind the highest one. -/
theorem idxOf_of_highest {ranks : List Int} (h : ranks.Pairwise (· < ·)) {high : Int} (hhigh : high ∈ ranks)
    (hge : ∀ rank ∈ ranks, rank ≤ high) : ranks.idxOf high = ranks.length - 1 := by
  have hlt := List.idxOf_lt_length_of_mem hhigh
  have hbound : ranks.length - 1 < ranks.length := by omega
  have hlast := List.getElem_mem hbound
  have hbefore := idxOf_le_of_sorted h hlast hhigh (hge _ hlast)
  rw [idxOf_getElem_of_sorted h hbound] at hbefore
  omega

/-- In a sorted list without gaps, the place of a number is its distance from the lowest one. -/
theorem sorted_interval {ranks : List Int} (hsorted : ranks.Pairwise (· < ·)) {low : Int} {count : Nat}
    (hmem : ∀ rank, rank ∈ ranks ↔ low ≤ rank ∧ rank < low + count) :
    ranks.length = count ∧ ∀ i < count, ranks.idxOf (low + i) = i := by
  have hline : ((List.range count).map fun i : Nat => low + (i : Int)).Pairwise (· < ·) := by
    rw [List.pairwise_map]
    refine List.pairwise_lt_range.imp ?_
    intro i j hij
    omega
  have heq : ranks = (List.range count).map fun i : Nat => low + (i : Int) := by
    refine List.Perm.eq_of_pairwise (fun a b _ _ hab hba => absurd hba (by omega)) hsorted hline ?_
    refine (List.perm_ext_iff_of_nodup (hsorted.imp ne_of_lt) (hline.imp ne_of_lt)).mpr fun rank => ?_
    rw [hmem, List.mem_map]
    constructor
    · rintro ⟨hlow, hhigh⟩
      exact ⟨(rank - low).toNat, List.mem_range.mpr (by omega), by omega⟩
    · rintro ⟨i, hi, rfl⟩
      have hlt := List.mem_range.mp hi
      omega
  have hlength : ranks.length = count := by rw [heq, List.length_map, List.length_range]
  refine ⟨hlength, fun i hi => ?_⟩
  have hlt : i < ranks.length := hlength ▸ hi
  have hget : ranks[i] = low + i := by simp [heq]
  rw [← hget]
  exact idxOf_getElem_of_sorted hsorted hlt

namespace Surroundings

/-! ## Layer after layer -/

theorem sortLayers_length (s : Surroundings) (layers : List (List NodeId)) :
    (s.sortLayers layers).length = layers.length := (s.sortLayers_perm layers).length_eq

/-- Settling layers changes places only. -/
theorem foldl_settle_fixed (s : Surroundings) (layers : List (List NodeId)) :
    (layers.foldl settle s).graph = s.graph ∧ (layers.foldl settle s).layers = s.layers := by
  induction layers generalizing s with
  | nil => exact ⟨rfl, rfl⟩
  | cons layer layers ih => exact ih (s.settle layer)

/-- What is in none of the layers stays where it was. -/
theorem get?_settled_of_not_mem (s : Surroundings) {layers : List (List NodeId)} {n : NodeId} (h : n ∉ layers.flatten) :
    (layers.foldl settle s).places.get? n = s.places.get? n := by
  induction layers generalizing s with
  | nil => rfl
  | cons layer layers ih =>
      rw [List.flatten_cons, List.mem_append, not_or] at h
      refine (ih (s.settle layer) h.2).trans (Table.get?_setAll_of_not_mem _ ?_)
      rw [List.zipIdx_map_fst]
      exact h.1

/-- A settled node is at its place in its layer. -/
theorem get?_settled_of_mem (s : Surroundings) {layers : List (List NodeId)} (hnodup : layers.flatten.Nodup)
    {layer : List NodeId} (hlayer : layer ∈ layers) {k : Nat} {n : NodeId} (hn : layer[k]? = some n) :
    (layers.foldl settle s).places.get? n = some k := by
  induction layers generalizing s with
  | nil => exact absurd hlayer List.not_mem_nil
  | cons first layers ih =>
      rw [List.flatten_cons, List.nodup_append] at hnodup
      obtain ⟨hfirst, hrest, hdisjoint⟩ := hnodup
      rcases List.mem_cons.mp hlayer with rfl | hlayer
      · have hlater : n ∉ layers.flatten := fun hin => hdisjoint n (List.mem_of_getElem? hn) n hin rfl
        refine (get?_settled_of_not_mem (s.settle layer) hlater).trans (Table.get?_setAll_of_mem _ ?_ ?_)
        · rwa [List.zipIdx_map_fst]
        · exact List.mem_zipIdx_iff_getElem?.mpr hn
      · exact ih (s.settle first) hrest hlayer

/-- Each layer is put in order when those before it are settled. -/
theorem getElem?_sortLayers_settled (s : Surroundings) (layers : List (List NodeId)) (i : Nat) :
    (s.sortLayers layers)[i]? = layers[i]?.map (((s.sortLayers layers).take i).foldl settle s).sortLayer := by
  induction layers generalizing s i with
  | nil => rfl
  | cons layer layers ih =>
      cases i with
      | zero => rfl
      | succ i => exact ih (s.settle (s.sortLayer layer)) i

/-- When a layer is put in order, the places of all nodes of later layers are as they were at first. -/
theorem getElem?_sortLayers (s : Surroundings) {layers : List (List NodeId)} {i : Nat} {layer : List NodeId}
    (h : layers[i]? = some layer) : ∃ s' : Surroundings, (s.sortLayers layers)[i]? = some (s'.sortLayer layer)
      ∧ s'.graph = s.graph ∧ ∀ n, n ∉ (layers.take i).flatten → s'.places.get? n = s.places.get? n := by
  refine ⟨((s.sortLayers layers).take i).foldl settle s, ?_, (s.foldl_settle_fixed _).1, ?_⟩
  · rw [getElem?_sortLayers_settled, h]
    rfl
  · intro n hn
    have hperm := List.Perm.flatten_congr (List.forall₂_take i (s.sortLayers_perm layers))
    exact s.get?_settled_of_not_mem (mt hperm.mem_iff.mp hn)

/-! ## Terminals keep their order -/

/-- Terminals of one direction that stand in order come first and stay as they are. -/
theorem sortLayer_terminals (s : Surroundings) {d : Direction} {ports others : List NodeId}
    (hports : ∀ (i : Nat) n, ports[i]? = some n →
      s.places.get? n = some i ∧ ∃ node, s.graph.node? n = some node ∧ node.isTerminalOf d = true)
    (hothers : ∀ n ∈ others, (s.graph.node? n).any Node.isTerminal = false) :
    ∃ others', others'.Perm others ∧ s.sortLayer (ports ++ others) = ports ++ others' := by
  have hterminal : ∀ n ∈ ports, (s.graph.node? n).any Node.isTerminal = true := by
    intro n hn
    obtain ⟨i, hi⟩ := List.mem_iff_getElem?.mp hn
    obtain ⟨-, node, hnode, hmark⟩ := hports i n hi
    rw [hnode, Option.any_some]
    unfold Node.isTerminal
    cases d with
    | input => exact Bool.or_eq_true_iff.mpr (Or.inl hmark)
    | output => exact Bool.or_eq_true_iff.mpr (Or.inr hmark)
  have houtput : ∀ n ∈ ports, (s.graph.node? n).any Node.isOutputTerminal = decide (d = .output) := by
    intro n hn
    obtain ⟨i, hi⟩ := List.mem_iff_getElem?.mp hn
    obtain ⟨-, node, hnode, hmark⟩ := hports i n hi
    rw [hnode, Option.any_some]
    cases d with
    | input => exact Node.not_isOutputTerminal hmark
    | output => exact hmark
  have hsorted : ports.Pairwise fun a b => (s.compareTerminals a b != .gt) = true := by
    refine List.pairwise_iff_getElem.mpr ?_
    intro i j hi hj hij
    have hplace := (hports i _ (List.getElem?_eq_getElem hi)).1
    have hplace' := (hports j _ (List.getElem?_eq_getElem hj)).1
    unfold compareTerminals
    dsimp only
    rw [houtput _ (List.getElem_mem hi), houtput _ (List.getElem_mem hj), hplace, hplace',
      compare_eq_iff_eq.mpr rfl, Ordering.eq_then, show compare (some i) (some j) = .lt from
        Nat.compare_eq_lt.mpr hij]
    rfl
  unfold sortLayer
  dsimp only
  have hkept : (ports ++ others).filter (fun n => (s.graph.node? n).any Node.isTerminal) = ports := by
    rw [List.filter_append, List.filter_eq_self.mpr hterminal, List.filter_eq_nil_iff.mpr, List.append_nil]
    intro n hn
    rw [hothers n hn]
    exact Bool.false_ne_true
  have hrest : (ports ++ others).filter (fun n => !(s.graph.node? n).any Node.isTerminal) = others := by
    rw [List.filter_append, List.filter_eq_nil_iff.mpr, List.nil_append, List.filter_eq_self.mpr]
    · intro n hn
      rw [hothers n hn]
      rfl
    · intro n hn
      rw [hterminal n hn]
      exact Bool.false_ne_true
  rw [hkept, hrest, List.mergeSort_of_pairwise hsorted]
  exact ⟨_, List.mergeSort_perm _ _, rfl⟩

end Surroundings

namespace Graph

variable {g : Graph}

/-! ## Layers and ranks -/

theorem Partitioned.terminalPlaces_eq (h : g.Partitioned) {d : Direction} {i : Nat} {n : NodeId}
    (hn : (g.terminals d)[i]? = some n) : g.terminalPlaces.get? n = some i := by
  have hnodup : (g.inPorts ++ g.outPorts).Nodup := by
    refine h.nodup.sublist ?_
    unfold allNodes
    rw [List.append_assoc]
    exact (List.sublist_append_right g.body g.outPorts).append_left g.inPorts
  unfold terminalPlaces Table.ofList
  refine Table.get?_setAll_of_mem ∅ ?_ ?_
  · rw [List.map_append, List.zipIdx_map_fst, List.zipIdx_map_fst]
    exact hnodup
  · rw [List.mem_append, List.mem_zipIdx_iff_getElem?, List.mem_zipIdx_iff_getElem?]
    cases d with
    | input => exact Or.inl hn
    | output => exact Or.inr hn

/-- A layer is put in order when the nodes of later layers are still at the places they had at first. -/
theorem getElem?_assignLayers {i : Nat} {layer : List NodeId} (h : g.assignLayers.layers[i]? = some layer) :
    ∃ s : Surroundings, s.graph = g
      ∧ layer = s.sortLayer (g.allNodes.filter fun n => g.assignLayers.layerOf? n == some i)
      ∧ ∀ n, g.assignLayers.layerOf? n = some i → s.places.get? n = g.terminalPlaces.get? n := by
  by_cases hempty : g.allNodes = []
  · rw [assignLayers_of_empty hempty] at h
    exact absurd h (by simp)
  · rw [assignLayers_eq hempty] at h ⊢
    dsimp only at h
    have hi := (List.getElem?_eq_some_iff.mp h).1
    rw [Surroundings.sortLayers_length, unordered, List.length_map, List.length_range] at hi
    obtain ⟨s, hs, hgraph, hplaces⟩ := Surroundings.getElem?_sortLayers ⟨g, g.layerTable, g.terminalPlaces⟩
      (List.getElem?_map.trans (congrArg _ (List.getElem?_range hi)))
    refine ⟨s, hgraph, Option.some.inj (h.symm.trans hs), ?_⟩
    intro n hn
    refine hplaces n ?_
    -- the layers before this one hold the nodes of other indices
    intro hmem
    obtain ⟨other, hother, hin⟩ := List.mem_flatten.mp hmem
    rw [← List.map_take, List.take_range, List.mem_map] at hother
    obtain ⟨j, hj, rfl⟩ := hother
    have hlayer := (List.mem_filter.mp hin).2
    rw [beq_iff_eq] at hlayer
    unfold Layering.layerOf? at hn
    rw [hlayer] at hn
    injection hn with hn
    have hlt := List.mem_range.mp hj
    omega

theorem mem_layer_iff {i : Nat} {layer : List NodeId} (hlayer : g.assignLayers.layers[i]? = some layer) {n : NodeId} :
    n ∈ layer ↔ n ∈ g.allNodes ∧ g.assignLayers.layerOf? n = some i := by
  obtain ⟨s, -, rfl, -⟩ := getElem?_assignLayers hlayer
  rw [(s.sortLayer_perm _).mem_iff, List.mem_filter, beq_iff_eq]

section Ranked

variable {low high : Int}

theorem Ranked.mem_usedRanks (ht : g.Ranked low high g.finalRanks) {rank : Int} :
    rank ∈ usedRanks g.finalRanks ↔ ∃ n node, g.node? n = some node ∧ g.finalRanks.get? n = some rank := by
  rw [SignalGraph.mem_usedRanks, Table.mem_values_iff]
  refine exists_congr fun n => ?_
  constructor
  · intro hn
    obtain ⟨node, hnode⟩ := (ht.mem_keys n).mp (Table.mem_keys_iff.mpr ⟨rank, hn⟩)
    exact ⟨node, hnode, hn⟩
  · rintro ⟨-, -, hn⟩
    exact hn

/-- The layer of a node is the place of its rank among all ranks. -/
theorem Ranked.layerOf?_eq_some_iff (h : g.Partitioned) (ht : g.Ranked low high g.finalRanks) {n : NodeId}
    {i : Nat} : g.assignLayers.layerOf? n = some i ↔
      ∃ rank, g.finalRanks.get? n = some rank ∧ (usedRanks g.finalRanks).idxOf rank = i := by
  by_cases hempty : g.allNodes = []
  · rw [assignLayers_of_empty hempty]
    refine iff_of_false (by simp [Layering.layerOf?]) ?_
    rintro ⟨rank, hrank, -⟩
    have hlisted := h.mem_allNodes.mpr ((ht.mem_keys n).mp (Table.mem_keys_iff.mpr ⟨rank, hrank⟩))
    rw [hempty] at hlisted
    exact absurd hlisted (by simp)
  · rw [assignLayers_eq hempty, Layering.layerOf?, layerTable, Table.get?_mapValues, Option.map_eq_some_iff]

theorem Ranked.layers_length (h : g.Partitioned) (ht : g.Ranked low high g.finalRanks) :
    g.assignLayers.layers.length = (usedRanks g.finalRanks).length := by
  by_cases hempty : g.allNodes = []
  · rw [assignLayers_of_empty hempty]
    cases hused : usedRanks g.finalRanks with
    | nil => rfl
    | cons rank ranks =>
        obtain ⟨n, node, hnode, -⟩ := ht.mem_usedRanks.mp (hused ▸ List.mem_cons_self)
        have hlisted := h.mem_allNodes.mpr ⟨node, hnode⟩
        rw [hempty] at hlisted
        exact absurd hlisted (by simp)
  · rw [assignLayers_eq hempty, Surroundings.sortLayers_length, unordered, List.length_map, List.length_range]

end Ranked

end Graph

end SignalGraph
