import SignalGraph.Proofs.Arrangement.Reordering
import SignalGraph.Proofs.Layering.Assigned

/-!
# Arrangements list nodes behind what feeds them

Arranging moves nodes within their layers, and connections lead from a lower layer to a higher one. So the
order in which an arrangement lists the nodes is a topological one, whatever the settings.
-/

namespace SignalGraph

/-- What lies in a lower layer is listed first. -/
theorem idxOf_lt_of_layers {layers : List (List NodeId)} (hnodup : layers.flatten.Nodup) {i j : Nat}
    {layer layer' : List NodeId} {w n : NodeId} (hi : layers[i]? = some layer) (hw : w ∈ layer)
    (hj : layers[j]? = some layer') (hn : n ∈ layer') (hij : i < j) :
    layers.flatten.idxOf w < layers.flatten.idxOf n := by
  have hsplit : layers.flatten = (layers.take (i + 1)).flatten ++ (layers.drop (i + 1)).flatten := by
    rw [← List.flatten_append, List.take_append_drop]
  have hfirst : w ∈ (layers.take (i + 1)).flatten := by
    refine List.mem_flatten.mpr ⟨layer, List.mem_iff_getElem?.mpr ⟨i, ?_⟩, hw⟩
    rw [List.getElem?_take_of_lt (Nat.lt_succ_self i)]
    exact hi
  have hsecond : n ∈ (layers.drop (i + 1)).flatten := by
    refine List.mem_flatten.mpr ⟨layer', List.mem_iff_getElem?.mpr ⟨j - (i + 1), ?_⟩, hn⟩
    rw [List.getElem?_drop, Nat.add_sub_cancel' hij]
    exact hj
  rw [hsplit] at hnodup ⊢
  have hnot : n ∉ (layers.take (i + 1)).flatten :=
    fun hin => (List.nodup_append.mp hnodup).2.2 n hin n hsecond rfl
  rw [List.idxOf_append, List.idxOf_append, if_pos hfirst, if_neg hnot]
  exact Nat.lt_of_lt_of_le (List.idxOf_lt_length_of_mem hfirst) (Nat.le_add_left _ _)

namespace Graph

variable {g : Graph}

/-- Nodes of different layers are listed in the order of their layers, whatever the settings. -/
theorem WellFormed.idxOf_lt_of_layers (h : g.WellFormed) (config : ArrangeConfig) {i j : Nat}
    {layer layer' : List NodeId} {a b : NodeId} (hi : g.assignLayers.layers[i]? = some layer) (ha : a ∈ layer)
    (hj : g.assignLayers.layers[j]? = some layer') (hb : b ∈ layer') (hij : i < j) :
    (g.arrange config).nodes.idxOf a < (g.arrange config).nodes.idxOf b := by
  have hnodup := (h.arrange_nodes config).nodup_iff.mpr h.nodup
  rw [Arrangement.nodes_eq] at hnodup ⊢
  obtain ⟨slots, hslots, hperm⟩ := forall₂_getElem? (g.arrange_nodeLists config) hi
  obtain ⟨slots', hslots', hperm'⟩ := forall₂_getElem? (g.arrange_nodeLists config) hj
  exact SignalGraph.idxOf_lt_of_layers hnodup hslots (hperm.mem_iff.mpr ha) hslots' (hperm'.mem_iff.mpr hb) hij

/-- What a node feeds is listed behind it. -/
theorem WellFormed.idxOf_lt_of_feeds (h : g.WellFormed)
    (hshape : ∀ n node, g.node? n = some node → node.OnePort) (config : ArrangeConfig) {a b : NodeId}
    (hfeeds : g.Feeds a b) : (g.arrange config).nodes.idxOf a < (g.arrange config).nodes.idxOf b := by
  have hplaces := h.assignLayers_places hshape
  obtain ⟨c, ends, hends, rfl, rfl⟩ := hfeeds
  obtain ⟨i, j, hi, hj, hij⟩ := hplaces.rising c ends hends
  obtain ⟨layer, hlayer, ha⟩ := (hplaces.layerOf?_iff _ i).mp hi
  obtain ⟨layer', hlayer', hb⟩ := (hplaces.layerOf?_iff _ j).mp hj
  exact h.idxOf_lt_of_layers config hlayer ha hlayer' hb hij

end Graph

end SignalGraph
