import Mathlib.Data.List.Perm.Basic
import Mathlib.Data.List.Sort
import SignalGraph.Proofs.Layering.Ranks

/-!
# Layers hold every node once

Every node has a rank and every rank that occurs becomes a layer, so the layers divide the nodes. Putting a
layer in order moves nodes within it only. What is computed on the way is named here: `layerTable`, `unordered`, and
the layering from both of them (`assignLayers_eq`).
-/

namespace SignalGraph

/-- The values that a function takes divide a list without repetitions. -/
theorem flatten_filter_perm {α : Type} {ns : List α} (hnodup : ns.Nodup) {f : α → Option Nat} {k : Nat}
    (h : ∀ n ∈ ns, ∃ i < k, f n = some i) :
    ((List.range k).map fun i => ns.filter fun n => f n == some i).flatten.Perm ns := by
  refine (List.perm_ext_iff_of_nodup (List.nodup_flatten.mpr ⟨?_, ?_⟩) hnodup).mpr ?_
  · intro layer hlayer
    obtain ⟨i, -, rfl⟩ := List.mem_map.mp hlayer
    exact hnodup.filter _
  · rw [List.pairwise_map]
    refine List.nodup_range.imp ?_
    intro i j hij n hi hj
    have hi' := (List.mem_filter.mp hi).2
    have hj' := (List.mem_filter.mp hj).2
    rw [beq_iff_eq] at hi' hj'
    rw [hi'] at hj'
    injection hj' with heq
    exact hij heq
  · intro n
    rw [List.mem_flatten]
    constructor
    · rintro ⟨layer, hlayer, hn⟩
      obtain ⟨i, -, rfl⟩ := List.mem_map.mp hlayer
      exact (List.mem_filter.mp hn).1
    · intro hn
      obtain ⟨i, hi, heq⟩ := h n hn
      exact ⟨_, List.mem_map.mpr ⟨i, List.mem_range.mpr hi, rfl⟩,
        List.mem_filter.mpr ⟨hn, beq_iff_eq.mpr heq⟩⟩

theorem mem_usedRanks {t : Table NodeId Int} {rank : Int} : rank ∈ usedRanks t ↔ rank ∈ t.values := by
  unfold usedRanks
  rw [List.mem_mergeSort, List.mem_eraseDups]

theorem Surroundings.sortLayer_perm (s : Surroundings) (layer : List NodeId) :
    (s.sortLayer layer).Perm layer := by
  unfold sortLayer
  exact ((List.mergeSort_perm _ _).append (List.mergeSort_perm _ _)).trans (List.filter_append_perm _ layer)

/-- Ordering the layers keeps the nodes of each. -/
theorem Surroundings.sortLayers_perm (s : Surroundings) (layers : List (List NodeId)) :
    List.Forall₂ List.Perm (s.sortLayers layers) layers := by
  induction layers generalizing s with
  | nil => exact .nil
  | cons layer layers ih => exact .cons (s.sortLayer_perm layer) (ih _)

namespace Graph

variable {g : Graph}

/-- The layer of each node, from the ranks. -/
def layerTable (g : Graph) : Table NodeId Nat := g.finalRanks.mapValues fun _ r => (usedRanks g.finalRanks).idxOf r

/-- The nodes of each layer, before they are put in order. -/
def unordered (g : Graph) : List (List NodeId) :=
  (List.range (usedRanks g.finalRanks).length).map fun i => g.allNodes.filter fun n => g.layerTable.get? n == some i

theorem assignLayers_of_empty (h : g.allNodes = []) : g.assignLayers = {} := if_pos (List.isEmpty_iff.mpr h)

theorem assignLayers_eq (hne : g.allNodes ≠ []) : g.assignLayers =
    { layers := Surroundings.sortLayers ⟨g, g.layerTable, g.terminalPlaces⟩ g.unordered
      nodeLayers := g.layerTable } := by
  unfold assignLayers
  rw [if_neg (by rwa [List.isEmpty_iff])]
  rfl

/-- The layering, from the ranks that occur and the layers before each is put in order. -/
theorem assignLayers_of_ranks (ranks : List Int) (layers : List (List NodeId)) {ordered : List (List NodeId)}
    {nodeLayers : Table NodeId Nat} (hne : g.allNodes ≠ [])
    (hranks : g.finalRanks.values.eraseDups.insertionSort (· ≤ ·) = ranks)
    (hnodeLayers : (g.finalRanks.mapValues fun _ r => ranks.idxOf r) = nodeLayers)
    (hlayers : ((List.range ranks.length).map fun i => g.allNodes.filter fun n => nodeLayers.get? n == some i) = layers)
    (hordered : g.orderLayers nodeLayers layers = ordered) : g.assignLayers = { layers := ordered, nodeLayers } := by
  -- insertion is structural and reduces, merging is not
  have hused : usedRanks g.finalRanks = ranks := (List.mergeSort_eq_insertionSort (· ≤ ·) _).trans hranks
  have htable : g.layerTable = nodeLayers := by rw [layerTable, hused, hnodeLayers]
  rw [assignLayers_eq hne, unordered, hused, htable, hlayers, ← hordered]
  rfl

/-- The layers hold every node of the graph once. -/
theorem WellFormed.assignLayers_perm (h : g.WellFormed) : g.assignLayers.nodes.Perm g.allNodes := by
  by_cases hempty : g.allNodes = []
  · rw [assignLayers_of_empty hempty, hempty]
    exact List.Perm.nil
  · rw [assignLayers_eq hempty]
    refine (List.Perm.flatten_congr (Surroundings.sortLayers_perm _ _)).trans (flatten_filter_perm h.nodup ?_)
    intro n hn
    obtain ⟨node, hnode⟩ := h.mem_allNodes.mp hn
    obtain ⟨rank, hrank⟩ := Table.mem_keys_iff.mp (h.finalRanks_total hnode)
    refine ⟨(usedRanks g.finalRanks).idxOf rank, ?_, ?_⟩
    · exact List.idxOf_lt_length_of_mem (mem_usedRanks.mpr (Table.mem_values_iff.mpr ⟨n, hrank⟩))
    · rw [layerTable, Table.get?_mapValues, hrank]
      rfl

end Graph

end SignalGraph
