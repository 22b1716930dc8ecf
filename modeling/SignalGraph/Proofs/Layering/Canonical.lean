import SignalGraph.Proofs.Layering.Comparison
import SignalGraph.Proofs.Layering.Layers

/-!
# The order within layers under other numbers

Two nodes of a layer are compared by what they show: their names, where their inputs come from and which layers their
outputs feed. All of that is the same under other numbers but for one thing: an output lists what it feeds in the order in
which the connections were made. Where that is the same order of layers at every output (`Surroundings.Renamed`), the
layers come out the same, place by place.
-/

namespace SignalGraph

namespace Surroundings

variable {ρ : NodeId → NodeId} {s s' : Surroundings}

/-- Surroundings of the nodes under their other numbers. -/
structure Renamed (ρ : NodeId → NodeId) (s s' : Surroundings) : Prop where
  graph : Graph.Renumbered ρ s.graph s'.graph
  layers : Table.Renamed ρ s.graph.allNodes s.layers s'.layers
  places : Table.Renamed ρ s.graph.allNodes s.places s'.places
  /-- The layers that an output feeds come in one order. -/
  targets : ∀ n node node', s.graph.node? n = some node → s'.graph.node? (ρ n) = some node' →
    List.Forall₂ (fun p p' => s'.targets p' = s.targets p) node.outputs node'.outputs

section Nodes

variable (h : Renamed ρ s s') (hg : s.graph.WellFormed) (hg' : s'.graph.WellFormed)
include h

theorem Renamed.outputKey {o : OutPort} (ho : o.node ∈ s.graph.allNodes) :
    s'.outputKey (o.renumber ρ) = s.outputKey o := by
  unfold Surroundings.outputKey place OutPort.renumber
  dsimp only
  rw [h.layers.get? h.graph.injective ho, h.places.get? h.graph.injective ho]

include hg hg'

/-- Ports that have one index show the same sources. -/
theorem Renamed.sources {n : NodeId} {node node' : Node} (hn : s.graph.node? n = some node)
    (hn' : s'.graph.node? (ρ n) = some node') :
    List.Forall₂ (fun p p' => s'.sources p' = s.sources p) node.inputs node'.inputs := by
  refine (h.graph.inputs hg hg' hn hn').imp ?_
  intro p p' hp
  have hkeys' : s'.sources p' = ((s'.graph.endsOf p').map (·.src)).map s'.outputKey := by
    rw [List.map_map]
    rfl
  have hkeys : s.sources p = ((s.graph.endsOf p).map (·.src)).map s.outputKey := by
    rw [List.map_map]
    rfl
  rw [hkeys', hkeys, hp, List.map_map]
  refine List.map_congr_left ?_
  intro o ho
  obtain ⟨ends, hends, rfl⟩ := List.mem_map.mp ho
  obtain ⟨c, -, hc⟩ := List.mem_filterMap.mp hends
  exact h.outputKey (hg.mem_of_connects ⟨c, hc⟩).1

/-- A node shows the same under its other number. -/
theorem Renamed.profile {n : NodeId} (hn : n ∈ s.graph.allNodes) : s'.profile (ρ n) = s.profile n := by
  obtain ⟨node, hnode⟩ := hg.mem_allNodes.mp hn
  obtain ⟨node', hnode', hsame⟩ := h.graph.node? n node hnode
  have horigin : node'.bare.origin = (node.bare.renumber ρ).origin := by rw [hsame]
  have hname : node'.name = node.name := congrArg Origin.name horigin
  have hsources : node.inputs.map s.sources = node'.inputs.map s'.sources := by
    rw [← List.forall₂_eq_eq_eq, List.forall₂_map_left_iff, List.forall₂_map_right_iff]
    exact (h.sources hg hg' hnode hnode').imp fun _ _ => Eq.symm
  have htargets : node.outputs.map s.targets = node'.outputs.map s'.targets := by
    rw [← List.forall₂_eq_eq_eq, List.forall₂_map_left_iff, List.forall₂_map_right_iff]
    exact (h.targets n node node' hnode hnode').imp fun _ _ => Eq.symm
  rw [profile_of_node? hnode, profile_of_node? hnode', hname, hsources, htargets]

theorem Renamed.compareNodes {a b : NodeId} (ha : a ∈ s.graph.allNodes) (hb : b ∈ s.graph.allNodes) :
    s'.compareNodes (ρ a) (ρ b) = s.compareNodes a b := by
  have hlisted : ∀ {n}, n ∈ s.graph.allNodes → ρ n ∈ s'.graph.allNodes := by
    intro n hn
    rw [h.graph.allNodes]
    exact List.mem_map_of_mem hn
  rw [compareNodes_eq hg' (hlisted ha) (hlisted hb), compareNodes_eq hg ha hb, h.profile hg hg' ha,
    h.profile hg hg' hb]

theorem Renamed.sortLayer {layer : List NodeId} (hlayer : layer ⊆ s.graph.allNodes) :
    s'.sortLayer (layer.map ρ) = (s.sortLayer layer).map ρ := by
  have hany : ∀ {is : Node → Bool}, (∀ node node', node'.origin = node.origin → is node' = is node) →
      ∀ n ∈ layer, (s'.graph.node? (ρ n)).any is = (s.graph.node? n).any is :=
    fun his n hn => h.graph.any hg (hlayer hn) his
  have hterminal : ∀ n ∈ layer, (s'.graph.node? (ρ n)).any Node.isTerminal = (s.graph.node? n).any Node.isTerminal := by
    refine hany fun node node' horigin => ?_
    unfold Node.isTerminal Node.isInputTerminal Node.isOutputTerminal Node.isTerminalOf
    rw [horigin]
  have houtput : ∀ n ∈ layer,
      (s'.graph.node? (ρ n)).any Node.isOutputTerminal = (s.graph.node? n).any Node.isOutputTerminal := by
    refine hany fun node node' horigin => ?_
    unfold Node.isOutputTerminal Node.isTerminalOf
    rw [horigin]
  have hterminals : ∀ a ∈ layer, ∀ b ∈ layer, s.compareTerminals a b = s'.compareTerminals (ρ a) (ρ b) := by
    intro a ha b hb
    unfold compareTerminals
    dsimp only
    rw [houtput a ha, houtput b hb, h.places.get? h.graph.injective (hlayer ha),
      h.places.get? h.graph.injective (hlayer hb)]
  unfold Surroundings.sortLayer
  dsimp only
  rw [List.map_append, List.filter_map, List.filter_map]
  congr 1
  · have hfilter : layer.filter ((fun n => (s'.graph.node? n).any Node.isTerminal) ∘ ρ)
        = layer.filter fun n => (s.graph.node? n).any Node.isTerminal := List.filter_congr hterminal
    rw [hfilter, List.map_mergeSort]
    intro a ha b hb
    rw [hterminals a (List.mem_of_mem_filter ha) b (List.mem_of_mem_filter hb)]
  · have hfilter : layer.filter ((fun n => !(s'.graph.node? n).any Node.isTerminal) ∘ ρ)
        = layer.filter fun n => !(s.graph.node? n).any Node.isTerminal :=
      List.filter_congr fun n hn => congrArg _ (hterminal n hn)
    rw [hfilter, List.map_mergeSort]
    intro a ha b hb
    rw [h.compareNodes hg hg' (hlayer (List.mem_of_mem_filter ha)) (hlayer (List.mem_of_mem_filter hb))]

end Nodes

theorem Renamed.settle (h : Renamed ρ s s') {layer : List NodeId} (hlayer : layer ⊆ s.graph.allNodes) :
    Renamed ρ (s.settle layer) (s'.settle (layer.map ρ)) where
  graph := h.graph
  layers := h.layers
  places := by
    unfold Surroundings.settle
    dsimp only
    rw [List.zipIdx_map]
    refine h.places.setAll h.graph.injective ?_
    rw [List.zipIdx_map_fst]
    exact hlayer
  targets := h.targets

/-- Layer after layer, nodes stand in the same order. -/
theorem Renamed.sortLayers (h : Renamed ρ s s') (hg : s.graph.WellFormed) (hg' : s'.graph.WellFormed)
    {layers : List (List NodeId)} (hlayers : ∀ layer ∈ layers, layer ⊆ s.graph.allNodes) :
    s'.sortLayers (layers.map (·.map ρ)) = (s.sortLayers layers).map (·.map ρ) := by
  induction layers generalizing s s' with
  | nil => rfl
  | cons layer layers ih =>
      have hsub := hlayers layer List.mem_cons_self
      have hsorted : s.sortLayer layer ⊆ s.graph.allNodes := fun n hn => hsub ((s.sortLayer_perm layer).mem_iff.mp hn)
      have hrest := ih (h.settle hsorted) hg hg' fun l hl => hlayers l (List.mem_cons_of_mem _ hl)
      rw [List.map_cons, Surroundings.sortLayers, Surroundings.sortLayers, h.sortLayer hg hg' hsub]
      rw [hrest, List.map_cons]

/-- In whatever order, layers hold the same nodes. -/
theorem sortLayers_map_perm (ρ : NodeId → NodeId) (s s' : Surroundings) (layers : List (List NodeId)) :
    List.Forall₂ List.Perm (s'.sortLayers (layers.map (·.map ρ))) ((s.sortLayers layers).map (·.map ρ)) := by
  induction layers generalizing s s' with
  | nil => exact .nil
  | cons layer layers ih => exact .cons ((s'.sortLayer_perm _).trans ((s.sortLayer_perm layer).map ρ).symm) (ih _ _)

end Surroundings

namespace Graph

variable {ρ : NodeId → NodeId} {g g' : Graph}

/-- Places in the sequences of terminals are the same. -/
theorem SameNodes.terminalPlaces (h : SameNodes ρ g g') :
    Table.Renamed ρ g.allNodes g.terminalPlaces g'.terminalPlaces := by
  unfold Graph.terminalPlaces Table.ofList
  rw [h.inPorts, h.outPorts, List.zipIdx_map, List.zipIdx_map, ← List.map_append]
  refine (Table.renamed_empty ρ _).setAll h.injective ?_
  rw [List.map_append, List.zipIdx_map_fst, List.zipIdx_map_fst]
  exact List.append_subset.mpr ⟨terminals_subset g .input, terminals_subset g .output⟩

/-- The layers that each output of a node feeds, oldest connection first. -/
def fanOut (g : Graph) (n : NodeId) : List (List (Option Nat)) :=
  match g.node? n with
  | some node => (List.range node.outputs.length).map fun i =>
      (g.consumersOf ⟨n, i⟩).map fun d => g.assignLayers.layerOf? d.node
  | none => []

/-- The layering of a graph is the layering under other numbers, if outputs feed layers in one order. -/
structure SameLayers (ρ : NodeId → NodeId) (g g' : Graph) : Prop where
  /-- A node has the layer that it has under its other number. -/
  layerOf? : ∀ n ∈ g.allNodes, g'.assignLayers.layerOf? (ρ n) = g.assignLayers.layerOf? n
  /-- A layer holds the same nodes. -/
  perm : List.Forall₂ List.Perm g'.assignLayers.layers (g.assignLayers.layers.map (·.map ρ))
  /-- They stand in the same order if at every output the layers that it feeds come in the same order. -/
  layers : (∀ n ∈ g.allNodes, g'.fanOut (ρ n) = g.fanOut n) →
    g'.assignLayers.layers = g.assignLayers.layers.map (·.map ρ)

theorem consumersOf_eq {n : NodeId} {node : Node} (hn : g.node? n = some node) {i : Nat} {p : Port}
    (hp : node.outputs[i]? = some p) : g.consumersOf ⟨n, i⟩ = (g.endsOf p).map (·.dst) := by
  unfold consumersOf endsOf
  rw [hn, Option.bind_some, hp, List.map_filterMap]

theorem Renumbered.sameLayers (h : Renumbered ρ g g') (hg : g.WellFormed) (hg' : g'.WellFormed) :
    SameLayers ρ g g' := by
  by_cases hne : g.allNodes = []
  · have hne' : g'.allNodes = [] := by rw [h.allNodes, hne, List.map_nil]
    refine ⟨by simp [hne], ?_, fun _ => ?_⟩
    · rw [assignLayers_of_empty hne, assignLayers_of_empty hne']
      exact .nil
    · rw [assignLayers_of_empty hne, assignLayers_of_empty hne']
      rfl
  · have hne' : g'.allNodes ≠ [] := by rwa [h.allNodes, Ne, List.map_eq_nil_iff]
    have hlayers := h.layerTable hg hg'
    refine ⟨?_, ?_, ?_⟩
    · intro n hn
      unfold Layering.layerOf?
      rw [assignLayers_eq hne, assignLayers_eq hne']
      exact hlayers.get? h.injective hn
    · rw [assignLayers_eq hne, assignLayers_eq hne', h.unordered hg hg']
      exact Surroundings.sortLayers_map_perm ρ _ _ _
    · intro hfan
      have htargets : ∀ n node node', g.node? n = some node → g'.node? (ρ n) = some node' →
          List.Forall₂ (fun p p' => Surroundings.targets ⟨g', g'.layerTable, g'.terminalPlaces⟩ p'
            = Surroundings.targets ⟨g, g.layerTable, g.terminalPlaces⟩ p) node.outputs node'.outputs := by
        intro n node node' hn hn'
        refine List.forall₂_iff_get.mpr ⟨(h.lengths hn hn').2.symm, ?_⟩
        intro i hi hi'
        have hnode := hfan n (hg.mem_allNodes.mpr ⟨node, hn⟩)
        unfold fanOut at hnode
        rw [hn, hn'] at hnode
        dsimp only at hnode
        rw [(h.lengths hn hn').2] at hnode
        have hsame := List.map_inj_left.mp hnode i (List.mem_range.mpr hi)
        unfold Layering.layerOf? at hsame
        rw [assignLayers_eq hne, assignLayers_eq hne', consumersOf_eq hn (List.getElem?_eq_getElem hi),
          consumersOf_eq hn' (List.getElem?_eq_getElem hi'), List.map_map, List.map_map] at hsame
        exact hsame
      have hrenamed : Surroundings.Renamed ρ ⟨g, g.layerTable, g.terminalPlaces⟩
          ⟨g', g'.layerTable, g'.terminalPlaces⟩ := ⟨h, hlayers, h.terminalPlaces, htargets⟩
      rw [assignLayers_eq hne, assignLayers_eq hne', h.unordered hg hg']
      refine hrenamed.sortLayers hg hg' ?_
      intro layer hlayer
      obtain ⟨i, -, rfl⟩ := List.mem_map.mp hlayer
      exact fun n hn => List.mem_of_mem_filter hn

end Graph

end SignalGraph
