import Mathlib.Data.List.Flatten
import SignalGraph.Proofs.Layering.Comparison
import SignalGraph.Proofs.Layering.Formula

/-!
# What ties in a layer is alike

Layers are put in order one after the other, each when the places in those before it are final (`surroundingsAt`). What
feeds a node of a layer then has its place: it lies in an earlier layer, or it is a terminal and has the place of its
declaration. Layer and place tell such a source from all others (`eq_of_outputKey`): no place is taken twice in one
layer, and terminals of the two directions never share one. So nodes that tie are fed by the same ports.
-/

namespace SignalGraph

namespace Graph

variable {g : Graph} {i : Nat} {layer : List NodeId} {a b n : NodeId}

/-- What the nodes of a layer are compared by: the layers before it are settled. -/
def surroundingsAt (g : Graph) (i : Nat) : Surroundings :=
  (g.assignLayers.layers.take i).foldl Surroundings.settle ⟨g, g.layerTable, g.terminalPlaces⟩

theorem surroundingsAt_graph (g : Graph) (i : Nat) : (g.surroundingsAt i).graph = g :=
  (Surroundings.foldl_settle_fixed _ _).1

theorem surroundingsAt_layers (g : Graph) (i : Nat) : (g.surroundingsAt i).layers = g.layerTable :=
  (Surroundings.foldl_settle_fixed _ _).2

theorem layerOf?_of_mem (hn : n ∈ g.allNodes) : g.assignLayers.layerOf? n = g.layerTable.get? n := by
  rw [assignLayers_eq (List.ne_nil_of_mem hn)]
  rfl

theorem getElem?_unordered (h : g.unordered[i]? = some layer) :
    layer = g.allNodes.filter fun n => g.layerTable.get? n == some i := by
  unfold unordered at h
  rw [List.getElem?_map, Option.map_eq_some_iff] at h
  obtain ⟨j, hj, rfl⟩ := h
  obtain ⟨hlt, hji⟩ := List.getElem?_eq_some_iff.mp hj
  rw [List.getElem_range] at hji
  rw [hji]

/-- A layer is put in order when those before it are settled. -/
theorem layer_eq_sortLayer (hlayer : g.assignLayers.layers[i]? = some layer) : layer
    = (g.surroundingsAt i).sortLayer (g.allNodes.filter fun n => g.assignLayers.layerOf? n == some i) := by
  have hne : g.allNodes ≠ [] := by
    intro hempty
    rw [assignLayers_of_empty hempty] at hlayer
    exact absurd hlayer (by simp)
  unfold surroundingsAt Layering.layerOf?
  rw [assignLayers_eq hne] at hlayer ⊢
  dsimp only at hlayer ⊢
  rw [Surroundings.getElem?_sortLayers_settled, Option.map_eq_some_iff] at hlayer
  obtain ⟨nodes, hnodes, rfl⟩ := hlayer
  rw [getElem?_unordered hnodes]

/-! ## Places -/

/-- A node has the place that it has in its layer, once that is settled. -/
theorem WellFormed.place_of_settled (h : g.WellFormed) {j : Nat} (hji : j < i)
    (hlayer : g.assignLayers.layers[j]? = some layer) {k : Nat} (hn : layer[k]? = some n) :
    (g.surroundingsAt i).place n = k := by
  have hnodup : (g.assignLayers.layers.take i).flatten.Nodup :=
    (h.assignLayers_perm.nodup_iff.mpr h.nodup).sublist (List.take_sublist _ _).flatten
  have hearlier : layer ∈ g.assignLayers.layers.take i :=
    List.mem_iff_getElem?.mpr ⟨j, (List.getElem?_take_of_lt hji).trans hlayer⟩
  unfold Surroundings.place surroundingsAt
  rw [Surroundings.get?_settled_of_mem _ hnodup hearlier hn, Option.getD_some]

/-- A terminal that is not settled has the place of its declaration. -/
theorem WellFormed.get?_places_of_terminal (h : g.WellFormed) {j : Nat} (hij : i ≤ j)
    (hlayer : g.assignLayers.layerOf? n = some j) {d : Direction} {k : Nat} (hn : (g.terminals d)[k]? = some n) :
    (g.surroundingsAt i).places.get? n = some k := by
  refine (Surroundings.get?_settled_of_not_mem _ ?_).trans (h.terminalPlaces_eq hn)
  intro hsettled
  obtain ⟨other, hother, hin⟩ := List.mem_flatten.mp hsettled
  obtain ⟨j', hj'⟩ := List.mem_iff_getElem?.mp hother
  have hlt : j' < i := by
    have hbound := (List.getElem?_eq_some_iff.mp hj').1
    rw [List.length_take] at hbound
    omega
  rw [List.getElem?_take_of_lt hlt] at hj'
  have hlayer' := ((mem_layer_iff hj').mp hin).2
  rw [hlayer] at hlayer'
  injection hlayer' with heq
  omega

/-! ## Layers by ranks -/

theorem WellFormed.layerOf?_eq_idxOf (h : g.WellFormed) (hn : n ∈ g.allNodes) :
    g.assignLayers.layerOf? n = some ((usedRanks g.finalRanks).idxOf (g.endRank n)) := by
  rw [layerOf?_of_mem hn, layerTable, Table.get?_mapValues, h.get?_finalRanks hn]
  rfl

theorem WellFormed.endRank_mem_usedRanks (h : g.WellFormed) (hn : n ∈ g.allNodes) :
    g.endRank n ∈ usedRanks g.finalRanks :=
  mem_usedRanks.mpr (Table.mem_values_iff.mpr ⟨n, h.get?_finalRanks hn⟩)

/-- Nodes with lower ranks are in lower layers. -/
theorem WellFormed.layerOf?_lt_of_endRank (h : g.WellFormed) (ha : a ∈ g.allNodes) (hb : b ∈ g.allNodes)
    (hlt : g.endRank a < g.endRank b) :
    ∃ j k, g.assignLayers.layerOf? a = some j ∧ g.assignLayers.layerOf? b = some k ∧ j < k :=
  ⟨_, _, h.layerOf?_eq_idxOf ha, h.layerOf?_eq_idxOf hb, idxOf_lt_of_sorted (usedRanks_sorted _)
    (h.endRank_mem_usedRanks ha) (h.endRank_mem_usedRanks hb) hlt⟩

/-- What is no terminal lies before what it feeds, unless that is one. -/
theorem WellFormed.layerOf?_lt_of_feeds (h : g.WellFormed) (ha : a ∈ g.body) (hb : b ∈ g.body) (hfeeds : g.Feeds a b) :
    ∃ j k, g.assignLayers.layerOf? a = some j ∧ g.assignLayers.layerOf? b = some k ∧ j < k := by
  have hla := g.body_subset ha
  have hlb := g.body_subset hb
  have hrise := h.trailSinks_ranked.rising a b _ _ hfeeds (h.get?_trailSinks hla) (h.get?_trailSinks hlb)
  refine h.layerOf?_lt_of_endRank hla hlb ?_
  rwa [endRank_of_mem_body h.toPartitioned ha, endRank_of_mem_body h.toPartitioned hb]

/-- Terminals of one layer are terminals of one direction. -/
theorem WellFormed.direction_unique (h : g.WellFormed) {d d' : Direction} (ha : a ∈ g.terminals d)
    (hb : b ∈ g.terminals d') (hsame : g.assignLayers.layerOf? a = g.assignLayers.layerOf? b) : d = d' := by
  have hapart : ∀ {m n}, m ∈ g.inPorts → n ∈ g.outPorts →
      g.assignLayers.layerOf? m ≠ g.assignLayers.layerOf? n := by
    intro m n hm hn heq
    have hlt : g.endRank m < g.endRank n := by
      rw [endRank_of_mem_inPorts h.toPartitioned hm, endRank_of_mem_outPorts hn]
      by_cases hflat : g.height = 0
      · rw [h.inputGap_of_flat (List.ne_nil_of_mem hm) (List.ne_nil_of_mem hn) hflat]
        omega
      · omega
    obtain ⟨j, k, hj, hk, hjk⟩ :=
      h.layerOf?_lt_of_endRank (g.terminals_subset .input hm) (g.terminals_subset .output hn) hlt
    rw [hj, hk] at heq
    injection heq with heq
    omega
  cases d with
  | input =>
      cases d' with
      | input => rfl
      | output => exact absurd hsame (hapart ha hb)
  | output =>
      cases d' with
      | input => exact absurd hsame.symm (hapart hb ha)
      | output => rfl

/-! ## Sources -/

/-- A node that has its place before a layer is put in order. -/
def Placed (g : Graph) (i : Nat) (n : NodeId) : Prop :=
  (∃ d, n ∈ g.terminals d) ∨ ∃ j < i, g.assignLayers.layerOf? n = some j

theorem exists_terminals_of_not_mem_body (hn : n ∈ g.allNodes) (hbody : n ∉ g.body) : ∃ d, n ∈ g.terminals d := by
  by_contra hnone
  exact hbody (mem_body_of_not_terminal hn (fun hin => hnone ⟨.input, hin⟩) fun hout => hnone ⟨.output, hout⟩)

/-- What feeds a node has its place. -/
theorem WellFormed.placed_of_feeds (h : g.WellFormed) (hn : n ∈ g.body) (hlayer : g.assignLayers.layerOf? n = some i)
    (hfeeds : g.Feeds a n) : g.Placed i a := by
  by_cases hbody : a ∈ g.body
  · obtain ⟨j, k, hj, hk, hjk⟩ := h.layerOf?_lt_of_feeds hbody hn hfeeds
    rw [hlayer] at hk
    injection hk with hk
    exact Or.inr ⟨j, hk ▸ hjk, hj⟩
  · exact Or.inl (exists_terminals_of_not_mem_body (h.mem_allNodes.mpr (h.feeds_src_present hfeeds)) hbody)

/-- Terminals with one place are one terminal. -/
theorem WellFormed.terminal_unique (h : g.WellFormed) {j : Nat} (hij : i ≤ j) {d d' : Direction}
    (ha : a ∈ g.terminals d) (hb : b ∈ g.terminals d') (hla : g.assignLayers.layerOf? a = some j)
    (hlb : g.assignLayers.layerOf? b = some j)
    (hsame : (g.surroundingsAt i).place a = (g.surroundingsAt i).place b) : a = b := by
  obtain rfl := h.direction_unique ha hb (hla.trans hlb.symm)
  obtain ⟨k, hk⟩ := List.mem_iff_getElem?.mp ha
  obtain ⟨k', hk'⟩ := List.mem_iff_getElem?.mp hb
  unfold Surroundings.place at hsame
  rw [h.get?_places_of_terminal hij hla hk, h.get?_places_of_terminal hij hlb hk'] at hsame
  obtain rfl : k = k' := hsame
  exact Option.some.inj (hk.symm.trans hk')

/-- The layer and the place of a placed node tell it from the others. -/
theorem WellFormed.placed_unique (h : g.WellFormed) (hi : i < g.assignLayers.layers.length) (ha : a ∈ g.allNodes)
    (hb : b ∈ g.allNodes) (hpa : g.Placed i a) (hpb : g.Placed i b)
    (hlayer : g.assignLayers.layerOf? a = g.assignLayers.layerOf? b)
    (hplace : (g.surroundingsAt i).place a = (g.surroundingsAt i).place b) : a = b := by
  have hj := h.layerOf?_eq_idxOf ha
  generalize (usedRanks g.finalRanks).idxOf (g.endRank a) = j at hj
  have hj' := hlayer.symm.trans hj
  rcases Nat.lt_or_ge j i with hji | hij
  · have hsettled := List.getElem?_eq_getElem (Nat.lt_trans hji hi)
    obtain ⟨k, hk⟩ := List.mem_iff_getElem?.mp ((mem_layer_iff hsettled).mpr ⟨ha, hj⟩)
    obtain ⟨k', hk'⟩ := List.mem_iff_getElem?.mp ((mem_layer_iff hsettled).mpr ⟨hb, hj'⟩)
    rw [h.place_of_settled hji hsettled hk, h.place_of_settled hji hsettled hk'] at hplace
    rw [hplace] at hk
    exact Option.some.inj (hk.symm.trans hk')
  · -- the layer is still to come, so both are terminals
    have hterminal : ∀ {n}, g.Placed i n → g.assignLayers.layerOf? n = some j → ∃ d, n ∈ g.terminals d := by
      rintro n (hterminal | ⟨j', hlt, hn⟩) hnj
      · exact hterminal
      · rw [hn] at hnj
        injection hnj with heq
        omega
    obtain ⟨d, hd⟩ := hterminal hpa hj
    obtain ⟨d', hd'⟩ := hterminal hpb hj'
    exact h.terminal_unique hij hd hd' hj hj' hplace

/-- The ports that feed nodes of a layer are told apart by what is compared of them. -/
theorem WellFormed.eq_of_outputKey (h : g.WellFormed) (hi : i < g.assignLayers.layers.length) {o o' : OutPort}
    (ho : o.node ∈ g.allNodes) (ho' : o'.node ∈ g.allNodes) (hpo : g.Placed i o.node) (hpo' : g.Placed i o'.node)
    (hkey : (g.surroundingsAt i).outputKey o = (g.surroundingsAt i).outputKey o') : o = o' := by
  unfold Surroundings.outputKey at hkey
  rw [surroundingsAt_layers, ← layerOf?_of_mem ho, ← layerOf?_of_mem ho', Prod.mk.injEq, Prod.mk.injEq] at hkey
  obtain ⟨hlayer, hplace, hindex⟩ := hkey
  obtain ⟨n, k⟩ := o
  obtain ⟨n', k'⟩ := o'
  obtain rfl : n = n' := h.placed_unique hi ho ho' hpo hpo' hlayer hplace
  obtain rfl : k = k' := hindex
  rfl

/-! ## Ties -/

/-- The nodes have one name, as many ports, and at each input the same source or none. -/
structure Alike (g : Graph) (a b : NodeId) : Prop where
  shape : ∃ na nb, g.node? a = some na ∧ g.node? b = some nb ∧ na.name = nb.name
    ∧ na.inputs.length = nb.inputs.length ∧ na.outputs.length = nb.outputs.length
  source : ∀ k, g.sourceOf? ⟨a, k⟩ = g.sourceOf? ⟨b, k⟩

/-- What an input shows is its source. -/
theorem WellFormed.head?_sources (h : g.WellFormed) (i : Nat) {node : Node} (hn : g.node? n = some node) (k : Nat) :
    (node.inputs.map (g.surroundingsAt i).sources)[k]?.bind List.head?
      = (g.sourceOf? ⟨n, k⟩).map (g.surroundingsAt i).outputKey := by
  rw [List.getElem?_map]
  cases hp : node.inputs[k]? with
  | none =>
      have hsource : g.sourceOf? ⟨n, k⟩ = none := by
        unfold sourceOf?
        rw [hn, Option.bind_some, hp]
        rfl
      rw [hsource]
      rfl
  | some p =>
      have hends := congrArg (List.map (g.surroundingsAt i).outputKey) (h.endsOf_input hn hp)
      rw [List.map_map, ← Option.toList_map] at hends
      have hsources : (g.surroundingsAt i).sources p
          = ((g.sourceOf? ⟨n, k⟩).map (g.surroundingsAt i).outputKey).toList := by
        rw [← hends, Surroundings.sources, surroundingsAt_graph]
        rfl
      rw [Option.map_some, Option.bind_some, hsources, Option.head?_toList]

theorem WellFormed.placed_of_source (h : g.WellFormed) (hn : n ∈ g.body) (hlayer : g.assignLayers.layerOf? n = some i)
    {k : Nat} {o : OutPort} (ho : g.sourceOf? ⟨n, k⟩ = some o) : o.node ∈ g.allNodes ∧ g.Placed i o.node := by
  obtain ⟨c, hc⟩ := h.sourceOf?_eq_some_iff.mp ho
  have hfeeds : g.Feeds o.node n := ⟨c, _, hc, rfl, rfl⟩
  exact ⟨h.mem_allNodes.mpr (h.feeds_src_present hfeeds), h.placed_of_feeds hn hlayer hfeeds⟩

theorem WellFormed.alike_of_tie (h : g.WellFormed) (hlayer : g.assignLayers.layers[i]? = some layer) (ha : a ∈ layer)
    (hb : b ∈ layer) (hab : a ∈ g.body) (hbb : b ∈ g.body)
    (htie : (g.surroundingsAt i).compareNodes a b = .eq) : g.Alike a b := by
  obtain ⟨hla, hlayera⟩ := (mem_layer_iff hlayer).mp ha
  obtain ⟨hlb, hlayerb⟩ := (mem_layer_iff hlayer).mp hb
  obtain ⟨na, hna⟩ := h.mem_allNodes.mp hla
  obtain ⟨nb, hnb⟩ := h.mem_allNodes.mp hlb
  have hgraph := g.surroundingsAt_graph i
  have hprofile : (g.surroundingsAt i).profile a = (g.surroundingsAt i).profile b :=
    (Surroundings.compareNodes_eq_eq_iff (hgraph.symm ▸ h) (hgraph.symm ▸ hla) (hgraph.symm ▸ hlb)).mp htie
  rw [Surroundings.profile_of_node? (hgraph.symm ▸ hna), Surroundings.profile_of_node? (hgraph.symm ▸ hnb),
    Profile.mk.injEq] at hprofile
  obtain ⟨hname, hsources, htargets⟩ := hprofile
  refine ⟨⟨na, nb, hna, hnb, hname, ?_, ?_⟩, ?_⟩
  · have hlength := congrArg List.length hsources
    rwa [List.length_map, List.length_map] at hlength
  · have hlength := congrArg List.length htargets
    rwa [List.length_map, List.length_map] at hlength
  · intro k
    -- what both inputs show is the same, and it tells their sources, if they have any
    have hshown : ((g.sourceOf? ⟨a, k⟩).map (g.surroundingsAt i).outputKey)
        = (g.sourceOf? ⟨b, k⟩).map (g.surroundingsAt i).outputKey := by
      rw [← h.head?_sources i hna, ← h.head?_sources i hnb, hsources]
    cases hsa : g.sourceOf? ⟨a, k⟩ with
    | none =>
        rw [hsa, Option.map_none] at hshown
        exact (Option.map_eq_none_iff.mp hshown.symm).symm
    | some o =>
        rw [hsa, Option.map_some] at hshown
        obtain ⟨o', hsb, hkey⟩ := Option.map_eq_some_iff.mp hshown.symm
        obtain ⟨ho, hpo⟩ := h.placed_of_source hab hlayera hsa
        obtain ⟨ho', hpo'⟩ := h.placed_of_source hbb hlayerb hsb
        have hi := (List.getElem?_eq_some_iff.mp hlayer).1
        rw [hsb, h.eq_of_outputKey hi ho ho' hpo hpo' hkey.symm]

/-- No two terminals of a layer tie. -/
theorem WellFormed.eq_of_terminal_tie (h : g.WellFormed) (hlayer : g.assignLayers.layers[i]? = some layer)
    (ha : a ∈ layer) (hb : b ∈ layer) (hab : a ∉ g.body) (hbb : b ∉ g.body)
    (htie : (g.surroundingsAt i).compareTerminals a b = .eq) : a = b := by
  obtain ⟨hla, hlayera⟩ := (mem_layer_iff hlayer).mp ha
  obtain ⟨hlb, hlayerb⟩ := (mem_layer_iff hlayer).mp hb
  obtain ⟨d, hd⟩ := exists_terminals_of_not_mem_body hla hab
  obtain ⟨d', hd'⟩ := exists_terminals_of_not_mem_body hlb hbb
  have hplaces := Std.LawfulEqOrd.eq_of_compare (Ordering.then_eq_eq.mp htie).2
  exact h.terminal_unique (Nat.le_refl i) hd hd' hlayera hlayerb (congrArg (Option.getD · 0) hplaces)

/-- A layer comes from sorting its nodes, and what ties in it is alike. -/
structure SortsAlike (g : Graph) (i : Nat) (layer : List NodeId) : Prop where
  /-- The layers before it are settled when its nodes are compared. -/
  sorted : layer = (g.surroundingsAt i).sortLayer (g.allNodes.filter fun n => g.assignLayers.layerOf? n == some i)
  /-- A terminal ties with itself only. -/
  terminals : ∀ a ∈ layer, ∀ b ∈ layer, a ∉ g.body → b ∉ g.body →
    (g.surroundingsAt i).compareTerminals a b = .eq → a = b
  /-- Other nodes that tie have name, ports and sources in common. -/
  body : ∀ a ∈ layer, ∀ b ∈ layer, a ∈ g.body → b ∈ g.body →
    (g.surroundingsAt i).compareNodes a b = .eq → g.Alike a b

/--
**Nodes compare canonically.** With whatever layers and places, the nodes of a graph are in a total preorder, so that
sorting them by it is well defined. When a layer is put in order, the nodes of it that tie have one name, as many ports,
and at each input the same source or none.
-/
theorem nodes_compare_canonically (hg : g.Attained) :
    (∀ layers places, Surroundings.OrdersNodes ⟨g, layers, places⟩)
      ∧ ∀ i layer, g.assignLayers.layers[i]? = some layer → g.SortsAlike i layer := by
  have h := hg.wellFormed
  refine ⟨fun layers places => Surroundings.ordersNodes h, ?_⟩
  intro i layer hlayer
  refine ⟨layer_eq_sortLayer hlayer, ?_, ?_⟩
  · exact fun a ha b hb hab hbb htie => h.eq_of_terminal_tie hlayer ha hb hab hbb htie
  · exact fun a ha b hb hab hbb htie => h.alike_of_tie hlayer ha hb hab hbb htie

/-- Two oscillators, the first of which feeds one meter and the second one the other two. -/
def meterEdits : List Edit :=
  [.add (.ofNames ⟨"osc", "sine"⟩ [] [""]), .add (.ofNames ⟨"osc", "sine"⟩ [] [""]),
    .add (.ofNames ⟨"meter", "peak"⟩ [""] []), .add (.ofNames ⟨"meter", "peak"⟩ [""] []),
    .add (.ofNames ⟨"meter", "peak"⟩ [""] []), .connect ⟨⟨1⟩, 0⟩ ⟨⟨2⟩, 0⟩, .connect ⟨⟨0⟩, 0⟩ ⟨⟨3⟩, 0⟩,
    .connect ⟨⟨1⟩, 0⟩ ⟨⟨4⟩, 0⟩]

def meters : Graph := (empty "meters").run meterEdits

theorem meters_assignLayers : meters.assignLayers = {
    layers := [[⟨0⟩, ⟨1⟩], [⟨3⟩, ⟨2⟩, ⟨4⟩]]
    nodeLayers := .ofList [(⟨2⟩, 1), (⟨1⟩, 0), (⟨3⟩, 1), (⟨0⟩, 0), (⟨4⟩, 1)] } := by
  cbv

/-- The meters of one oscillator tie and stand behind that of the other one. -/
theorem meters_tie :
    meters.Attained ∧ meters.assignLayers.layers = [[⟨0⟩, ⟨1⟩], [⟨3⟩, ⟨2⟩, ⟨4⟩]]
      ∧ SortsStably (Surroundings.compareNodes ⟨meters, ∅, .ofList [(⟨0⟩, 0), (⟨1⟩, 1)]⟩) [⟨2⟩, ⟨3⟩] [⟨3⟩, ⟨2⟩]
      ∧ (meters.surroundingsAt 1).compareNodes ⟨2⟩ ⟨4⟩ = .eq ∧ meters.Alike ⟨2⟩ ⟨4⟩ := by
  have hattained : meters.Attained := by
    refine Reachable.attained ⟨"meters", meterEdits, ?_, roomFor_of_length (by decide) (by decide), rfl⟩
    intro e he
    simp only [meterEdits, List.mem_cons, List.not_mem_nil, or_false] at he
    rcases he with rfl | rfl | rfl | rfl | rfl | rfl | rfl | rfl
    all_goals first
      | exact trivial
      | exact Node.ofNames_unconnected _ _ _
  have hlayers : meters.assignLayers.layers = [[⟨0⟩, ⟨1⟩], [⟨3⟩, ⟨2⟩, ⟨4⟩]] :=
    congrArg Layering.layers meters_assignLayers
  have hbody : meters.body = [⟨0⟩, ⟨1⟩, ⟨2⟩, ⟨3⟩, ⟨4⟩] := by cbv
  have htable : meters.layerTable = .ofList [(⟨2⟩, 1), (⟨1⟩, 0), (⟨3⟩, 1), (⟨0⟩, 0), (⟨4⟩, 1)] :=
    congrArg Layering.nodeLayers ((assignLayers_eq (by decide +kernel)).symm.trans meters_assignLayers)
  have htie : (meters.surroundingsAt 1).compareNodes ⟨2⟩ ⟨4⟩ = .eq := by
    unfold surroundingsAt
    rw [htable, hlayers]
    decide +kernel
  obtain ⟨horders, hsorts⟩ := nodes_compare_canonically hattained
  have hbehind : Surroundings.compareNodes ⟨meters, ∅, .ofList [(⟨0⟩, 0), (⟨1⟩, 1)]⟩ ⟨2⟩ ⟨3⟩ = .gt := by cbv
  refine ⟨hattained, hlayers, ?_, htie, ?_⟩
  · refine ((horders ∅ (.ofList [(⟨0⟩, 0), (⟨1⟩, 1)])).sorts _ ?_ _).mpr ?_
    · refine List.Subset.trans ?_ meters.body_subset
      rw [hbody]
      decide
    · simp [List.mergeSort, hbehind]
  · refine (hsorts 1 [⟨3⟩, ⟨2⟩, ⟨4⟩] (by rw [hlayers]; rfl)).body _ ?_ _ ?_ ?_ ?_ htie
    · decide
    · decide
    · rw [hbody]
      decide
    · rw [hbody]
      decide

end Graph

end SignalGraph
