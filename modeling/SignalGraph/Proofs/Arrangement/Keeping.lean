import SignalGraph.Proofs.Arrangement.Counting
import SignalGraph.Proofs.Layering.Assigned

/-!
# Arranging loses nothing and leaves terminals where they are

An arrangement starts from the layers of the graph with the placeholders of each layer behind its nodes
(`padded`). From there on the search moves slots within layers, and only within those that may be moved
(`KeptOutside`): it draws the layer from the movable ones, and trying all orders replaces no other layer either.

So every node and every placeholder is listed once, in the layer that is recorded for it, and the layers of the
terminals are those of the layering, in their order (`Arrangement.Reorders`).
-/

namespace SignalGraph

/-- A random number keeps below its bound: a carry is added only where the number is not the greatest one. -/
theorem Random.Stream.below_lt {n : Nat} (hn : 0 < n) (s : Random.Stream) : (s.below n).1 < n := by
  have hword : s.next.1.toNat < UInt32.size := s.next.1.toNat_lt
  have hdiv := Nat.div_add_mod (s.next.1.toNat * n) UInt32.size
  have hproduct : s.next.1.toNat * n + n ≤ UInt32.size * n := by
    rw [← Nat.succ_mul]
    exact Nat.mul_le_mul_right n hword
  have hupper : s.next.1.toNat * n / UInt32.size < n :=
    Nat.div_lt_of_lt_mul (Nat.lt_of_lt_of_le (Nat.lt_add_of_pos_right hn) hproduct)
  unfold below
  dsimp only
  split
  · rename_i hcarry
    dsimp only
    split
    · by_contra hge
      -- the greatest number leaves too small a rest for a carry
      have hgreatest : s.next.1.toNat * n / UInt32.size = n - 1 := by omega
      rw [hgreatest, Nat.mul_sub, Nat.mul_one] at hdiv
      have hroom : UInt32.size ≤ UInt32.size * n := Nat.le_mul_of_pos_right _ hn
      omega
    · exact hupper
  · exact hupper

/-! ## Layers that are not moved -/

/-- All layers but the movable ones are as they were. -/
def KeptOutside (movable : List Nat) (layers layers' : List (List Slot)) : Prop :=
  ∀ l, l ∉ movable → layers'[l]? = layers[l]?

section Search

variable {h : Hops} {layers layers' : List (List Slot)} {movable : List Nat}

theorem KeptOutside.refl (movable : List Nat) (layers : List (List Slot)) : KeptOutside movable layers layers :=
  fun _ _ => rfl

theorem KeptOutside.modify (hkept : KeptOutside movable layers layers') {l : Nat} (hl : l ∈ movable)
    (f : List Slot → List Slot) : KeptOutside movable layers (layers'.modify l f) := by
  intro k hk
  rw [List.getElem?_modify_ne _ _ (ne_of_mem_of_not_mem hl hk)]
  exact hkept k hk

theorem KeptOutside.set (hkept : KeptOutside movable layers layers') {l : Nat} (hl : l ∈ movable)
    (layer : List Slot) : KeptOutside movable layers (layers'.set l layer) := by
  intro k hk
  rw [List.getElem?_set_ne (ne_of_mem_of_not_mem hl hk)]
  exact hkept k hk

/-- One exchange leaves the layers that may not be moved. -/
theorem KeptOutside.step (hne : movable ≠ []) {s : SearchState} (hkept : KeptOutside movable layers s.layers) :
    KeptOutside movable layers (s.step h movable).layers := by
  have hdrawn := s.stream.below_lt (List.length_pos_of_ne_nil hne)
  have hl : movable.getD (s.stream.below movable.length).1 0 ∈ movable := by
    rw [List.getD_eq_getElem?_getD, List.getElem?_eq_getElem hdrawn]
    exact List.getElem_mem hdrawn
  unfold SearchState.step
  dsimp only
  split
  · exact hkept
  · split
    · exact hkept
    · exact hkept.modify hl _

theorem KeptOutside.run (hne : movable ≠ []) {s : SearchState} (hkept : KeptOutside movable layers s.layers) (n : Nat) :
    KeptOutside movable layers (SearchState.run h movable n s).layers := by
  induction n generalizing s with
  | zero => exact hkept
  | succ n ih => exact ih (hkept.step hne)

theorem localSearch_keptOutside (initial : Nat) (config : ArrangeConfig) :
    KeptOutside movable layers (localSearch h layers movable initial config).1 := by
  unfold localSearch
  split
  · exact .refl movable layers
  · rename_i hsearch
    refine (KeptOutside.refl movable layers).run ?_ config.iterations
    rintro rfl
    exact hsearch rfl

theorem reorder_keptOutside (perms : List (List Nat)) : KeptOutside movable layers (reorder layers movable perms) := by
  refine List.foldlRecOn (motive := KeptOutside movable layers) (movable.zip perms) _ (.refl movable layers) ?_
  rintro done hdone ⟨l, perm⟩ he
  exact hdone.set (List.of_mem_zip he).1 _

end Search

theorem arrangeLayers_keptOutside (g : Graph) (l : Layering) (config : ArrangeConfig) :
    KeptOutside (movableLayers g (Arrangement.ofLayering g l).layers) (Arrangement.ofLayering g l).layers
      (arrangeLayers g l config).layers := by
  unfold arrangeLayers
  dsimp only
  split
  · exact reorder_keptOutside _
  · exact localSearch_keptOutside _ config

/-- A layer is moved only if it has two slots and holds no terminals. -/
theorem mem_movableLayers {g : Graph} {layers : List (List Slot)} {l : Nat} (hl : l ∈ movableLayers g layers) :
    (l = 0 → g.inPorts = []) ∧ (l = layers.length - 1 → g.outPorts = [])
      ∧ ∃ layer, layers[l]? = some layer ∧ 1 < layer.length := by
  unfold movableLayers at hl
  obtain ⟨hrange, hl⟩ := List.mem_filter.mp hl
  have hlt := List.mem_range.mp hrange
  simp only [Bool.and_eq_true, Bool.not_eq_true', Bool.or_eq_false_iff, Bool.and_eq_false_iff, beq_eq_false_iff_ne,
    Bool.not_eq_false', List.isEmpty_iff, decide_eq_true_eq, List.getD_eq_getElem?_getD,
    List.getElem?_eq_getElem hlt, Option.getD_some] at hl
  obtain ⟨⟨hfirst, hlast⟩, hlong⟩ := hl
  exact ⟨hfirst.resolve_left ∘ not_not_intro, hlast.resolve_left ∘ not_not_intro, _,
    List.getElem?_eq_getElem hlt, hlong⟩

/-! ## Placeholders in their layers -/

/-- The numbers of the placeholders that are recorded for a layer. -/
def recordedIn (ps : List Placeholder) (i : Nat) : List Nat :=
  (List.range ps.length).filter fun k => ps[k]?.map (·.layer) == some i

/-- The nodes of each layer, and behind them the placeholders that are recorded for it. -/
def padded (layers : List (List NodeId)) (ps : List Placeholder) : List (List Slot) :=
  layers.zipIdx.map fun e => e.1.map Slot.node ++ (recordedIn ps e.2).map Slot.placeholder

theorem mem_recordedIn {ps : List Placeholder} {i k : Nat} :
    k ∈ recordedIn ps i ↔ ∃ p, ps[k]? = some p ∧ p.layer = i := by
  unfold recordedIn
  rw [List.mem_filter, beq_iff_eq, Option.map_eq_some_iff, List.mem_range]
  refine and_iff_right_of_imp ?_
  rintro ⟨p, hp, -⟩
  exact (List.getElem?_eq_some_iff.mp hp).1

/-- The number of a placeholder fits into 32 bits if there are no more placeholders than 32 bits can number. -/
theorem toNat_ofNat_of_placeholder {ps : List Placeholder} (hroom : ps.length ≤ 2 ^ 32) {k : Nat} {p : Placeholder}
    (hp : ps[k]? = some p) : (UInt32.ofNat k).toNat = k :=
  UInt32.toNat_ofNat_of_lt' (Nat.lt_of_lt_of_le (List.getElem?_eq_some_iff.mp hp).1 hroom)

/-- A further placeholder has the next number, in its layer. -/
theorem recordedIn_concat (ps : List Placeholder) (p : Placeholder) (i : Nat) :
    recordedIn (ps ++ [p]) i = recordedIn ps i ++ if p.layer = i then [ps.length] else [] := by
  unfold recordedIn
  rw [List.length_append, List.length_singleton, List.range_succ, List.filter_append]
  congr 1
  · refine List.filter_congr ?_
    intro k hk
    rw [List.getElem?_append_left (List.mem_range.mp hk)]
  · rw [List.filter_cons, List.getElem?_concat_length, Option.map_some, Option.some_beq_some, List.filter_nil]
    simp only [beq_iff_eq]

theorem getElem?_padded (layers : List (List NodeId)) (ps : List Placeholder) (i : Nat) :
    (padded layers ps)[i]? = layers[i]?.map fun layer =>
      layer.map Slot.node ++ (recordedIn ps i).map Slot.placeholder := by
  unfold padded
  rw [List.getElem?_map, List.getElem?_zipIdx, Nat.zero_add, Option.map_map]
  rfl

/-- In front of a placeholder there is a node, so a layer with less than two slots holds nodes alone. -/
theorem map_node_of_padded {layers : List (List NodeId)} {ps : List Placeholder} (hnonempty : [] ∉ layers) {i : Nat}
    {slots : List Slot} (hslots : (padded layers ps)[i]? = some slots) (hshort : slots.length < 2) :
    layers[i]?.map (·.map Slot.node) = some slots := by
  rw [getElem?_padded] at hslots
  obtain ⟨layer, hlayer, rfl⟩ := Option.map_eq_some_iff.mp hslots
  have hpos : 0 < layer.length := List.length_pos_iff.mpr fun hempty =>
    hnonempty (hempty ▸ List.mem_of_getElem? hlayer)
  rw [List.length_append, List.length_map, List.length_map] at hshort
  have hnone : recordedIn ps i = [] := List.length_eq_zero_iff.mp (by omega)
  rw [hlayer, hnone, List.map_nil, List.append_nil]
  rfl

theorem padded_concat (layers : List (List NodeId)) (ps : List Placeholder) (p : Placeholder) :
    (padded layers ps).modify p.layer (· ++ [.placeholder ps.length]) = padded layers (ps ++ [p]) := by
  refine List.ext_getElem? ?_
  intro i
  rw [List.getElem?_modify, getElem?_padded, getElem?_padded]
  cases layers[i]? with
  | none => rfl
  | some layer =>
      simp only [Option.map_some, Option.map_eq_map, recordedIn_concat, List.map_append]
      split
      · rw [List.append_assoc]
        rfl
      · rw [List.map_nil, List.append_nil]

/-- The layers of an arrangement as they are routed: padded, but for the first layer and the last one. -/
structure Padding (l : Layering) (a : Arrangement) : Prop where
  nodeLayers : a.nodeLayers = l.nodeLayers
  layers : a.layers = padded l.layers a.placeholders
  between : ∀ p ∈ a.placeholders, 0 < p.layer ∧ p.layer + 1 < l.size

/-- Placeholders one by one, from a layer on. -/
theorem padded_between (layers : List (List NodeId)) (ps : List Placeholder) (c : ConnectionId) (low n : Nat) :
    ((List.range n).map fun i => (ps.length + i, low + 1 + i)).foldl
        (fun layers e => layers.modify e.2 (· ++ [.placeholder e.1])) (padded layers ps)
      = padded layers (ps ++ ((List.range n).map fun i => (ps.length + i, low + 1 + i)).map fun e => ⟨c, e.2⟩) := by
  induction n with
  | zero => rw [List.range_zero, List.map_nil, List.foldl_nil, List.map_nil, List.append_nil]
  | succ n ih =>
      rw [List.range_succ, List.map_append, List.foldl_append, ih, List.map_append, ← List.append_assoc,
        List.map_singleton, List.foldl_cons, List.foldl_nil, List.map_singleton]
      have hlen : ps.length + n = (ps ++ ((List.range n).map fun i => (ps.length + i, low + 1 + i)).map fun e =>
          (⟨c, e.2⟩ : Placeholder)).length := by
        rw [List.length_append, List.length_map, List.length_map, List.length_range]
      dsimp only
      rw [hlen]
      exact padded_concat layers _ ⟨c, low + 1 + n⟩

theorem Padding.route {l : Layering} (hl : ∀ n i, l.layerOf? n = some i → i < l.size) {a : Arrangement}
    (ha : Padding l a) (c : ConnectionId) (ends : Connection) : Padding l (a.route c ends) := by
  unfold Arrangement.route
  split
  · rename_i low high hlow hhigh
    split
    · exact ha
    · refine ⟨ha.nodeLayers, ?_, ?_⟩
      · dsimp only
        rw [ha.layers]
        exact padded_between l.layers a.placeholders c low (high - low - 1)
      · intro p hp
        rcases List.mem_append.mp hp with hp | hp
        · exact ha.between p hp
        · obtain ⟨e, he, rfl⟩ := List.mem_map.mp hp
          obtain ⟨i, hi, rfl⟩ := List.mem_map.mp he
          rw [ha.nodeLayers] at hhigh
          have hbound := hl _ high hhigh
          have hinner := List.mem_range.mp hi
          dsimp only
          omega
  · exact ha

theorem padding_ofLayering (g : Graph) {l : Layering} (hl : ∀ n i, l.layerOf? n = some i → i < l.size) :
    Padding l (.ofLayering g l) := by
  refine List.foldlRecOn (motive := Padding l) g.connections.entries _ ⟨rfl, ?_, by simp⟩ ?_
  · refine List.ext_getElem? ?_
    intro i
    rw [List.getElem?_map, getElem?_padded]
    exact congrArg (fun f => l.layers[i]?.map f) (funext fun layer => (List.append_nil _).symm)
  · intro a ha e _
    exact ha.route hl e.1 e.2

/-! ## Everything once, in its layer -/

/-- Layers with the same slots hold a slot at the same height. -/
theorem exists_slots_iff {layers layers' : List (List Slot)} (h : List.Forall₂ List.Perm layers layers') {i : Nat}
    {s : Slot} : (∃ slots, layers[i]? = some slots ∧ s ∈ slots) ↔ ∃ slots, layers'[i]? = some slots ∧ s ∈ slots := by
  constructor
  · rintro ⟨slots, hslots, hs⟩
    obtain ⟨slots', hslots', hperm⟩ := forall₂_getElem? h.flip hslots
    exact ⟨slots', hslots', hperm.mem_iff.mp hs⟩
  · rintro ⟨slots', hslots', hs⟩
    obtain ⟨slots, hslots, hperm⟩ := forall₂_getElem? h hslots'
    exact ⟨slots, hslots, hperm.mem_iff.mpr hs⟩

theorem exists_slots_padded_node {layers : List (List NodeId)} {ps : List Placeholder} {i : Nat} {n : NodeId} :
    (∃ slots, (padded layers ps)[i]? = some slots ∧ Slot.node n ∈ slots)
      ↔ ∃ layer, layers[i]? = some layer ∧ n ∈ layer := by
  rw [getElem?_padded]
  simp [Option.map_eq_some_iff]

theorem exists_slots_padded_placeholder {layers : List (List NodeId)} {ps : List Placeholder} {i k : Nat} :
    (∃ slots, (padded layers ps)[i]? = some slots ∧ Slot.placeholder k ∈ slots)
      ↔ i < layers.length ∧ k ∈ recordedIn ps i := by
  rw [getElem?_padded]
  simp [Option.map_eq_some_iff, List.getElem?_eq_some_iff]

theorem count_filterMap_node? (slots : List Slot) (n : NodeId) :
    (slots.filterMap Slot.node?).count n = slots.count (.node n) := by
  induction slots with
  | nil => rfl
  | cons s slots ih =>
      cases s with
      | node m =>
          have hfirst : (Slot.node m :: slots).filterMap Slot.node? = m :: slots.filterMap Slot.node? := rfl
          rw [hfirst, List.count_cons, List.count_cons, ih]
          simp only [beq_iff_eq, Slot.node.injEq]
      | placeholder k =>
          rw [List.filterMap_cons_none rfl, ih, List.count_cons_of_ne (by simp)]

/-- The placeholders in all layers together are all that are recorded. -/
theorem count_padded_placeholder {layers : List (List NodeId)} {ps : List Placeholder}
    (hps : ∀ p ∈ ps, p.layer < layers.length) {k : Nat} (hk : k < ps.length) :
    (padded layers ps).flatten.count (.placeholder k) = 1 := by
  have hlayer : ∀ e : List NodeId × Nat,
      (e.1.map Slot.node ++ (recordedIn ps e.2).map Slot.placeholder).count (.placeholder k)
        = (recordedIn ps e.2).count k := by
    intro e
    have hinj : Function.Injective Slot.placeholder := fun i j hij => Slot.placeholder.inj hij
    rw [List.count_append, List.count_map_of_injective _ _ hinj, List.count_eq_zero.mpr (by simp), Nat.zero_add]
  have hrows : ((List.range layers.length).map (recordedIn ps)).flatten.Perm (List.range ps.length) := by
    refine flatten_filter_perm List.nodup_range ?_
    intro j hj
    have hget := List.getElem?_eq_getElem (List.mem_range.mp hj)
    exact ⟨_, hps _ (List.mem_of_getElem? hget), by rw [hget]; rfl⟩
  unfold padded
  calc ((layers.zipIdx.map fun e => e.1.map Slot.node ++ (recordedIn ps e.2).map Slot.placeholder).flatten).count
        (.placeholder k)
      = (((layers.zipIdx.map Prod.snd).map (recordedIn ps)).flatten).count k := by
        rw [List.count_flatten, List.count_flatten, List.map_map, List.map_map, List.map_map]
        exact congrArg List.sum (List.map_congr_left fun e _ => hlayer e)
    _ = (List.range ps.length).count k := by
        rw [List.zipIdx_map_snd, ← List.range_eq_range']
        exact hrows.count_eq k
    _ = 1 := List.count_eq_one_of_mem List.nodup_range (List.mem_range.mpr hk)

/-- The arrangement has the slots of the layering: those of a layer in another order, where they may be moved. -/
structure Arrangement.Reorders (a : Arrangement) (g : Graph) (l : Layering) : Prop where
  /-- The layers of the nodes are those of the layering. -/
  nodeLayers : a.nodeLayers = l.nodeLayers
  /-- A layer holds its nodes and the placeholders that are recorded for it, in some order. -/
  layers : List.Forall₂ List.Perm a.layers (padded l.layers a.placeholders)
  /-- A node of the graph is listed once. -/
  node_once : ∀ n node, g.node? n = some node → a.layers.flatten.count (Slot.node n) = 1
  /-- A node is listed in the layer that is recorded for it. -/
  node_mem : ∀ n i, a.nodeLayers.get? n = some i ↔ ∃ slots, a.layers[i]? = some slots ∧ Slot.node n ∈ slots
  /-- A placeholder is listed once. -/
  placeholder_once : ∀ k < a.placeholders.length, a.layers.flatten.count (Slot.placeholder k) = 1
  /-- A placeholder is listed in the layer that is recorded for it. -/
  placeholder_mem : ∀ k i, (∃ p, a.placeholders[k]? = some p ∧ p.layer = i)
    ↔ ∃ slots, a.layers[i]? = some slots ∧ Slot.placeholder k ∈ slots
  /-- Up to `2 ^ 32` placeholders, the numbers that are listed fit into 32 bits. -/
  placeholder_word : a.placeholders.length ≤ 2 ^ 32 → ∀ k, Slot.placeholder k ∈ a.layers.flatten →
    (UInt32.ofNat k).toNat = k
  /-- The layer of the input terminals is that of the layering, in its order. -/
  first : g.inPorts ≠ [] → a.layers.head? = l.layers.head?.map (·.map Slot.node)
  /-- The layer of the output terminals is that of the layering, in its order. -/
  last : g.outPorts ≠ [] → a.layers.getLast? = l.layers.getLast?.map (·.map Slot.node)
  /-- So is every layer that has no two slots. -/
  narrow : ∀ (i : Nat) (slots : List Slot), a.layers[i]? = some slots → slots.length < 2 →
    l.layers[i]?.map (·.map Slot.node) = some slots

namespace Graph

variable {g : Graph}

/-- Layers without placeholders that may not be moved are those of the layering. -/
theorem getElem?_of_keptOutside {l : Layering} {ps : List Placeholder} {movable : List Nat} {layers : List (List Slot)}
    (hkept : KeptOutside movable (padded l.layers ps) layers) {i : Nat} (hi : i ∉ movable)
    (hps : recordedIn ps i = []) : layers[i]? = l.layers[i]?.map (·.map Slot.node) := by
  rw [hkept i hi, getElem?_padded, hps]
  exact congrArg (fun f => l.layers[i]?.map f) (funext fun layer => List.append_nil _)

/--
Whatever the settings, arranging a layering that places the nodes of a graph lists everything once and moves
nothing out of its layer.
-/
theorem WellFormed.arrange_reorders (h : g.WellFormed) (hplaces : g.assignLayers.Places g) (config : ArrangeConfig) :
    (g.arrange config).Reorders g g.assignLayers := by
  have hpadding := padding_ofLayering g fun _ _ => hplaces.lt_size
  have hnodeLayers : (g.arrange config).nodeLayers = g.assignLayers.nodeLayers := hpadding.nodeLayers
  have hps : (g.arrange config).placeholders = (Arrangement.ofLayering g g.assignLayers).placeholders := rfl
  have hperm : List.Forall₂ List.Perm (g.arrange config).layers
      (padded g.assignLayers.layers (g.arrange config).placeholders) := by
    rw [hps, ← hpadding.layers]
    exact arrangeLayers_perm g g.assignLayers config
  have hkept : KeptOutside (movableLayers g (Arrangement.ofLayering g g.assignLayers).layers)
      (padded g.assignLayers.layers (g.arrange config).placeholders) (g.arrange config).layers := by
    rw [hps, ← hpadding.layers]
    exact arrangeLayers_keptOutside g g.assignLayers config
  have hfree : ∀ i, (i = 0 ∨ i = g.assignLayers.size - 1) → recordedIn (g.arrange config).placeholders i = [] := by
    intro i hi
    refine List.eq_nil_iff_forall_not_mem.mpr fun k hk => ?_
    obtain ⟨p, hp, heq⟩ := mem_recordedIn.mp hk
    have hbetween := hpadding.between p (List.mem_of_getElem? hp)
    omega
  have hsize : (g.arrange config).layers.length = g.assignLayers.size := by
    rw [hperm.length_eq, padded, List.length_map, List.length_zipIdx]
    rfl
  exact {
    nodeLayers := hnodeLayers
    layers := hperm
    node_once := by
      intro n node hn
      have hnodes := h.arrange_nodes config
      rw [← count_filterMap_node?]
      exact List.count_eq_one_of_mem (hnodes.nodup_iff.mpr h.nodup)
        (hnodes.mem_iff.mpr (h.mem_allNodes.mpr ⟨node, hn⟩))
    node_mem := by
      intro n i
      rw [hnodeLayers, exists_slots_iff hperm, exists_slots_padded_node]
      exact hplaces.layerOf?_iff n i
    placeholder_once := by
      intro k hk
      rw [(List.Perm.flatten_congr hperm).count_eq]
      exact count_padded_placeholder (fun p hp => Nat.lt_of_succ_lt (hpadding.between p hp).2) hk
    placeholder_mem := by
      intro k i
      rw [exists_slots_iff hperm, exists_slots_padded_placeholder, mem_recordedIn]
      refine (and_iff_right_of_imp ?_).symm
      rintro ⟨p, hp, rfl⟩
      exact Nat.lt_of_succ_lt (hpadding.between p (List.mem_of_getElem? hp)).2
    placeholder_word := by
      intro hroom k hk
      rw [(List.Perm.flatten_congr hperm).mem_iff] at hk
      obtain ⟨slots, hslots, hk⟩ := List.mem_flatten.mp hk
      obtain ⟨i, hi⟩ := List.mem_iff_getElem?.mp hslots
      obtain ⟨-, hrecorded⟩ := exists_slots_padded_placeholder.mp ⟨slots, hi, hk⟩
      obtain ⟨p, hp, -⟩ := mem_recordedIn.mp hrecorded
      exact toNat_ofNat_of_placeholder hroom hp
    first := by
      intro hin
      rw [List.head?_eq_getElem?, List.head?_eq_getElem?]
      exact getElem?_of_keptOutside hkept (fun hmem => hin ((mem_movableLayers hmem).1 rfl)) (hfree 0 (Or.inl rfl))
    last := by
      intro hout
      rw [List.getLast?_eq_getElem?, List.getLast?_eq_getElem?, hsize]
      refine getElem?_of_keptOutside hkept (fun hmem => hout ((mem_movableLayers hmem).2.1 ?_)) (hfree _ (Or.inr rfl))
      rw [hpadding.layers, padded, List.length_map, List.length_zipIdx]
      rfl
    narrow := by
      intro i slots hslots hshort
      obtain ⟨start, hstart, hsame⟩ := forall₂_getElem? hperm.flip hslots
      have hnot : i ∉ movableLayers g (Arrangement.ofLayering g g.assignLayers).layers := by
        intro hmem
        obtain ⟨-, -, layer, hlayer, hlong⟩ := mem_movableLayers hmem
        rw [hpadding.layers, ← hps, hstart] at hlayer
        injection hlayer with hlayer
        rw [← hlayer, ← hsame.length_eq] at hlong
        omega
      rw [hkept i hnot] at hslots
      exact map_node_of_padded hplaces.nonempty hslots hshort }

/--
**Arranging keeps the slots.** Whatever the strategy, the number of exchanges and the seed, the arrangement of a graph
that passes the check lists every node and every placeholder once, in its layer. The graph may be new or read at first,
and edited in any way. The layers of the terminals and those without two slots are left in the order of the layering.
The numbers of placeholders fit into 32 bits as long as there are at most `2 ^ 32` of them.
-/
theorem arranging_keeps_slots (hg : g.Attained) (hcheck : g.checkInvariants = .ok ()) (config : ArrangeConfig) :
    (g.arrange config).Reorders g g.assignLayers := by
  have hwf := hg.wellFormed
  have hplaces := hwf.assignLayers_places fun n node hn => hwf.onePort_of_check hcheck hn
  exact hwf.arrange_reorders hplaces config

/-- Two numbers that may change places, and a connection that leads past them. -/
theorem fan_keeps_slots :
    let g := (empty "fan").run [.insert .input 0 "x", .add (.ofNames ⟨"math", "abs"⟩ [""] [""]),
      .add (.ofNames ⟨"math", "sqrt"⟩ [""] [""]), .insert .output 0 "y", .insert .output 1 "z", .insert .output 2 "w",
      .connect ⟨⟨0⟩, 0⟩ ⟨⟨1⟩, 0⟩, .connect ⟨⟨0⟩, 0⟩ ⟨⟨2⟩, 0⟩, .connect ⟨⟨1⟩, 0⟩ ⟨⟨4⟩, 0⟩,
      .connect ⟨⟨2⟩, 0⟩ ⟨⟨3⟩, 0⟩, .connect ⟨⟨0⟩, 0⟩ ⟨⟨5⟩, 0⟩]
    g.checkInvariants = .ok () ∧ (g.arrange { iterations := 7, seed := 3 }).Reorders g g.assignLayers := by
  intro g
  have hedits : g.Reachable fun e => e.Clean ∧ e.OnePort := by
    refine ⟨"fan", _, ?_, ?_, rfl⟩
    · intro e he
      simp only [List.mem_cons, List.not_mem_nil, or_false] at he
      rcases he with rfl | rfl | rfl | rfl | rfl | rfl | rfl | rfl | rfl | rfl | rfl
      case inr.inl => exact ⟨Node.ofNames_unconnected _ _ _, by decide, by decide⟩
      case inr.inr.inl => exact ⟨Node.ofNames_unconnected _ _ _, by decide, by decide⟩
      all_goals exact ⟨trivial, trivial⟩
    · exact roomFor_of_length (by simp [empty]) (by simp [empty])
  exact ⟨hedits.checkInvariants,
    arranging_keeps_slots (hedits.mono fun _ he => he.1).attained hedits.checkInvariants _⟩

end Graph

end SignalGraph
