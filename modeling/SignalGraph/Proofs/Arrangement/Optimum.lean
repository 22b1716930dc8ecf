import SignalGraph.Proofs.Arrangement.Keeping
import SignalGraph.Proofs.Arrangement.Permutations

/-!
# Trying all orders finds the least number of crossings

The search by trying all orders goes through a row of permutations for each of the layers that may be moved, and
keeps the first one with the least crossings. As counting on visits every row (`walks_rows`), it is a fold over all of
them (`searchOrders_eq_foldl`). And every way to put the slots of the movable layers in other orders, all of them at
once, is given by a row (`Reordered.exists_places`), also when a layer lists a slot twice.

So no reordering has less crossings than the one that is found, and none has been found by random exchanges. Orders
are counted only up to a greatest number. It lies above the limit, so that whether there are too many of them is
decided as if they were counted to the end.
-/

namespace SignalGraph

section Search

variable {h : Hops} {layers layers' : List (List Slot)} {movable : List Nat}

/-! ## The number of orders -/

/-- The number of ways in which some layers can be ordered, all of them together. -/
def orderCount (layers : List (List Slot)) (movable : List Nat) : Nat :=
  (movable.map fun l => (layers.getD l []).length.factorial).prod

/-- A product that stands at the greatest count stays there. -/
theorem min_mul_greatestCount (n k : Nat) :
    min (min n greatestCount * (k + 1)) greatestCount = min (n * (k + 1)) greatestCount := by
  by_cases hn : n ≤ greatestCount
  · rw [Nat.min_eq_left hn]
  · have hgreat : greatestCount ≤ n := by omega
    rw [Nat.min_eq_right hgreat, Nat.min_eq_right (Nat.le_mul_of_pos_right _ (Nat.succ_pos k)),
      Nat.min_eq_right (Nat.le_trans hgreat (Nat.le_mul_of_pos_right _ (Nat.succ_pos k)))]

theorem foldl_min_factorial (n m : Nat) :
    (List.range m).foldl (fun n k => min (n * (k + 1)) greatestCount) (min n greatestCount)
      = min (n * m.factorial) greatestCount := by
  induction m with
  | zero => rw [List.range_zero, List.foldl_nil, Nat.factorial_zero, Nat.mul_one]
  | succ m ih =>
      rw [List.range_succ, List.foldl_append, ih, List.foldl_cons, List.foldl_nil, min_mul_greatestCount,
        Nat.factorial_succ, Nat.mul_assoc, Nat.mul_comm (m + 1)]

/-- The orders are counted right up to the greatest count. -/
theorem orderings_eq (layers : List (List Slot)) (movable : List Nat) :
    orderings layers movable = min (orderCount layers movable) greatestCount := by
  -- what has been counted already stands before the product of the layers that are still to come
  have hfold : ∀ (ls : List Nat) (n : Nat),
      ls.foldl (fun n l => (List.range (layers.getD l []).length).foldl
          (fun n k => min (n * (k + 1)) greatestCount) n) (min n greatestCount)
        = min (n * orderCount layers ls) greatestCount := by
    intro ls
    induction ls with
    | nil =>
        intro n
        rw [List.foldl_nil, orderCount, List.map_nil, List.prod_nil, Nat.mul_one]
    | cons l ls ih =>
        intro n
        rw [List.foldl_cons, foldl_min_factorial, ih, orderCount, orderCount, List.map_cons, List.prod_cons,
          Nat.mul_assoc]
  have hall := hfold movable 1
  rwa [Nat.min_eq_left (by decide : 1 ≤ greatestCount), Nat.one_mul] at hall

/-- Whether there are too many orders does not depend on where the count ends. -/
theorem orderings_le_iff : orderings layers movable ≤ exhaustiveLimit ↔ orderCount layers movable ≤ exhaustiveLimit := by
  have hlimit : exhaustiveLimit < greatestCount := by decide
  rw [orderings_eq]
  omega

theorem permutations_eq_factorial (n : Nat) : permutations n = n.factorial := by
  induction n with
  | zero => rfl
  | succ n ih => rw [permutations, ih, Nat.factorial_succ]

/-- The places of the slots of each movable layer, in their own order. -/
def places (layers : List (List Slot)) (movable : List Nat) : List (List Nat) :=
  movable.map fun l => List.range (layers.getD l []).length

theorem length_rows_places (layers : List (List Slot)) (movable : List Nat) :
    (rows (places layers movable)).length = orderCount layers movable := by
  unfold orderCount places
  rw [length_rows, List.map_map]
  refine congrArg List.prod (List.map_congr_left ?_)
  intro l _
  dsimp only [Function.comp_apply]
  rw [List.length_range]

theorem combinations_eq (layers : List (List Slot)) (movable : List Nat) :
    combinations layers movable = orderCount layers movable := by
  induction movable with
  | nil => rfl
  | cons l movable ih =>
      unfold combinations orderCount at ih ⊢
      rw [List.foldr_cons, ih, permutations_eq_factorial, List.map_cons, List.prod_cons]

/-! ## Going through all rows -/

theorem mem_rows_places {perms : List (List Nat)} :
    perms ∈ rows (places layers movable) ↔ PlacesOf layers movable perms := by
  unfold places PlacesOf
  rw [mem_rows, List.forall₂_map_right_iff]
  exact ⟨fun hperms => hperms.flip, fun hperms => hperms.flip⟩

theorem walks_places (layers : List (List Slot)) (movable : List Nat) :
    Walks advanceAll? (places layers movable) (rows (places layers movable)) := by
  refine walks_rows ?_
  intro ps hps
  obtain ⟨l, -, rfl⟩ := List.mem_map.mp hps
  exact List.pairwise_lt_range

/-- A walk ends at its first entry or goes on from the next one. -/
theorem Walks.next_cases {α : Type} {next : α → Option α} {a : α} {all : List α} (hw : Walks next a all) :
    (all = [a] ∧ next a = none) ∨ ∃ b rest, all = a :: rest ∧ next a = some b ∧ Walks next b rest := by
  obtain ⟨rest, rfl⟩ := List.head?_eq_some_iff.mp hw.head
  cases rest with
  | nil => exact Or.inl ⟨rfl, hw.last a rfl⟩
  | cons b rest =>
      obtain ⟨hnext, hchain⟩ := List.isChain_cons_cons.mp hw.chain
      refine Or.inr ⟨b, b :: rest, rfl, hnext, rfl, hchain, ?_⟩
      intro c hc
      exact hw.last c (by rwa [List.getLast?_cons_cons])

/-- What is kept after a look at a row: this one, if it has less crossings than what was found before. -/
def better (h : Hops) (layers : List (List Slot)) (movable : List Nat) (found : List (List Nat) × Nat)
    (perms : List (List Nat)) : List (List Nat) × Nat :=
  if h.total (reorder layers movable perms) < found.2 then (perms, h.total (reorder layers movable perms)) else found

theorem searchOrders_succ (fuel : Nat) (perms best : List (List Nat)) (least : Nat) :
    searchOrders h layers movable (fuel + 1) perms best least
      = match advanceAll? perms with
        | some perms' => searchOrders h layers movable fuel perms' (better h layers movable (best, least) perms).1
            (better h layers movable (best, least) perms).2
        | none => better h layers movable (best, least) perms := by
  rw [searchOrders]
  unfold better
  by_cases hless : h.total (reorder layers movable perms) < least
  · rewrite [if_pos hless]
    rfl
  · rewrite [if_neg hless]
    rfl

/-- With a step for each of them, the search looks at all rows in their order. -/
theorem searchOrders_eq_foldl {fuel : Nat} {perms best : List (List Nat)} {least : Nat} {all : List (List (List Nat))}
    (hw : Walks advanceAll? perms all) (hfuel : all.length ≤ fuel) :
    searchOrders h layers movable fuel perms best least = all.foldl (better h layers movable) (best, least) := by
  induction fuel generalizing perms best least all with
  | zero =>
      rw [List.length_eq_zero_iff.mp (Nat.le_zero.mp hfuel)] at hw
      exact absurd hw.head (by simp)
  | succ fuel ih =>
      rw [searchOrders_succ]
      rcases hw.next_cases with ⟨rfl, hnone⟩ | ⟨perms', rest, rfl, hsome, hrest⟩
      · rw [hnone]
        rfl
      · rw [hsome, List.foldl_cons]
        exact ih hrest (Nat.le_of_succ_le_succ hfuel)

theorem better_le (found : List (List Nat) × Nat) (perms : List (List Nat)) :
    (better h layers movable found perms).2 ≤ found.2
      ∧ (better h layers movable found perms).2 ≤ h.total (reorder layers movable perms) := by
  unfold better
  split
  · rename_i hless
    exact ⟨Nat.le_of_lt hless, Nat.le_refl _⟩
  · rename_i hle
    exact ⟨Nat.le_refl _, Nat.not_lt.mp hle⟩

/-- What is left in the end has no more crossings than any row. -/
theorem foldl_better_le (all : List (List (List Nat))) (found : List (List Nat) × Nat) :
    (all.foldl (better h layers movable) found).2 ≤ found.2
      ∧ ∀ perms ∈ all, (all.foldl (better h layers movable) found).2 ≤ h.total (reorder layers movable perms) := by
  induction all generalizing found with
  | nil => exact ⟨Nat.le_refl _, by simp⟩
  | cons perms all ih =>
      obtain ⟨hfound, hall⟩ := ih (better h layers movable found perms)
      obtain ⟨hkept, hless⟩ : (better h layers movable found perms).2 ≤ found.2
          ∧ (better h layers movable found perms).2 ≤ h.total (reorder layers movable perms) := better_le found perms
      refine ⟨Nat.le_trans hfound hkept, ?_⟩
      rw [List.forall_mem_cons]
      exact ⟨Nat.le_trans hfound hless, hall⟩

/-- If no row has less crossings, the first find is kept. -/
theorem foldl_better_eq {all : List (List (List Nat))} {found : List (List Nat) × Nat}
    (hall : ∀ perms ∈ all, found.2 ≤ h.total (reorder layers movable perms)) :
    all.foldl (better h layers movable) found = found := by
  refine List.foldlRecOn (motive := fun kept => kept = found) all _ rfl ?_
  rintro kept rfl perms hperms
  exact if_neg (Nat.not_lt.mpr (hall perms hperms))

theorem exhaustiveSearch_eq (h : Hops) (layers : List (List Slot)) (movable : List Nat) (initial : Nat) :
    exhaustiveSearch h layers movable initial
      = (reorder layers movable
          ((rows (places layers movable)).foldl (better h layers movable) (places layers movable, initial)).1,
        ((rows (places layers movable)).foldl (better h layers movable) (places layers movable, initial)).2) := by
  have hfuel : (rows (places layers movable)).length ≤ combinations layers movable := by
    rw [length_rows_places, combinations_eq]
  rw [← searchOrders_eq_foldl (walks_places layers movable) hfuel]
  rfl

/-! ## Every reordering is a row -/

/-- The movable layers with their slots in any order, and all other layers as they are. -/
structure Reordered (movable : List Nat) (layers layers' : List (List Slot)) : Prop where
  slots : List.Forall₂ List.Perm layers' layers
  kept : KeptOutside movable layers layers'

theorem PlacesOf.reordered {perms : List (List Nat)} (hp : PlacesOf layers movable perms) :
    Reordered movable layers (reorder layers movable perms) :=
  ⟨reorder_perm hp, reorder_keptOutside perms⟩

/-- A permutation of a list takes its entries by a permutation of their places. -/
theorem exists_places_of_perm {α : Type} {as bs : List α} (hperm : bs.Perm as) :
    ∃ perm : List Nat, perm.Perm (List.range as.length) ∧ perm.filterMap (fun i => as[i]?) = bs := by
  have hplaces : List.Forall₂ (fun a i => as[i]? = some a) as (List.range as.length) := by
    rw [List.forall₂_iff_get]
    refine ⟨List.length_range.symm, ?_⟩
    intro i hi hi'
    rw [List.get_eq_getElem, List.getElem_range]
    exact List.getElem?_eq_getElem hi
  -- the places are carried along with the entries that stand at them
  obtain ⟨perm, htaken, hrange⟩ := List.perm_comp_forall₂ hperm hplaces
  refine ⟨perm, hrange, ?_⟩
  clear hrange hplaces hperm
  induction htaken with
  | nil => rfl
  | cons ha _ ih => rw [List.filterMap_cons_some ha, ih]

theorem getElem?_foldl_set {α : Type} (value : Nat → α) (ls : List Nat) (done : List α) (i : Nat) :
    (ls.foldl (fun done l => done.set l (value l)) done)[i]?
      = if i ∈ ls then done[i]?.map fun _ => value i else done[i]? := by
  induction ls generalizing done with
  | nil => rfl
  | cons l ls ih =>
      rw [List.foldl_cons, ih, List.getElem?_set']
      by_cases hl : l = i
      · subst hl
        cases done[l]? <;> simp
      · rw [if_neg hl]
        simp [Ne.symm hl]

/-- Every reordering of the movable layers is given by a row of permutations of their places. -/
theorem Reordered.exists_places (hr : Reordered movable layers layers') :
    ∃ perms, PlacesOf layers movable perms ∧ reorder layers movable perms = layers' := by
  have hlayer : ∀ l, (layers'.getD l []).Perm (layers.getD l []) := by
    intro l
    rw [List.getD_eq_getElem?_getD, List.getD_eq_getElem?_getD]
    cases hl : layers[l]? with
    | none =>
        rw [List.getElem?_eq_none_iff, ← hr.slots.length_eq, ← List.getElem?_eq_none_iff] at hl
        rw [hl]
    | some layer =>
        obtain ⟨layer', hl', hperm⟩ := forall₂_getElem? hr.slots hl
        rw [hl']
        exact hperm
  -- one permutation of places for each number of a layer, also for numbers that are too great
  choose perm hrange htaken using fun l => exists_places_of_perm (hlayer l)
  refine ⟨movable.map perm, ?_, ?_⟩
  · exact List.forall₂_map_right_iff.mpr (List.forall₂_same.mpr fun l _ => hrange l)
  · refine List.ext_getElem? ?_
    intro i
    unfold reorder
    rw [← List.map_prod_left_eq_zip, List.foldl_map]
    dsimp only
    simp only [htaken]
    rw [getElem?_foldl_set (fun l => layers'.getD l [])]
    split
    · cases hi : layers[i]? with
      | none =>
          rw [List.getElem?_eq_none_iff, ← hr.slots.length_eq, ← List.getElem?_eq_none_iff] at hi
          rw [hi]
          rfl
      | some layer =>
          obtain ⟨layer', hi', -⟩ := forall₂_getElem? hr.slots hi
          rw [List.getD_eq_getElem?_getD, hi']
          rfl
    · rename_i hi
      exact (hr.kept i hi).symm

/-- No reordering has less crossings than those that the search returns. -/
theorem Reordered.exhaustiveSearch_le (hr : Reordered movable layers layers') (initial : Nat) :
    (exhaustiveSearch h layers movable initial).2 ≤ h.total layers' := by
  obtain ⟨perms, hperms, rfl⟩ := hr.exists_places
  rw [exhaustiveSearch_eq]
  exact (foldl_better_le _ _).2 perms (mem_rows_places.mpr hperms)

/-- Layers that cannot be bettered are returned as they are. -/
theorem exhaustiveSearch_keeps {initial : Nat}
    (hleast : ∀ layers', Reordered movable layers layers' → initial ≤ h.total layers') :
    exhaustiveSearch h layers movable initial = (layers, initial) := by
  rw [exhaustiveSearch_eq, foldl_better_eq fun perms hperms => hleast _ (mem_rows_places.mp hperms).reordered]
  exact congrArg (·, initial) (reorder_range layers movable)

end Search

/-! ## Arranging -/

/-- The layers have the least number of crossings that any reordering has. -/
structure Arrangement.Optimal (g : Graph) (start a : Arrangement) : Prop where
  /-- Only the layers are other ones than at the start, and the numbers that come with them. -/
  frame : a = { start with layers := a.layers, initialCrossings := a.initialCrossings, crossings := a.crossings }
  /-- Slots are moved within the movable layers. -/
  reordered : Reordered (movableLayers g start.layers) start.layers a.layers
  counted : a.countCrossings? g = some a.crossings
  /-- Every reordering has crossings, and no less of them. -/
  least : ∀ layers, Reordered (movableLayers g start.layers) start.layers layers →
    ∃ k, Arrangement.countCrossings? { start with layers } g = some k ∧ a.crossings ≤ k
  /-- If no reordering has less crossings than there are at the start, the slots stay where they are. -/
  kept : (∀ layers, Reordered (movableLayers g start.layers) start.layers layers →
      ∀ k, Arrangement.countCrossings? { start with layers } g = some k → a.initialCrossings ≤ k) →
    a.layers = start.layers

theorem arrangeLayers_reordered (g : Graph) (l : Layering) (config : ArrangeConfig) :
    Reordered (movableLayers g (Arrangement.ofLayering g l).layers) (Arrangement.ofLayering g l).layers
      (arrangeLayers g l config).layers :=
  ⟨arrangeLayers_perm g l config, arrangeLayers_keptOutside g l config⟩

/-- With too many orders to try them all, the arrangement is that of random exchanges. -/
theorem arrangeLayers_of_many {g : Graph} {l : Layering} (config : ArrangeConfig)
    (hmany : exhaustiveLimit < orderCount (Arrangement.ofLayering g l).layers
      (movableLayers g (Arrangement.ofLayering g l).layers)) :
    arrangeLayers g l { config with strategy := .exhaustive } = arrangeLayers g l { config with strategy := .localSearch } := by
  unfold arrangeLayers
  dsimp only
  rw [if_neg fun hall => Nat.not_le.mpr hmany (orderings_le_iff.mp hall.2), if_neg fun hall => nomatch hall.1]
  rfl

theorem arrangeLayers_of_few {g : Graph} {l : Layering} (config : ArrangeConfig)
    (hfew : orderCount (Arrangement.ofLayering g l).layers (movableLayers g (Arrangement.ofLayering g l).layers)
      ≤ exhaustiveLimit) :
    let start := Arrangement.ofLayering g l
    let h := Hops.of g start
    let found := exhaustiveSearch h start.layers (movableLayers g start.layers) (h.total start.layers)
    arrangeLayers g l { config with strategy := .exhaustive }
      = { start with layers := found.1, initialCrossings := h.total start.layers, crossings := found.2 } := by
  intro start h found
  unfold arrangeLayers
  dsimp only
  rw [if_pos ⟨rfl, orderings_le_iff.mpr hfew⟩]

/-- The crossings of a reordering are those of its slots along the routes of the start. -/
theorem Reordered.countCrossings? {g : Graph} {l : Layering} (hl : ∀ n i, l.layerOf? n = some i → i < l.size)
    {movable : List Nat} {layers : List (List Slot)}
    (hr : Reordered movable (Arrangement.ofLayering g l).layers layers) :
    Arrangement.countCrossings? { Arrangement.ofLayering g l with layers } g
      = some ((Hops.of g (.ofLayering g l)).total layers) :=
  countCrossings?_layers (fun _ he => fits_ofLayering g hl he) hr.slots.length_eq _ _

theorem optimal_of_few {g : Graph} {l : Layering} (hl : ∀ n i, l.layerOf? n = some i → i < l.size)
    (config : ArrangeConfig)
    (hfew : orderCount (Arrangement.ofLayering g l).layers (movableLayers g (Arrangement.ofLayering g l).layers)
      ≤ exhaustiveLimit) :
    Arrangement.Optimal g (.ofLayering g l) (arrangeLayers g l { config with strategy := .exhaustive }) := by
  have heq := arrangeLayers_of_few config hfew
  refine ⟨?_, arrangeLayers_reordered g l _, (counted_arrangeLayers g hl _).final, ?_, ?_⟩
  · rw [heq]
  · intro layers hr
    refine ⟨_, hr.countCrossings? hl, ?_⟩
    rw [heq]
    exact hr.exhaustiveSearch_le _
  · intro hleast
    rw [heq] at hleast ⊢
    dsimp only at hleast ⊢
    rw [exhaustiveSearch_keeps fun layers hr => hleast layers hr _ (hr.countCrossings? hl)]

/-- The crossings of every arrangement are those of a reordering. -/
theorem Arrangement.Optimal.le_arrangeLayers {g : Graph} {l : Layering}
    (hl : ∀ n i, l.layerOf? n = some i → i < l.size) {a : Arrangement}
    (ha : Arrangement.Optimal g (.ofLayering g l) a) (config : ArrangeConfig) :
    a.crossings ≤ (arrangeLayers g l config).crossings := by
  have hr := arrangeLayers_reordered g l config
  obtain ⟨k, hk, hle⟩ := ha.least _ hr
  have hcounted : Arrangement.countCrossings? { Arrangement.ofLayering g l with
      layers := (arrangeLayers g l config).layers } g = some (arrangeLayers g l config).crossings :=
    (counted_arrangeLayers g hl config).final
  rw [hcounted] at hk
  injection hk with hk
  rwa [hk]

/--
**Trying all orders finds an optimum.** Whatever the graph and the layering, as long as the layers that it records
exist: if the movable layers have at most as many orders as the limit says, the layers that are found are a reordering
with the least number of crossings. So random exchanges leave at least as many, with any seed and any number of them,
and layers that cannot be bettered stay as they are. If there are more orders, however many, the arrangement is the one
that random exchanges give.
-/
theorem exhaustive_finds_optimum (g : Graph) (l : Layering) (hl : ∀ n i, l.layerOf? n = some i → i < l.size)
    (config : ArrangeConfig) :
    let start := Arrangement.ofLayering g l
    let orders := ((movableLayers g start.layers).map fun i => (start.layers.getD i []).length.factorial).prod
    let a := arrangeLayers g l { config with strategy := .exhaustive }
    (orders ≤ exhaustiveLimit →
        Arrangement.Optimal g start a ∧ ∀ c : ArrangeConfig, a.crossings ≤ (arrangeLayers g l c).crossings)
      ∧ (exhaustiveLimit < orders → a = arrangeLayers g l { config with strategy := .localSearch }) := by
  intro start orders a
  constructor
  · intro hfew
    have hoptimal : Arrangement.Optimal g start a := optimal_of_few hl config hfew
    exact ⟨hoptimal, hoptimal.le_arrangeLayers hl⟩
  · intro hmany
    exact arrangeLayers_of_many config hmany

/-- Two inputs, two numbers that are taken in the other order, and two outputs. -/
def twisted : Graph := (Graph.empty "twisted").run [.insert .input 0 "x", .insert .input 1 "w",
  .add (.ofNames ⟨"math", "abs"⟩ [""] [""]), .add (.ofNames ⟨"math", "sqrt"⟩ [""] [""]),
  .insert .output 0 "y", .insert .output 1 "z", .connect ⟨⟨0⟩, 0⟩ ⟨⟨3⟩, 0⟩, .connect ⟨⟨1⟩, 0⟩ ⟨⟨2⟩, 0⟩,
  .connect ⟨⟨3⟩, 0⟩ ⟨⟨4⟩, 0⟩, .connect ⟨⟨2⟩, 0⟩ ⟨⟨5⟩, 0⟩]

def twistedLayers : Layering := .ofLayers [[⟨0⟩, ⟨1⟩], [⟨2⟩, ⟨3⟩], [⟨4⟩, ⟨5⟩]]

/-- Each of the two orders of the nodes is tried, and the second one has no crossing. -/
theorem twisted_optimum :
    Arrangement.Optimal twisted (.ofLayering twisted twistedLayers)
        (arrangeLayers twisted twistedLayers { strategy := .exhaustive })
      ∧ (arrangeLayers twisted twistedLayers { strategy := .exhaustive }).initialCrossings = 2
      ∧ (arrangeLayers twisted twistedLayers { strategy := .exhaustive }).crossings = 0 := by
  have hfew : ((movableLayers twisted (Arrangement.ofLayering twisted twistedLayers).layers).map fun i =>
      ((Arrangement.ofLayering twisted twistedLayers).layers.getD i []).length.factorial).prod ≤ exhaustiveLimit := by
    decide +kernel
  have hlayers : ∀ n i, twistedLayers.layerOf? n = some i → i < twistedLayers.size := by
    intro n i hn
    obtain ⟨layer, hlayer, -⟩ := Layering.exists_layer_ofLayers hn
    exact (List.getElem?_eq_some_iff.mp hlayer).1
  exact ⟨((exhaustive_finds_optimum twisted twistedLayers hlayers {}).1 hfew).1, by decide +kernel, by decide +kernel⟩

end SignalGraph
