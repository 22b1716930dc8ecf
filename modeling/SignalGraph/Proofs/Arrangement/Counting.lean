import Mathlib.Algebra.BigOperators.Fin
import Mathlib.Data.Int.Order.Basic
import SignalGraph.Proofs.Arrangement.Reordering

/-!
# The number of crossings is kept exactly

The crossings at a boundary are the pairs of hops that change sides there (`crossingsAt_eq_card`). The search does
not count all of them anew when it exchanges two slots. The crossings at a boundary depend on the two layers at it, so
an exchange in one layer can only change the crossings on both sides of that layer. The total is split into those and
all others (`total_eq`); what the search adds and takes away is the change of the first part.

Nothing here asks for a well-formed graph or for a layering that goes with it. A layering may hold nodes that
the graph does not have, or hold them several times; only the layers that it records must exist.
-/

namespace SignalGraph

namespace Hops

/-! ## What is counted -/

/-- The ports between which the hops across a boundary are drawn, in the order of the hops. -/
def spansAt (h : Hops) (layers : List (List Slot)) (b : Nat) : List (Nat × Nat) :=
  match h.boundaries[b]?, layers[b]?, layers[b + 1]? with
  | some hops, some upper, some lower => hops.filterMap (span? (offsets h.outputs upper) (offsets h.inputs lower))
  | _, _, _ => []

/-- The pairs of places in a list of spans, one behind the other, where the differences at both ends have other signs. -/
def crossingPairs (spans : List (Nat × Nat)) : Finset (Fin spans.length × Fin spans.length) :=
  Finset.univ.filter fun p => p.1 < p.2
    ∧ ((spans[p.1].1 : Int) - spans[p.2].1) * ((spans[p.1].2 : Int) - spans[p.2].2) < 0

/-- Two spans cross if the product of their differences is negative. -/
theorem crosses_iff (x y : Nat × Nat) : crosses x y = true ↔ ((x.1 : Int) - y.1) * ((x.2 : Int) - y.2) < 0 := by
  rw [Int.mul_neg_iff]
  unfold crosses
  simp only [Bool.or_eq_true, Bool.and_eq_true, decide_eq_true_eq]
  omega

theorem countP_eq_sum {α : Type} (p : α → Bool) (xs : List α) :
    xs.countP p = ∑ i : Fin xs.length, if p xs[i] = true then 1 else 0 := by
  induction xs with
  | nil => rfl
  | cons x xs ih =>
      have hsplit := Fin.sum_univ_succ (n := xs.length) fun i => if p (x :: xs)[i] = true then 1 else 0
      rw [List.countP_cons, ih, Nat.add_comm]
      exact hsplit.symm

theorem countCrossing_eq_sum (spans : List (Nat × Nat)) : countCrossing spans
    = ∑ i : Fin spans.length, ∑ j : Fin spans.length, if i < j ∧ crosses spans[i] spans[j] = true then 1 else 0 := by
  induction spans with
  | nil => rfl
  | cons x xs ih =>
      have hsplit := Fin.sum_univ_succ (n := xs.length) fun i =>
        ∑ j : Fin (xs.length + 1), if i < j ∧ crosses (x :: xs)[i] (x :: xs)[j] = true then 1 else 0
      refine Eq.trans ?_ hsplit.symm
      rw [countCrossing, countP_eq_sum, ih]
      congr 1
      · -- pairs with the first span
        rw [Fin.sum_univ_succ]
        simp
      · -- pairs of spans behind it
        refine Finset.sum_congr rfl fun i _ => ?_
        rw [Fin.sum_univ_succ]
        simp

section Boundaries

variable (h : Hops) (layers : List (List Slot))

/-- The crossings at a boundary are the pairs of hops there that cross. -/
theorem crossingsAt_eq_card (b : Nat) : h.crossingsAt layers b = (crossingPairs (h.spansAt layers b)).card := by
  have hcount : h.crossingsAt layers b = countCrossing (h.spansAt layers b) := by
    unfold crossingsAt spansAt
    cases h.boundaries[b]? with
    | none => rfl
    | some hops =>
        cases layers[b]? with
        | none => rfl
        | some upper =>
            cases layers[b + 1]? with
            | none => rfl
            | some lower => rfl
  rw [hcount, countCrossing_eq_sum, crossingPairs, Finset.card_filter, Fintype.sum_prod_type]
  simp only [crosses_iff]

/-! ## Around a layer and elsewhere -/

/-- The crossings at all boundaries that do not touch a layer. -/
def elsewhere (l : Nat) : Nat :=
  ∑ b ∈ Finset.range h.boundaries.length, if b = l ∨ b + 1 = l then 0 else h.crossingsAt layers b

theorem total_eq_sum : h.total layers = ∑ b ∈ Finset.range h.boundaries.length, h.crossingsAt layers b := by
  unfold total
  rw [← List.foldr_map]
  rfl

/-- The total is the number of all pairs of hops that cross at some boundary. -/
theorem total_eq_sum_card :
    h.total layers = ∑ b ∈ Finset.range h.boundaries.length, (crossingPairs (h.spansAt layers b)).card := by
  rw [total_eq_sum]
  exact Finset.sum_congr rfl fun b _ => h.crossingsAt_eq_card layers b

/-- Where there is no boundary, nothing crosses. -/
theorem crossingsAt_of_le {b : Nat} (hb : h.boundaries.length ≤ b) : h.crossingsAt layers b = 0 := by
  unfold crossingsAt
  rw [List.getElem?_eq_none hb]

/-- The sum over one boundary is the crossings there, if it is a boundary or not. -/
theorem sum_crossingsAt_eq (l : Nat) :
    (∑ b ∈ Finset.range h.boundaries.length, if b = l then h.crossingsAt layers b else 0)
      = h.crossingsAt layers l := by
  rw [Finset.sum_ite_eq']
  split
  · rfl
  · rename_i hl
    rw [Finset.mem_range, Nat.not_lt] at hl
    exact (h.crossingsAt_of_le layers hl).symm

/-- Every crossing lies at one of the two sides of a layer or at a boundary elsewhere. -/
theorem total_eq (l : Nat) : h.total layers = h.around layers l + h.elsewhere layers l := by
  have hsplit : ∀ b, h.crossingsAt layers b = (if b + 1 = l then h.crossingsAt layers b else 0)
      + (if b = l then h.crossingsAt layers b else 0)
      + (if b = l ∨ b + 1 = l then 0 else h.crossingsAt layers b) := by
    intro b
    by_cases hbefore : b + 1 = l
    · rw [if_pos hbefore, if_neg (by omega), if_pos (Or.inr hbefore), Nat.add_zero]
    · by_cases hbehind : b = l
      · rw [if_neg hbefore, if_pos hbehind, if_pos (Or.inl hbehind), Nat.zero_add, Nat.add_zero]
      · rw [if_neg hbefore, if_neg hbehind, if_neg (by omega), Nat.zero_add]
  have hbefore : (∑ b ∈ Finset.range h.boundaries.length, if b + 1 = l then h.crossingsAt layers b else 0)
      = if 0 < l then h.crossingsAt layers (l - 1) else 0 := by
    cases l with
    | zero => exact Finset.sum_eq_zero fun b _ => if_neg (Nat.succ_ne_zero b)
    | succ l =>
        rw [if_pos (Nat.succ_pos l), Nat.add_sub_cancel, ← h.sum_crossingsAt_eq layers l]
        simp only [Nat.add_right_cancel_iff]
  rw [total_eq_sum, Finset.sum_congr rfl fun b _ => hsplit b, Finset.sum_add_distrib, Finset.sum_add_distrib,
    hbefore, sum_crossingsAt_eq]
  rfl

/-- A change of one layer changes no crossing elsewhere. -/
theorem elsewhere_modify (l : Nat) (f : List Slot → List Slot) :
    h.elsewhere (layers.modify l f) l = h.elsewhere layers l := by
  unfold elsewhere
  refine Finset.sum_congr rfl ?_
  intro b _
  by_cases htouch : b = l ∨ b + 1 = l
  · rw [if_pos htouch, if_pos htouch]
  · rw [not_or] at htouch
    rw [if_neg (not_or.mpr htouch), if_neg (not_or.mpr htouch)]
    unfold crossingsAt
    have hsame : ∀ b, b ≠ l → (layers.modify l f)[b]? = layers[b]? := by
      intro b hb
      rw [List.getElem?_modify]
      cases layers[b]? with
      | none => rfl
      | some layer => exact congrArg some (if_neg (Ne.symm hb))
    rw [hsame b htouch.1, hsame (b + 1) htouch.2]

theorem around_le_total (l : Nat) : h.around layers l ≤ h.total layers := by
  rw [h.total_eq layers l]
  exact Nat.le_add_right _ _

/-- What an exchange in one layer does to the total: the crossings around the layer are replaced. -/
theorem total_modify (l : Nat) (f : List Slot → List Slot) :
    h.total (layers.modify l f) = h.total layers - h.around layers l + h.around (layers.modify l f) l := by
  have hbefore := h.total_eq layers l
  have hbehind := h.total_eq (layers.modify l f) l
  rw [elsewhere_modify] at hbehind
  omega

end Boundaries

end Hops

/-! ## Random exchanges -/

namespace SearchState

variable {h : Hops} {movable : List Nat} {s : SearchState}

/-- A step draws from the stream, and may exchange two slots of a layer if that adds no crossing around it. -/
theorem step_cases (h : Hops) (movable : List Nat) (s : SearchState) :
    (∃ stream, s.step h movable = { s with stream }) ∨
      ∃ l i j stream, h.around (s.layers.modify l (swapItems · i j)) l ≤ h.around s.layers l
        ∧ s.step h movable = ⟨s.layers.modify l (swapItems · i j),
            s.total - h.around s.layers l + h.around (s.layers.modify l (swapItems · i j)) l, stream⟩ := by
  unfold step
  dsimp only
  split
  · exact Or.inl ⟨_, rfl⟩
  · split
    · exact Or.inl ⟨_, rfl⟩
    · rename_i hle
      exact Or.inr ⟨_, _, _, _, Nat.not_lt.mp hle, rfl⟩

/-- The number that is kept is that of the layers as they are. -/
def Exact (h : Hops) (s : SearchState) : Prop := s.total = h.total s.layers

theorem Exact.step (hs : s.Exact h) : (s.step h movable).Exact h ∧ (s.step h movable).total ≤ s.total := by
  rcases step_cases h movable s with ⟨stream, heq⟩ | ⟨l, i, j, stream, hle, heq⟩
  · rw [heq]
    exact ⟨hs, Nat.le_refl _⟩
  · have hbound := h.around_le_total s.layers l
    unfold Exact at hs
    rw [heq]
    refine ⟨?_, ?_⟩
    · unfold Exact
      dsimp only
      rw [h.total_modify, hs]
    · dsimp only
      omega

theorem Exact.run (hs : s.Exact h) (n : Nat) :
    (SearchState.run h movable n s).Exact h ∧ (SearchState.run h movable n s).total ≤ s.total := by
  induction n generalizing s with
  | zero => exact ⟨hs, Nat.le_refl _⟩
  | succ n ih =>
      obtain ⟨hstep, hle⟩ : (s.step h movable).Exact h ∧ (s.step h movable).total ≤ s.total := hs.step
      obtain ⟨hrun, hle'⟩ := ih hstep
      exact ⟨hrun, Nat.le_trans hle' hle⟩

/-- A search that starts with the count of its layers keeps it exact. -/
theorem run_exact (h : Hops) (movable : List Nat) (layers : List (List Slot)) (stream : Random.Stream) (n : Nat) :
    (run h movable n ⟨layers, h.total layers, stream⟩).Exact h
      ∧ (run h movable n ⟨layers, h.total layers, stream⟩).total ≤ h.total layers := by
  have hstart : Exact h ⟨layers, h.total layers, stream⟩ := rfl
  exact hstart.run n

theorem run_add (n k : Nat) (s : SearchState) :
    SearchState.run h movable (n + k) s = SearchState.run h movable k (SearchState.run h movable n s) := by
  induction n generalizing s with
  | zero => rw [Nat.zero_add, SearchState.run]
  | succ n ih =>
      rw [Nat.succ_add, SearchState.run, SearchState.run]
      exact ih _

/-- Going on with a search adds no crossing. -/
theorem Exact.run_mono (hs : s.Exact h) {n m : Nat} (hnm : n ≤ m) :
    (SearchState.run h movable m s).total ≤ (SearchState.run h movable n s).total := by
  obtain ⟨k, rfl⟩ := Nat.exists_eq_add_of_le hnm
  rw [run_add]
  exact ((hs.run n).1.run k).2

end SearchState

section Search

variable {h : Hops} {layers : List (List Slot)} {movable : List Nat}

theorem localSearch_exact (movable : List Nat) (config : ArrangeConfig) :
    h.total (localSearch h layers movable (h.total layers) config).1
        = (localSearch h layers movable (h.total layers) config).2
      ∧ (localSearch h layers movable (h.total layers) config).2 ≤ h.total layers := by
  unfold localSearch
  split
  · exact ⟨rfl, Nat.le_refl _⟩
  · obtain ⟨hexact, hle⟩ := SearchState.run_exact h movable layers (.ofSeed config.seed) config.iterations
    exact ⟨hexact.symm, hle⟩

theorem localSearch_mono (movable : List Nat) (config : ArrangeConfig) {n m : Nat} (hnm : n ≤ m) :
    (localSearch h layers movable (h.total layers) { config with iterations := m }).2
      ≤ (localSearch h layers movable (h.total layers) { config with iterations := n }).2 := by
  unfold localSearch
  split
  · exact Nat.le_refl _
  · exact SearchState.Exact.run_mono (s := ⟨layers, h.total layers, .ofSeed config.seed⟩) rfl hnm

/-! ## All orders -/

/-- Slots that are taken in their own order stay where they are. -/
theorem reorder_range (layers : List (List Slot)) (movable : List Nat) :
    reorder layers movable (movable.map fun l => List.range (layers.getD l []).length) = layers := by
  unfold reorder
  rw [← List.map_prod_left_eq_zip, List.foldl_map]
  refine List.foldlRecOn (motive := fun done => done = layers) _ _ rfl ?_
  rintro done rfl l -
  dsimp only
  rw [filterMap_range_getElem?]
  refine List.ext_getElem? ?_
  intro i
  rw [List.getElem?_set]
  split
  · rename_i hi
    subst hi
    split
    · rename_i hlt
      rw [List.getD_eq_getElem?_getD, List.getElem?_eq_getElem hlt, Option.getD_some]
    · rename_i hle
      exact (List.getElem?_eq_none (Nat.not_lt.mp hle)).symm
  · rfl

/-- The orders that are kept have the crossings that are kept with them, and no more than at first. -/
theorem searchOrders_exact {fuel : Nat} {perms best : List (List Nat)} {least : Nat}
    (hbest : h.total (reorder layers movable best) = least) :
    h.total (reorder layers movable (searchOrders h layers movable fuel perms best least).1)
        = (searchOrders h layers movable fuel perms best least).2
      ∧ (searchOrders h layers movable fuel perms best least).2 ≤ least := by
  induction fuel generalizing perms best least with
  | zero => exact ⟨hbest, Nat.le_refl _⟩
  | succ fuel ih =>
      unfold searchOrders
      dsimp only
      by_cases hless : h.total (reorder layers movable perms) < least
      · rw [if_pos hless]
        dsimp only
        split
        · rename_i perms' _
          obtain ⟨hexact, hle⟩ := @ih perms' perms _ rfl
          exact ⟨hexact, Nat.le_trans hle (Nat.le_of_lt hless)⟩
        · exact ⟨rfl, Nat.le_of_lt hless⟩
      · rw [if_neg hless]
        dsimp only
        split
        · exact ih hbest
        · exact ⟨hbest, Nat.le_refl _⟩

theorem exhaustiveSearch_exact (movable : List Nat) :
    h.total (exhaustiveSearch h layers movable (h.total layers)).1
        = (exhaustiveSearch h layers movable (h.total layers)).2
      ∧ (exhaustiveSearch h layers movable (h.total layers)).2 ≤ h.total layers := by
  unfold exhaustiveSearch
  exact searchOrders_exact (by rw [reorder_range])

end Search

/-! ## Routes stay within the layers -/

/-- The nodes of a layer in their order, and placeholders behind them. -/
def Padded (slots : List Slot) (layer : List NodeId) : Prop :=
  ∃ ks : List Nat, slots = layer.map Slot.node ++ ks.map Slot.placeholder

/-- The layers of a layering with placeholders behind them, and routes from one of the layers to another. -/
structure Routed (g : Graph) (l : Layering) (a : Arrangement) : Prop where
  nodeLayers : a.nodeLayers = l.nodeLayers
  slots : List.Forall₂ Padded a.layers l.layers
  /-- A route has a placeholder for each layer between the ends of its connection. -/
  routes : ∀ c r, a.routes.get? c = some r → ∃ ends low high, g.connection? c = some ends
    ∧ l.layerOf? ends.src.node = some low ∧ l.layerOf? ends.dst.node = some high ∧ low + 1 + r.via.length = high

theorem Routed.route {g : Graph} {l : Layering} {a : Arrangement} (ha : Routed g l a) {c : ConnectionId}
    {ends : Connection} (hc : g.connection? c = some ends) : Routed g l (a.route c ends) := by
  have hplaced : ∀ between : List (Nat × Nat), List.Forall₂ Padded
      (between.foldl (fun layers e => layers.modify e.2 (· ++ [.placeholder e.1])) a.layers) l.layers := by
    intro between
    refine List.foldlRecOn (motive := fun layers => List.Forall₂ Padded layers l.layers) between _ ha.slots ?_
    intro layers hlayers e _
    refine forall₂_modify hlayers ?_ e.2
    rintro slots layer ⟨ks, rfl⟩
    exact ⟨ks ++ [e.1], by rw [List.map_append, List.append_assoc]; rfl⟩
  unfold Arrangement.route
  split
  · rename_i low high hlow hhigh
    split
    · exact ha
    · rename_i hlong
      refine ⟨ha.nodeLayers, hplaced _, ?_⟩
      intro c' r hr
      dsimp only at hr
      rw [Table.get?_set] at hr
      split at hr
      · rename_i hsame
        injection hr with hr
        rw [ha.nodeLayers] at hlow hhigh
        refine ⟨ends, low, high, hsame ▸ hc, hlow, hhigh, ?_⟩
        rw [← hr, List.length_map, List.length_map, List.length_range]
        omega
      · exact ha.routes c' r hr
  · exact ha

theorem routed_ofLayering (g : Graph) (l : Layering) : Routed g l (.ofLayering g l) := by
  refine List.foldlRecOn g.connections.entries _ ?_ ?_
  · refine ⟨rfl, List.forall₂_map_left_iff.mpr (List.forall₂_same.mpr fun layer _ => ⟨[], ?_⟩), ?_⟩
    · exact (List.append_nil _).symm
    · intro c r hr
      exact absurd hr (by simp)
  · intro a ha e he
    exact ha.route (Table.mem_entries_iff.mp he)

/-- If every layer that is recorded exists, no route leads beyond the last one. -/
theorem fits_ofLayering (g : Graph) {l : Layering} (hl : ∀ n i, l.layerOf? n = some i → i < l.size)
    {e : ConnectionId × Connection} (he : e ∈ g.connections.entries) :
    (Arrangement.ofLayering g l).fits e.1 e.2 = true := by
  have hrouted := routed_ofLayering g l
  unfold Arrangement.fits
  split
  · rename_i start r hstart hr
    obtain ⟨ends, low, high, hends, hlow, hhigh, hvia⟩ := hrouted.routes e.1 r hr
    have hsame : g.connection? e.1 = some e.2 := Table.mem_entries_iff.mp he
    rw [hends] at hsame
    injection hsame with hsame
    rw [hrouted.nodeLayers, ← hsame] at hstart
    have heq : low = start := Option.some.inj (hlow.symm.trans hstart)
    have hlt := hl _ high hhigh
    unfold Layering.size at hlt
    rw [← hrouted.slots.length_eq] at hlt
    rw [Bool.or_eq_true, decide_eq_true_eq]
    exact Or.inr (by omega)
  · rfl

/-! ## The numbers of an arrangement -/

/-- The hops of a drawing do not depend on the order of its slots. -/
theorem Hops.of_layers (g : Graph) (a : Arrangement) {layers : List (List Slot)}
    (hlen : layers.length = a.layers.length) (initial crossings : Nat) :
    Hops.of g { a with layers, initialCrossings := initial, crossings } = Hops.of g a := by
  unfold Hops.of
  dsimp only
  rw [hlen]
  rfl

theorem countCrossings?_layers {g : Graph} {a : Arrangement} {layers : List (List Slot)}
    (hfits : ∀ e ∈ g.connections.entries, a.fits e.1 e.2 = true) (hlen : layers.length = a.layers.length)
    (initial crossings : Nat) :
    Arrangement.countCrossings? { a with layers, initialCrossings := initial, crossings } g
      = some ((Hops.of g a).total layers) := by
  have hall : g.connections.entries.all (fun e =>
      Arrangement.fits { a with layers, initialCrossings := initial, crossings } e.1 e.2) = true := by
    rw [List.all_eq_true]
    intro e he
    have hfit := hfits e he
    unfold Arrangement.fits at hfit ⊢
    dsimp only
    rwa [hlen]
  unfold Arrangement.countCrossings?
  rw [if_pos hall, Hops.of_layers g a hlen]

/-- The numbers that come with an arrangement are those of its slots, and of the slots it was made from. -/
structure Arrangement.Counted (g : Graph) (start a : Arrangement) : Prop where
  final : a.countCrossings? g = some a.crossings
  initial : start.countCrossings? g = some a.initialCrossings
  le : a.crossings ≤ a.initialCrossings

theorem counted_arrangeLayers (g : Graph) {l : Layering} (hl : ∀ n i, l.layerOf? n = some i → i < l.size)
    (config : ArrangeConfig) : Arrangement.Counted g (.ofLayering g l) (arrangeLayers g l config) := by
  have hfits : ∀ e ∈ g.connections.entries, (Arrangement.ofLayering g l).fits e.1 e.2 = true :=
    fun e he => fits_ofLayering g hl he
  have hlen := (arrangeLayers_perm g l config).length_eq
  have hexact : (Hops.of g (.ofLayering g l)).total (arrangeLayers g l config).layers
        = (arrangeLayers g l config).crossings
      ∧ (arrangeLayers g l config).crossings ≤ (arrangeLayers g l config).initialCrossings := by
    unfold arrangeLayers
    dsimp only
    split
    · exact exhaustiveSearch_exact _
    · exact localSearch_exact _ config
  refine ⟨?_, ?_, hexact.2⟩
  · rw [← hexact.1]
    exact countCrossings?_layers hfits hlen _ _
  · exact countCrossings?_layers hfits rfl _ _

theorem crossings_arrangeLayers_mono (g : Graph) (l : Layering) (config : ArrangeConfig) {n m : Nat} (hnm : n ≤ m) :
    (arrangeLayers g l { config with iterations := m }).crossings
      ≤ (arrangeLayers g l { config with iterations := n }).crossings := by
  unfold arrangeLayers
  dsimp only
  split
  · exact Nat.le_refl _
  · exact localSearch_mono _ config hnm

/--
**The crossings are counted right.** An arrangement starts from the layers of its layering with placeholders
behind them. Whatever the graph and the layering, as long as the layers that it records exist, the numbers of
crossings that come with the arrangement are those of its slots and of the slots it started from, and the first
is not the greater one. All through a random search the number that is kept is the number of crossings, from
which those around a layer can be taken. More exchanges with one seed never leave more crossings. The number of
crossings is that of the pairs of hops that cross at some boundary.
-/
theorem crossings_counted (g : Graph) (l : Layering) (hl : ∀ n i, l.layerOf? n = some i → i < l.size) :
    let start := Arrangement.ofLayering g l
    let h := Hops.of g start
    List.Forall₂ Padded start.layers l.layers
      ∧ (∀ config, Arrangement.Counted g start (arrangeLayers g l config))
      ∧ (∀ movable stream n,
          let s := SearchState.run h movable n ⟨start.layers, h.total start.layers, stream⟩
          s.total = h.total s.layers ∧ ∀ i, h.around s.layers i ≤ s.total)
      ∧ (∀ (config : ArrangeConfig) (n m : Nat), n ≤ m → (arrangeLayers g l { config with iterations := m }).crossings
          ≤ (arrangeLayers g l { config with iterations := n }).crossings)
      ∧ ∀ layers, h.total layers
        = ∑ b ∈ Finset.range h.boundaries.length, (Hops.crossingPairs (h.spansAt layers b)).card := by
  refine ⟨(routed_ofLayering g l).slots, counted_arrangeLayers g hl, ?_, ?_, Hops.total_eq_sum_card _⟩
  · intro movable stream n
    have hexact := (SearchState.run_exact (Hops.of g (.ofLayering g l)) movable
      (Arrangement.ofLayering g l).layers stream n).1
    refine ⟨hexact, ?_⟩
    intro i
    rw [hexact]
    exact Hops.around_le_total _ _ i
  · intro config n m hnm
    exact crossings_arrangeLayers_mono g l config hnm

/-- A layering of some lists of nodes records for each of them a layer that holds it. -/
theorem Layering.exists_layer_ofLayers {layers : List (List NodeId)} {n : NodeId} {i : Nat}
    (h : (ofLayers layers).layerOf? n = some i) : ∃ layer, layers[i]? = some layer ∧ n ∈ layer := by
  rcases Table.mem_of_get?_setAll h with h | h
  · exact absurd h (by simp)
  · obtain ⟨⟨layer, j⟩, hlayer, hin⟩ := List.mem_flatMap.mp h
    obtain ⟨m, hm, heq⟩ := List.mem_map.mp hin
    injection heq with hn hi
    subst hn hi
    exact ⟨layer, List.mem_zipIdx_iff_getElem?.mp hlayer, hm⟩

/-- One connection leads back, the other one past an empty layer and one with a strange node, twice. -/
theorem tangled_counted :
    let g : Graph := {
      name := "tangled"
      arena := .ofList [(⟨0⟩, .terminal .input "x"), (⟨1⟩, .terminal .input "w"), (⟨2⟩, .terminal .output "y"),
        (⟨3⟩, .terminal .output "z")]
      connections := .ofList [(⟨0⟩, ⟨⟨⟨0⟩, 0⟩, ⟨⟨2⟩, 0⟩⟩), (⟨1⟩, ⟨⟨⟨1⟩, 0⟩, ⟨⟨3⟩, 0⟩⟩)] }
    let l := Layering.ofLayers [[⟨0⟩, ⟨3⟩], [⟨9⟩, ⟨9⟩], [], [⟨2⟩, ⟨1⟩]]
    (arrangeLayers g l {}).countCrossings? g = some (arrangeLayers g l {}).crossings := by
  refine ((crossings_counted _ _ ?_).2.1 {}).final
  intro n i hn
  obtain ⟨layer, hlayer, -⟩ := Layering.exists_layer_ofLayers hn
  exact (List.getElem?_eq_some_iff.mp hlayer).1

end SignalGraph
