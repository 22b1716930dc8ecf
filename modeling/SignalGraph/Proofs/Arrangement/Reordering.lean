import SignalGraph.Arrangement.Search
import SignalGraph.Proofs.Layering.Layers
import SignalGraph.Proofs.Sequence

/-!
# Arranging moves nodes within their layers

Routing adds placeholders, and the search for few crossings exchanges slots of one layer. Whatever the
settings, each layer of an arrangement holds the nodes of the same layer of the layering.
-/

namespace SignalGraph

/-! ## Permutations -/

theorem replace_perm {l : List Nat} {a b : Nat} (hb : b ∈ l) : (b :: l.replace b a).Perm (a :: l) := by
  induction l with
  | nil => exact absurd hb (by simp)
  | cons c l ih =>
      rw [List.replace_cons]
      by_cases hc : c = b
      · rw [hc, beq_self_eq_true]
        exact List.Perm.swap a b l
      · rw [beq_eq_false_iff_ne.mpr (Ne.symm hc)]
        have hmem : b ∈ l := by
          rcases List.mem_cons.mp hb with rfl | hmem
          · exact absurd rfl hc
          · exact hmem
        calc (b :: c :: l.replace b a).Perm (c :: b :: l.replace b a) := List.Perm.swap c b _
          _ |>.Perm (c :: a :: l) := (ih hmem).cons c
          _ |>.Perm (a :: c :: l) := List.Perm.swap a c l

/-- The next permutation has the same numbers. -/
theorem nextPermutation?_perm {l l' : List Nat} (h : nextPermutation? l = some l') : l'.Perm l := by
  induction l generalizing l' with
  | nil => exact absurd h (by simp [nextPermutation?])
  | cons a l ih =>
      unfold nextPermutation? at h
      split at h
      · rename_i rest hrest
        injection h with h
        rw [← h]
        exact (ih hrest).cons a
      · obtain ⟨b, hb, rfl⟩ := Option.map_eq_some_iff.mp h
        exact (replace_perm (List.mem_of_find?_eq_some hb)).trans ((List.reverse_perm l).cons a)

theorem advancePermutation_perm (l : List Nat) : (advancePermutation l).2.Perm l := by
  unfold advancePermutation
  split
  · rename_i hnext
    exact nextPermutation?_perm hnext
  · exact List.reverse_perm l

theorem advanceAll?_perm {ps ps' : List (List Nat)} (h : advanceAll? ps = some ps') :
    List.Forall₂ List.Perm ps' ps := by
  induction ps generalizing ps' with
  | nil => exact absurd h (by simp [advanceAll?])
  | cons p ps ih =>
      have hp := advancePermutation_perm p
      unfold advanceAll? at h
      split at h
      · rename_i q hq
        injection h with h
        rw [hq] at hp
        rw [← h]
        exact .cons hp (List.forall₂_same.mpr fun p _ => .refl p)
      · rename_i q hq
        rw [hq] at hp
        obtain ⟨qs, hqs, rfl⟩ := Option.map_eq_some_iff.mp h
        exact .cons hp (ih hqs)

/-! ## Random exchanges -/

theorem swapItems_perm {α : Type} (as : List α) (i j : Nat) : (swapItems as i j).Perm as := by
  unfold swapItems
  split
  · rename_i a b ha hb
    obtain ⟨hi, rfl⟩ := List.getElem?_eq_some_iff.mp ha
    obtain ⟨hj, rfl⟩ := List.getElem?_eq_some_iff.mp hb
    exact List.set_set_perm hi hj
  · exact .refl as

section Search

variable {h : Hops} {layers : List (List Slot)} {movable : List Nat}

theorem SearchState.step_perm {s : SearchState} (hs : List.Forall₂ List.Perm s.layers layers) :
    List.Forall₂ List.Perm (s.step h movable).layers layers := by
  unfold step
  dsimp only
  split
  · exact hs
  · split
    · exact hs
    · exact forall₂_modify hs (fun _ _ hxy => (swapItems_perm _ _ _).trans hxy) _

theorem SearchState.run_perm {s : SearchState} (hs : List.Forall₂ List.Perm s.layers layers) (n : Nat) :
    List.Forall₂ List.Perm (SearchState.run h movable n s).layers layers := by
  induction n generalizing s with
  | zero => exact hs
  | succ n ih => exact ih (step_perm hs)

/-- Random exchanges keep the slots of each layer. -/
theorem localSearch_perm (initial : Nat) (config : ArrangeConfig) :
    List.Forall₂ List.Perm (localSearch h layers movable initial config).1 layers := by
  have hrefl : List.Forall₂ List.Perm layers layers := List.forall₂_same.mpr fun layer _ => .refl layer
  unfold localSearch
  split
  · exact hrefl
  · exact SearchState.run_perm hrefl config.iterations

/-! ## All orders -/

/-- Each of some permutations is one of the places of its layer. -/
def PlacesOf (layers : List (List Slot)) (movable : List Nat) (perms : List (List Nat)) : Prop :=
  List.Forall₂ (fun l perm => perm.Perm (List.range (layers.getD l []).length)) movable perms

theorem PlacesOf.perm {perms perms' : List (List Nat)} (hp : PlacesOf layers movable perms)
    (hperm : List.Forall₂ List.Perm perms' perms) : PlacesOf layers movable perms' := by
  unfold PlacesOf at hp ⊢
  induction hp generalizing perms' with
  | nil =>
      rw [List.forall₂_nil_right_iff.mp hperm]
      exact .nil
  | cons hl _ ih =>
      obtain ⟨q, qs, hq, hqs, rfl⟩ := List.forall₂_cons_right_iff.mp hperm
      exact .cons (hq.trans hl) (ih hqs)

theorem filterMap_range_getElem? {α : Type} (as : List α) :
    (List.range as.length).filterMap (fun i => as[i]?) = as := by
  induction as with
  | nil => rfl
  | cons a as ih =>
      rw [List.length_cons, List.range_succ_eq_map, List.filterMap_cons, List.filterMap_map]
      exact congrArg (a :: ·) ih

/-- Taking the slots of each layer by a permutation of their places keeps the slots of each layer. -/
theorem reorder_perm {perms : List (List Nat)} (hp : PlacesOf layers movable perms) :
    List.Forall₂ List.Perm (reorder layers movable perms) layers := by
  have hsteps : ∀ (es : List (Nat × List Nat)) (done : List (List Slot)),
      (∀ e ∈ es, e.2.Perm (List.range (layers.getD e.1 []).length)) → List.Forall₂ List.Perm done layers →
      List.Forall₂ List.Perm (es.foldl (fun done e =>
        done.set e.1 (e.2.filterMap fun i => (layers.getD e.1 [])[i]?)) done) layers := by
    intro es
    induction es with
    | nil =>
        intro done _ hdone
        exact hdone
    | cons e es ih =>
        intro done hes hdone
        refine ih _ (fun e' he' => hes e' (List.mem_cons_of_mem _ he')) (forall₂_set hdone ?_)
        intro layer hlayer
        have hplaces := (hes e List.mem_cons_self).filterMap fun i => (layers.getD e.1 [])[i]?
        have hget : layers.getD e.1 [] = layer := by rw [List.getD_eq_getElem?_getD, hlayer, Option.getD_some]
        rw [filterMap_range_getElem?, hget] at hplaces
        rw [hget]
        exact hplaces
  obtain ⟨-, hzip⟩ := List.forall₂_iff_zip.mp hp
  exact hsteps (movable.zip perms) layers (fun e he => hzip he)
    (List.forall₂_same.mpr fun layer _ => .refl layer)

theorem PlacesOf.searchOrders {fuel : Nat} {perms best : List (List Nat)} (hp : PlacesOf layers movable perms)
    (hbest : PlacesOf layers movable best) (least : Nat) :
    PlacesOf layers movable (SignalGraph.searchOrders h layers movable fuel perms best least).1 := by
  induction fuel generalizing perms best least with
  | zero => exact hbest
  | succ fuel ih =>
      unfold SignalGraph.searchOrders
      dsimp only
      split
      · rename_i perms' hnext
        have hp' := hp.perm (advanceAll?_perm hnext)
        split
        · exact ih hp' hp _
        · exact ih hp' hbest _
      · split
        · exact hp
        · exact hbest

/-- Trying all orders keeps the slots of each layer. -/
theorem exhaustiveSearch_perm (initial : Nat) :
    List.Forall₂ List.Perm (exhaustiveSearch h layers movable initial).1 layers := by
  have hstart : PlacesOf layers movable (movable.map fun l => List.range (layers.getD l []).length) :=
    List.forall₂_map_right_iff.mpr (List.forall₂_same.mpr fun l _ => .refl _)
  exact reorder_perm (hstart.searchOrders hstart initial)

end Search

/-! ## Arranging -/

namespace Arrangement

/-- The nodes of each layer, without the placeholders. -/
def nodeLists (a : Arrangement) : List (List NodeId) := a.layers.map (·.filterMap Slot.node?)

theorem nodes_eq (a : Arrangement) : a.nodes = a.nodeLists.flatten := by
  unfold nodes nodeLists
  rw [List.filterMap_flatten]

/-- Routing a connection adds no node and moves none. -/
theorem nodeLists_route (a : Arrangement) (c : ConnectionId) (ends : Connection) :
    (a.route c ends).nodeLists = a.nodeLists := by
  have hmodify : ∀ (between : List (Nat × Nat)) (layers : List (List Slot)),
      (between.foldl (fun layers e => layers.modify e.2 (· ++ [.placeholder e.1])) layers).map
        (·.filterMap Slot.node?) = layers.map (·.filterMap Slot.node?) := by
    intro between
    induction between with
    | nil =>
        intro layers
        rfl
    | cons e between ih =>
        intro layers
        refine (ih _).trans (map_modify_of_absorb _ _ ?_ layers e.2)
        intro layer
        rw [List.filterMap_append]
        exact List.append_nil _
  unfold route nodeLists
  split
  · split
    · rfl
    · exact hmodify _ _
  · rfl

theorem nodeLists_ofLayering (g : Graph) (l : Layering) : (ofLayering g l).nodeLists = l.layers := by
  have hroutes : ∀ (es : List (ConnectionId × Connection)) (a : Arrangement),
      (es.foldl (fun a e => a.route e.1 e.2) a).nodeLists = a.nodeLists := by
    intro es
    induction es with
    | nil =>
        intro a
        rfl
    | cons e es ih =>
        intro a
        exact (ih _).trans (nodeLists_route a e.1 e.2)
  refine (hroutes _ _).trans ?_
  unfold nodeLists
  rw [List.map_map]
  refine (List.map_congr_left ?_).trans (List.map_id l.layers)
  intro layer _
  dsimp only [Function.comp_apply]
  rw [List.filterMap_map]
  exact List.filterMap_some

end Arrangement

theorem arrangeLayers_perm (g : Graph) (l : Layering) (config : ArrangeConfig) :
    List.Forall₂ List.Perm (arrangeLayers g l config).layers (Arrangement.ofLayering g l).layers := by
  unfold arrangeLayers
  dsimp only
  split
  · exact exhaustiveSearch_perm _
  · exact localSearch_perm _ config

namespace Graph

/-- Whatever the settings, a layer of the arrangement holds the nodes of that layer of the layering. -/
theorem arrange_nodeLists (g : Graph) (config : ArrangeConfig) :
    List.Forall₂ List.Perm (g.arrange config).nodeLists g.assignLayers.layers := by
  have hslots := arrangeLayers_perm g g.assignLayers config
  rw [← Arrangement.nodeLists_ofLayering g g.assignLayers]
  refine List.forall₂_map_left_iff.mpr (List.forall₂_map_right_iff.mpr (hslots.imp ?_))
  intro slots slots' h
  exact h.filterMap _

/-- An arrangement lists every node of the graph once. -/
theorem WellFormed.arrange_nodes {g : Graph} (h : g.WellFormed) (config : ArrangeConfig) :
    (g.arrange config).nodes.Perm g.allNodes := by
  rw [Arrangement.nodes_eq]
  exact (List.Perm.flatten_congr (g.arrange_nodeLists config)).trans h.assignLayers_perm

end Graph

end SignalGraph
