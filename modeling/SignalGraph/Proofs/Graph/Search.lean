import SignalGraph.Proofs.Graph.WellFormed

/-!
# The search that keeps signals from running in circles

`connect` refuses a connection if a search back from its source meets its destination. Here the search is
shown to decide reachability (`isOrPrecedes_iff`).

That it answers yes only with reason is an induction on its run. That it never misses a path is the harder
half: when it ends without an answer, the nodes it expanded are closed under predecessors, and a path into a
closed set starts inside it.
-/

namespace SignalGraph

namespace Graph

/-- Signals of `a` reach `b`, over any number of connections. -/
def Reaches (g : Graph) : NodeId → NodeId → Prop := Relation.ReflTransGen g.Feeds

/-! ## A search that succeeds has met a path -/

theorem feedsAny_sound {g : Graph} (h : g.Registered) {target : NodeId} {unvisited stack : List NodeId}
    (hf : g.feedsAny target unvisited stack = true) : ∃ n ∈ stack, g.Reaches target n := by
  induction unvisited, stack using feedsAny.induct g target with
  | case1 unvisited =>
      unfold feedsAny at hf
      exact absurd hf (by simp)
  | case2 unvisited stack => exact ⟨target, List.mem_cons_self, Relation.ReflTransGen.refl⟩
  | case3 unvisited n stack hne hmem ih =>
      unfold feedsAny at hf
      rw [if_neg hne, if_pos hmem] at hf
      obtain ⟨p, hp, hpath⟩ := ih hf
      rcases List.mem_append.mp hp with hpred | hrest
      · exact ⟨n, List.mem_cons_self, hpath.tail (h.mem_predecessors.mp hpred)⟩
      · exact ⟨p, List.mem_cons_of_mem _ hrest, hpath⟩
  | case4 unvisited n stack hne hmem ih =>
      unfold feedsAny at hf
      rw [if_neg hne, if_neg hmem] at hf
      obtain ⟨p, hp, hpath⟩ := ih hf
      exact ⟨p, List.mem_cons_of_mem _ hp, hpath⟩

/-! ## A search that fails has closed a set -/

/-- What the search knows between two steps, where `done` holds of the nodes it is through with. -/
structure Searching (g : Graph) (target : NodeId) (unvisited stack : List NodeId) (done : NodeId → Prop) :
    Prop where
  /-- The target was not met. -/
  target_not_done : ¬ done target
  /-- The predecessors of a node that is done are done or on the stack. -/
  closed : ∀ n, done n → ∀ p ∈ g.predecessors n, done p ∨ p ∈ stack
  /-- A node that was taken off the list of unvisited ones is done, or has nothing to expand. -/
  covered : ∀ n, n ∉ unvisited → done n ∨ g.predecessors n = []

theorem Searching.expand {g : Graph} {target n : NodeId} {unvisited stack : List NodeId}
    {done : NodeId → Prop} (h : g.Searching target unvisited (n :: stack) done) (hne : n ≠ target) :
    g.Searching target (unvisited.erase n) (g.predecessors n ++ stack) (fun m => m = n ∨ done m) := by
  refine ⟨?_, ?_, ?_⟩
  · rintro (heq | hdone)
    · exact hne heq.symm
    · exact h.target_not_done hdone
  · rintro m (rfl | hdone) p hp
    · exact Or.inr (List.mem_append_left _ hp)
    · rcases h.closed m hdone p hp with hd | hs
      · exact Or.inl (Or.inr hd)
      · rcases List.mem_cons.mp hs with rfl | hs
        · exact Or.inl (Or.inl rfl)
        · exact Or.inr (List.mem_append_right _ hs)
  · intro m hm
    by_cases heq : m = n
    · exact Or.inl (Or.inl heq)
    · have hun : m ∉ unvisited := fun hmem => hm ((List.mem_erase_of_ne heq).mpr hmem)
      rcases h.covered m hun with hd | hnil
      · exact Or.inl (Or.inr hd)
      · exact Or.inr hnil

theorem Searching.skip {g : Graph} {target n : NodeId} {unvisited stack : List NodeId}
    {done : NodeId → Prop} (h : g.Searching target unvisited (n :: stack) done) (hne : n ≠ target)
    (hun : n ∉ unvisited) : g.Searching target unvisited stack (fun m => m = n ∨ done m) := by
  refine ⟨?_, ?_, ?_⟩
  · rintro (heq | hdone)
    · exact hne heq.symm
    · exact h.target_not_done hdone
  · intro m hm p hp
    -- either way the predecessors of `m` are done or on the old stack
    have hold : done p ∨ p ∈ n :: stack := by
      rcases hm with rfl | hdone
      · rcases h.covered m hun with hd | hnil
        · exact h.closed m hd p hp
        · rw [hnil] at hp
          exact absurd hp (by simp)
      · exact h.closed m hdone p hp
    rcases hold with hd | hs
    · exact Or.inl (Or.inr hd)
    · rcases List.mem_cons.mp hs with rfl | hs
      · exact Or.inl (Or.inl rfl)
      · exact Or.inr hs
  · intro m hm
    rcases h.covered m hm with hd | hnil
    · exact Or.inl (Or.inr hd)
    · exact Or.inr hnil

theorem feedsAny_complete {g : Graph} {target : NodeId} {unvisited stack : List NodeId}
    {done : NodeId → Prop} (h : g.Searching target unvisited stack done)
    (hf : g.feedsAny target unvisited stack = false) :
    ∃ closed : NodeId → Prop, ¬ closed target ∧ (∀ n, closed n → ∀ p ∈ g.predecessors n, closed p)
      ∧ (∀ n ∈ stack, closed n) ∧ ∀ n, done n → closed n := by
  induction unvisited, stack using feedsAny.induct g target generalizing done with
  | case1 unvisited =>
      -- with an empty stack, what was expanded is closed under predecessors
      refine ⟨done, h.target_not_done, ?_, by simp, fun n hn => hn⟩
      intro n hn p hp
      rcases h.closed n hn p hp with hd | hs
      · exact hd
      · exact absurd hs (by simp)
  | case2 unvisited stack =>
      unfold feedsAny at hf
      rw [if_pos rfl] at hf
      exact absurd hf (by simp)
  | case3 unvisited n stack hne hmem ih =>
      unfold feedsAny at hf
      rw [if_neg hne, if_pos hmem] at hf
      obtain ⟨closed, htarget, hpred, hstack, hdone⟩ := ih (h.expand hne) hf
      refine ⟨closed, htarget, hpred, ?_, fun m hm => hdone m (Or.inr hm)⟩
      intro m hm
      rcases List.mem_cons.mp hm with rfl | hm
      · exact hdone m (Or.inl rfl)
      · exact hstack m (List.mem_append_right _ hm)
  | case4 unvisited n stack hne hmem ih =>
      unfold feedsAny at hf
      rw [if_neg hne, if_neg hmem] at hf
      obtain ⟨closed, htarget, hpred, hstack, hdone⟩ := ih (h.skip hne hmem) hf
      refine ⟨closed, htarget, hpred, ?_, fun m hm => hdone m (Or.inr hm)⟩
      intro m hm
      rcases List.mem_cons.mp hm with rfl | hm
      · exact hdone m (Or.inl rfl)
      · exact hstack m hm

/-! ## The search decides reachability -/

theorem isOrPrecedes_iff {g : Graph} (h : g.Registered) {a b : NodeId} :
    g.isOrPrecedes a b = true ↔ g.Reaches a b := by
  constructor
  · intro hf
    obtain ⟨n, hn, hpath⟩ := feedsAny_sound h hf
    rw [List.mem_singleton.mp hn] at hpath
    exact hpath
  · intro hpath
    rw [← Bool.not_eq_false]
    intro hf
    have hstart : g.Searching a g.arena.keys [b] (fun _ => False) := by
      refine ⟨fun hn => hn, fun n hn => hn.elim, ?_⟩
      intro n hn
      have hnone : g.node? n = none := Table.get?_eq_none_iff.mpr hn
      refine Or.inr ?_
      unfold predecessors
      rw [hnone]
    obtain ⟨closed, htarget, hpred, hstack, -⟩ := feedsAny_complete hstart hf
    -- walk the path back from `b`; the closed set is never left
    have hback : ∀ n, Relation.ReflTransGen g.Feeds n b → closed n := by
      intro n hn
      induction hn using Relation.ReflTransGen.head_induction_on with
      | refl => exact hstack b List.mem_cons_self
      | head hstep _ ih => exact hpred _ ih _ (h.mem_predecessors.mpr hstep)
    exact htarget (hback a hpath)

end Graph

end SignalGraph
