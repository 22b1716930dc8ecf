import Mathlib.Order.Bounds.Basic
import SignalGraph.Proofs.Layering.Renumbering

/-!
# Ranks are depths

The depth of a node is the number of connections on a longest way down from it (`Descends`). No way meets a node twice,
so none is longer than the number of nodes, and the depth can be computed (`depth_greatest`).

Propagation gives a node no rank but for a way down that it has come up (`Ranks.Follows`), and at the end ranks rise
along connections up to zero, so no way down is longer than a rank allows. Both together make the rank of a node its
negated depth, and the lowest rank the negated height of the graph.
-/

namespace SignalGraph

namespace Graph

/-- A way of so many connections leads down from a node. -/
inductive Descends (g : Graph) : NodeId → Nat → Prop where
  | stay (n : NodeId) : Descends g n 0
  | step {n m : NodeId} {k : Nat} (hfeeds : g.Feeds n m) (h : Descends g m k) : Descends g n (k + 1)

/-- The number of connections on a longest way down from a node, as long as `fuel` allows. -/
def depthWithin (g : Graph) : (fuel : Nat) → NodeId → Nat
  | 0, _ => 0
  | fuel + 1, n => ((g.successors n).map fun m => g.depthWithin fuel m + 1).max?.getD 0

/-- The number of connections on a longest way down from a node. -/
def depth (g : Graph) (n : NodeId) : Nat := g.depthWithin g.arena.size n

/-- The greatest depth of a node. -/
def height (g : Graph) : Nat := (g.allNodes.map g.depth).max?.getD 0

variable {g : Graph} {n : NodeId} {k : Nat}

/-! ## The longest way -/

/-- The greatest of some numbers is one of them, unless there are none. -/
theorem isGreatest_max? {ks : List Nat} (hne : ks ≠ []) : IsGreatest {k | k ∈ ks} (ks.max?.getD 0) := by
  obtain ⟨top, htop⟩ := Option.ne_none_iff_exists'.mp (mt List.max?_eq_none_iff.mp hne)
  obtain ⟨hmem, hle⟩ := List.max?_eq_some_iff.mp htop
  rw [htop]
  exact ⟨hmem, fun k hk => hle k hk⟩

/-- The depth is the length of some way, however little fuel there is. -/
theorem Registered.descends_depthWithin (h : g.Registered) (fuel : Nat) (n : NodeId) :
    g.Descends n (g.depthWithin fuel n) := by
  induction fuel generalizing n with
  | zero => exact .stay n
  | succ fuel ih =>
      unfold depthWithin
      by_cases hnil : (g.successors n).map (fun m => g.depthWithin fuel m + 1) = []
      · rw [hnil]
        exact .stay n
      · obtain ⟨m, hm, heq⟩ := List.mem_map.mp (isGreatest_max? hnil).1
        rw [← heq]
        exact .step (h.mem_successors.mp hm) (ih m)

/-- A way is no longer than the depth if the fuel lasts for it. -/
theorem Descends.le_depthWithin (h : g.Registered) (hdown : g.Descends n k) {fuel : Nat} (hfuel : k ≤ fuel) :
    k ≤ g.depthWithin fuel n := by
  induction hdown generalizing fuel with
  | stay n => exact Nat.zero_le _
  | @step n m k hfeeds _ ih =>
      cases fuel with
      | zero => exact absurd hfuel (Nat.not_succ_le_zero k)
      | succ fuel =>
          unfold depthWithin
          have hmem : g.depthWithin fuel m + 1 ∈ (g.successors n).map fun m => g.depthWithin fuel m + 1 :=
            List.mem_map_of_mem (h.mem_successors.mpr hfeeds)
          have htop := (isGreatest_max? (List.ne_nil_of_mem hmem)).2 hmem
          have hrest := ih (Nat.le_of_succ_le_succ hfuel)
          omega

/-- The nodes that a way meets behind its start are distinct. -/
theorem Descends.behind (h : g.WellFormed) (hdown : g.Descends n k) :
    ∃ met, met.length = k ∧ Ranks.Behind g met n := by
  induction hdown with
  | stay n => exact ⟨[], rfl, List.nodup_nil, List.nil_subset _, by simp⟩
  | @step n m k hfeeds _ ih =>
      obtain ⟨met, rfl, hbehind⟩ := ih
      obtain ⟨node, hnode⟩ := h.feeds_dst_present hfeeds
      exact ⟨m :: met, rfl, hbehind.cons h.acyclic (Table.mem_keys_iff.mpr ⟨node, hnode⟩) hfeeds⟩

theorem Descends.lt_size (h : g.WellFormed) (hn : n ∈ g.allNodes) (hdown : g.Descends n k) : k < g.arena.size := by
  obtain ⟨met, rfl, hbehind⟩ := hdown.behind h
  exact hbehind.length_lt h.acyclic (Table.mem_keys_iff.mpr (h.mem_allNodes.mp hn))

theorem WellFormed.depth_greatest (h : g.WellFormed) (hn : n ∈ g.allNodes) :
    IsGreatest {k | g.Descends n k} (g.depth n) :=
  ⟨h.descends_depthWithin _ n, fun _ hk => hk.le_depthWithin h.toRegistered (Nat.le_of_lt (hk.lt_size h hn))⟩

theorem height_greatest (hne : g.allNodes ≠ []) : IsGreatest {k | ∃ n ∈ g.allNodes, g.depth n = k} g.height := by
  have htop := isGreatest_max? (mt List.map_eq_nil_iff.mp hne : g.allNodes.map g.depth ≠ [])
  obtain ⟨hmem, hle⟩ := htop
  exact ⟨List.mem_map.mp hmem, fun k hk => hle (List.mem_map.mpr hk)⟩

theorem depth_le_height (hn : n ∈ g.allNodes) : g.depth n ≤ g.height :=
  (height_greatest (List.ne_nil_of_mem hn)).2 ⟨n, hn, rfl⟩

/-- Down a connection a longer way becomes shorter. -/
theorem WellFormed.depth_lt_of_feeds (h : g.WellFormed) {m : NodeId} (hfeeds : g.Feeds n m) :
    g.depth m < g.depth n := by
  have hn := h.mem_allNodes.mpr (h.feeds_src_present hfeeds)
  exact (h.depth_greatest hn).2 (Descends.step hfeeds (h.descends_depthWithin _ m))

end Graph

/-! ## Ranks -/

namespace Ranks

variable {g : Graph}

/-- Ranks have been given for ways down only. -/
structure Follows (g : Graph) (r : Ranks) : Prop where
  rank : ∀ n rank, r.rank.get? n = some rank → ∃ k : Nat, g.Descends n k ∧ rank = -(k : Int)
  first : ∃ n ∈ g.allNodes, ∃ k : Nat, g.Descends n k ∧ r.first = -(k : Int)

/-- A way up to a source of a node makes a longer way down from there. -/
theorem Follows.propagate (h : g.WellFormed) {sources : NodeId → List NodeId}
    (hmem : ∀ p n, p ∈ sources n ↔ g.Feeds p n) {fuel k : Nat} {n : NodeId} {r : Ranks} (hr : r.Follows g)
    (hn : n ∈ g.allNodes) (hdown : g.Descends n k) : (r.propagate sources fuel n (-(k : Int))).Follows g := by
  induction fuel generalizing k n r with
  | zero => exact hr
  | succ fuel ih =>
      unfold Ranks.propagate
      split
      · exact hr
      · have hset : Follows g { r with rank := r.rank.set n (-(k : Int)) } := by
          refine ⟨?_, hr.first⟩
          intro m found hm
          dsimp only at hm
          rw [Table.get?_set] at hm
          split at hm
          · rename_i heq
            injection hm with hm
            exact ⟨k, heq ▸ hdown, hm.symm⟩
          · exact hr.rank m found hm
        have hsources := List.foldlRecOn (sources n)
          (fun r p => r.propagate sources fuel p (-(k : Int) - 1)) hset (by
            intro r hr p hp
            have hfeeds := (hmem p n).mp hp
            have hnext : -(k : Int) - 1 = -((k + 1 : Nat) : Int) := by omega
            rw [hnext]
            exact ih hr (h.mem_allNodes.mpr (h.feeds_src_present hfeeds)) (.step hfeeds hdown))
        refine ⟨hsources.rank, ?_⟩
        dsimp only
        rcases Int.le_total _ (-(k : Int)) with hle | hle
        · rw [Int.min_eq_left hle]
          exact hsources.first
        · rw [Int.min_eq_right hle]
          exact ⟨n, hn, k, hdown, rfl⟩

end Ranks

namespace Graph

variable {g : Graph} {n : NodeId}

section Orders

variable {sinks : List NodeId} {sources : NodeId → List NodeId}

theorem WellFormed.ranksBy_follow (h : g.WellFormed) (he : g.Enumerates sinks sources) (hne : g.allNodes ≠ []) :
    (g.ranksBy sinks sources).Follows g := by
  refine List.foldlRecOn sinks _ ?_ ?_
  · obtain ⟨n, hn⟩ := List.exists_mem_of_ne_nil _ hne
    exact ⟨fun m rank hm => absurd hm (by simp), n, hn, 0, .stay n, rfl⟩
  · intro r hr n hn
    exact hr.propagate h he.mem_sources (g.sinks_subset ((he.mem_sinks n).mp hn)) (.stay n)

/-- Where ranks rise up to zero, a way down is no longer than the rank of its start allows. -/
theorem Ranked.le_neg_of_descends {first : Int} {t : Table NodeId Int} (h : g.WellFormed) (ht : g.Ranked first 0 t)
    {k : Nat} (hdown : g.Descends n k) {rank : Int} (hrank : t.get? n = some rank) : rank ≤ -(k : Int) := by
  induction hdown generalizing rank with
  | stay n => exact ht.le_last n rank hrank
  | @step n m k hfeeds _ ih =>
      obtain ⟨found, hfound⟩ := Table.mem_keys_iff.mp ((ht.mem_keys m).mpr (h.feeds_dst_present hfeeds))
      have hrise := ht.rising n m rank found hfeeds hrank hfound
      have hrest := ih hfound
      omega

/-- The rank of a node is its negated depth. -/
theorem WellFormed.ranksBy_rank_eq (h : g.WellFormed) (he : g.Enumerates sinks sources) (hn : n ∈ g.allNodes) :
    (g.ranksBy sinks sources).rank.get? n = some (-(g.depth n : Int)) := by
  have hranked := h.ranksBy_ranked he
  obtain ⟨rank, hrank⟩ := Table.mem_keys_iff.mp ((hranked.mem_keys n).mpr (h.mem_allNodes.mp hn))
  obtain ⟨k, hdown, rfl⟩ := (h.ranksBy_follow he (List.ne_nil_of_mem hn)).rank n rank hrank
  have hle := hranked.le_neg_of_descends h (h.depth_greatest hn).1 hrank
  have hge := (h.depth_greatest hn).2 hdown
  have heq : k = g.depth n := by omega
  rw [hrank, heq]

theorem WellFormed.ranksBy_first_eq (h : g.WellFormed) (he : g.Enumerates sinks sources) (hne : g.allNodes ≠ []) :
    (g.ranksBy sinks sources).first = -(g.height : Int) := by
  obtain ⟨m, hm, k, hdown, hfirst⟩ := (h.ranksBy_follow he hne).first
  obtain ⟨n, hn, hheight⟩ := (height_greatest hne).1
  have hlow := (h.ranksBy_ranked he).first_le n _ (h.ranksBy_rank_eq he hn)
  have hdepth := (h.depth_greatest hm).2 hdown
  have hle := depth_le_height hm
  omega

end Orders

theorem WellFormed.rank_eq (h : g.WellFormed) (hn : n ∈ g.allNodes) :
    g.ranks.rank.get? n = some (-(g.depth n : Int)) := h.ranksBy_rank_eq h.enumerates hn

theorem WellFormed.first_eq (h : g.WellFormed) (hne : g.allNodes ≠ []) : g.ranks.first = -(g.height : Int) :=
  h.ranksBy_first_eq h.enumerates hne

end Graph

end SignalGraph
