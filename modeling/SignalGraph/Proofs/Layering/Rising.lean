import SignalGraph.Proofs.Layering.Ranks

/-!
# Ranks rise along connections

Ranks count from the sinks backwards, so none lies above zero, and `first` lies below them all once every rank
is noted (`Between`). Sinks then move to just behind their inputs. A table of ranks stays in order when one
node moves, as long as the node stays behind what feeds it and before what it feeds (`Ranked.set`).
-/

namespace SignalGraph

namespace Ranks

/--
No rank lies above zero, and none below the lowest one noted. A rank is given before the sources of its node
have theirs and noted after that; `pending` is such a rank.
-/
structure Between (pending : Int) (r : Ranks) : Prop where
  low : ∀ n rank, r.rank.get? n = some rank → min r.first pending ≤ rank
  high : ∀ n rank, r.rank.get? n = some rank → rank ≤ 0
  first_le : r.first ≤ 0

theorem Between.set {pending : Int} {r : Ranks} (h : Between pending r) (n : NodeId) {rank : Int}
    (hrank : rank ≤ 0) : Between (min pending rank) { r with rank := r.rank.set n rank } where
  low := by
    intro m found hm
    dsimp only at hm ⊢
    rw [Table.get?_set] at hm
    split at hm
    · injection hm with hm
      omega
    · have hlow := h.low m found hm
      omega
  high := by
    intro m found hm
    dsimp only at hm
    rw [Table.get?_set] at hm
    split at hm
    · injection hm with hm
      omega
    · exact h.high m found hm
  first_le := h.first_le

theorem Between.propagate {predecessors : NodeId → List NodeId} {fuel : Nat} {pending rank : Int} {r : Ranks}
    {n : NodeId} (h : Between pending r) (hrank : rank ≤ 0) :
    Between pending (r.propagate predecessors fuel n rank) := by
  induction fuel generalizing pending rank r n with
  | zero => exact h
  | succ fuel ih =>
      unfold Ranks.propagate
      split
      · exact h
      · have hprior : rank - 1 ≤ 0 := by omega
        have hsources := List.foldlRecOn (predecessors n) (fun r p => r.propagate predecessors fuel p (rank - 1))
          (h.set n hrank) (fun _ hr _ _ => ih hr hprior)
        refine ⟨?_, hsources.high, ?_⟩
        · intro m found hm
          have hlow := hsources.low m found hm
          dsimp only
          omega
        · have hfirst := hsources.first_le
          dsimp only
          omega

end Ranks

namespace Graph

/-- Every node has a rank between two bounds, and ranks rise along connections. -/
structure Ranked (g : Graph) (first last : Int) (t : Table NodeId Int) : Prop where
  /-- What has a rank is a node of the graph, and every node has one. -/
  mem_keys : ∀ n, n ∈ t.keys ↔ ∃ node, g.node? n = some node
  /-- What a node feeds lies behind it. -/
  rising : ∀ a b rank rank', g.Feeds a b → t.get? a = some rank → t.get? b = some rank' → rank < rank'
  first_le : ∀ n rank, t.get? n = some rank → first ≤ rank
  le_last : ∀ n rank, t.get? n = some rank → rank ≤ last

namespace Ranked

variable {g : Graph} {first last : Int} {t : Table NodeId Int} {n : NodeId} {rank : Int}

theorem mono {first' last' : Int} (h : g.Ranked first last t) (hfirst : first' ≤ first) (hlast : last ≤ last') :
    g.Ranked first' last' t where
  mem_keys := h.mem_keys
  rising := h.rising
  first_le := fun n rank hn => Int.le_trans hfirst (h.first_le n rank hn)
  le_last := fun n rank hn => Int.le_trans (h.le_last n rank hn) hlast

/-- A node may move as long as it stays behind what feeds it and before what it feeds. -/
theorem set (h : g.Ranked first last t) (hacyclic : g.Acyclic) (hn : n ∈ t.keys)
    (hbehind : ∀ p found, g.Feeds p n → t.get? p = some found → found < rank)
    (hbefore : ∀ m found, g.Feeds n m → t.get? m = some found → rank < found)
    (hfirst : first ≤ rank) (hlast : rank ≤ last) : g.Ranked first last (t.set n rank) := by
  refine ⟨?_, ?_, ?_, ?_⟩
  · intro m
    rw [Table.keys_set_of_mem hn]
    exact h.mem_keys m
  · intro a b ra rb hfeeds ha hb
    have hne : a ≠ b := by
      rintro rfl
      exact hacyclic a (.single hfeeds)
    rw [Table.get?_set] at ha hb
    split at ha
    · rename_i han
      subst han
      injection ha with ha
      rw [if_neg (Ne.symm hne)] at hb
      rw [← ha]
      exact hbefore b rb hfeeds hb
    · split at hb
      · rename_i hbn
        subst hbn
        injection hb with hb
        rw [← hb]
        exact hbehind a ra hfeeds ha
      · exact h.rising a b ra rb hfeeds ha hb
  · intro m found hm
    rw [Table.get?_set] at hm
    split at hm
    · injection hm with hm
      omega
    · exact h.first_le m found hm
  · intro m found hm
    rw [Table.get?_set] at hm
    split at hm
    · injection hm with hm
      omega
    · exact h.le_last m found hm

/-- A node that nothing feeds may move to the front. -/
theorem setFirst (h : g.Ranked first last t) (hacyclic : g.Acyclic) (hn : n ∈ t.keys)
    (hsource : ∀ p, ¬ g.Feeds p n) : g.Ranked first last (t.set n first) := by
  obtain ⟨old, hold⟩ := Table.mem_keys_iff.mp hn
  have hlow := h.first_le n old hold
  have hhigh := h.le_last n old hold
  refine h.set hacyclic hn ?_ ?_ (Int.le_refl _) (by omega)
  · intro p found hp
    exact absurd hp (hsource p)
  · intro m found hm hfound
    have hrise := h.rising n m old found hm hold hfound
    omega

/-- A node that feeds nothing may move to the back. -/
theorem setLast (h : g.Ranked first last t) (hacyclic : g.Acyclic) (hn : n ∈ t.keys)
    (hsink : ∀ m, ¬ g.Feeds n m) : g.Ranked first last (t.set n last) := by
  obtain ⟨old, hold⟩ := Table.mem_keys_iff.mp hn
  have hlow := h.first_le n old hold
  have hhigh := h.le_last n old hold
  refine h.set hacyclic hn ?_ ?_ (by omega) (Int.le_refl _)
  · intro p found hp hfound
    have hrise := h.rising p n found old hp hfound hold
    omega
  · intro m found hm
    exact absurd hm (hsink m)

end Ranked

/-! ## The ranks of the nodes -/

theorem Registered.not_feeds_of_isSink {g : Graph} (h : g.Registered) {n : NodeId} (hsink : g.isSink n = true)
    (m : NodeId) : ¬ g.Feeds n m := by
  rintro ⟨c, ends, hends, rfl, -⟩
  obtain ⟨cs, hcs, hmem⟩ := h.outgoing_of_src hends
  obtain ⟨node, hnode, hport⟩ := node?_of_outgoing? hcs
  unfold Node.outgoing at hport
  rw [List.getElem?_map, Option.map_eq_some_iff] at hport
  obtain ⟨p, hp, rfl⟩ := hport
  unfold isSink at hsink
  rw [hnode, Option.any_some, List.all_eq_true] at hsink
  have hfree := hsink p (List.mem_of_getElem? hp)
  unfold Port.isConnected at hfree
  rw [Bool.not_not, List.isEmpty_iff] at hfree
  rw [hfree] at hmem
  exact absurd hmem (by simp)

section Orders

variable {g : Graph} {sinks : List NodeId} {sources : NodeId → List NodeId}

theorem ranksBy_between (g : Graph) (sinks : List NodeId) (sources : NodeId → List NodeId) :
    (g.ranksBy sinks sources).Between 0 := by
  refine List.foldlRecOn sinks _ ?_ ?_
  · exact ⟨fun n rank hn => absurd hn (by simp), fun n rank hn => absurd hn (by simp), Int.le_refl 0⟩
  · intro r hr n _
    exact hr.propagate (Int.le_refl 0)

/-- Nothing but nodes of the graph is ranked. -/
theorem WellFormed.present_of_ranksBy (h : g.WellFormed) (he : g.Enumerates sinks sources) {n : NodeId}
    (hn : n ∈ (g.ranksBy sinks sources).rank.keys) : ∃ node, g.node? n = some node := by
  by_contra hnone
  have hothers := (Ranks.lowers_foldl (h.lowers_sinks he) (closed_empty g)).2.2.2 n (by
    intro s hs hreach
    -- what reaches a sink is the sink or feeds a node, and is present either way
    rcases Relation.ReflTransGen.cases_head hreach with rfl | ⟨m, hfeeds, -⟩
    · exact hnone (h.mem_allNodes.mp (List.mem_filter.mp ((he.mem_sinks _).mp hs)).1)
    · exact hnone (h.feeds_src_present hfeeds))
  obtain ⟨rank, hrank⟩ := Table.mem_keys_iff.mp hn
  have hrank' := hothers.symm.trans hrank
  exact absurd hrank' (by simp)

theorem WellFormed.ranksBy_ranked (h : g.WellFormed) (he : g.Enumerates sinks sources) :
    g.Ranked (g.ranksBy sinks sources).first 0 (g.ranksBy sinks sources).rank where
  mem_keys := fun _ => ⟨h.present_of_ranksBy he, fun ⟨_, hnode⟩ => h.ranksBy_total he hnode⟩
  rising := by
    intro a b rank rank' hfeeds ha hb
    obtain ⟨found, hfound, hle⟩ := (h.ranksBy_closed he).1 b rank' a (by simp) hb hfeeds
    rw [ha] at hfound
    injection hfound with hfound
    omega
  first_le := by
    intro n rank hn
    have hlow := (g.ranksBy_between sinks sources).low n rank hn
    have hfirst := (g.ranksBy_between sinks sources).first_le
    omega
  le_last := (g.ranksBy_between sinks sources).high

end Orders

theorem WellFormed.ranks_ranked {g : Graph} (h : g.WellFormed) : g.Ranked g.ranks.first 0 g.ranks.rank :=
  h.ranksBy_ranked h.enumerates

theorem ranks_first_le (g : Graph) : g.ranks.first ≤ 0 := (g.ranksBy_between g.sinks g.predecessors).first_le

/-! ## Sinks move behind their inputs -/

theorem Registered.ranked_trail {g : Graph} (h : g.Registered) (hacyclic : g.Acyclic) {first : Int}
    {t : Table NodeId Int} {n : NodeId} (ht : g.Ranked first 0 t) (hfirst : first ≤ 0) (hn : n ∈ t.keys)
    (hsink : g.isSink n = true) : g.Ranked first 0 (t.set n (g.trailingRank first t n)) := by
  obtain ⟨old, hold⟩ := Table.mem_keys_iff.mp hn
  have hmem : ∀ found, found ∈ (g.predecessors n).filterMap t.get? ↔ ∃ p, g.Feeds p n ∧ t.get? p = some found := by
    intro found
    rw [List.mem_filterMap]
    exact exists_congr fun p => and_congr_left fun _ => h.mem_predecessors
  have hnone := h.not_feeds_of_isSink hsink
  unfold trailingRank
  dsimp only
  cases hmax : ((g.predecessors n).filterMap t.get?).max? with
  | none =>
      have hempty := List.max?_eq_none_iff.mp hmax
      rw [Option.getD_none, if_pos (by omega), Int.tdiv_eq_ediv_of_nonneg (by omega)]
      refine ht.set hacyclic hn ?_ (fun m _ hm => absurd hm (hnone m)) (by omega) (by omega)
      intro p found hp hfound
      have hin := (hmem found).mpr ⟨p, hp, hfound⟩
      rw [hempty] at hin
      exact absurd hin (by simp)
  | some last =>
      obtain ⟨hin, hge⟩ := List.max?_eq_some_iff.mp hmax
      obtain ⟨p, hp, hlast⟩ := (hmem last).mp hin
      have hlow := ht.first_le p last hlast
      have hrise := ht.rising p n last old hp hlast hold
      have hhigh := ht.le_last n old hold
      rw [Option.getD_some, if_neg (by omega)]
      refine ht.set hacyclic hn ?_ (fun m _ hm => absurd hm (hnone m)) (by omega) (by omega)
      intro q found hq hfound
      have hle := hge found ((hmem found).mpr ⟨q, hq, hfound⟩)
      omega

theorem WellFormed.trailSinks_ranked {g : Graph} (h : g.WellFormed) :
    g.Ranked g.ranks.first 0 (g.trailSinks g.ranks) := by
  refine List.foldlRecOn g.sinks _ h.ranks_ranked ?_
  intro t ht n hn
  obtain ⟨hlisted, hsink⟩ := List.mem_filter.mp hn
  exact h.toRegistered.ranked_trail h.acyclic ht g.ranks_first_le
    ((ht.mem_keys n).mpr (h.mem_allNodes.mp hlisted)) hsink

end Graph

end SignalGraph
