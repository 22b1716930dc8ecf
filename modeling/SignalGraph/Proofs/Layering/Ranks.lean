import SignalGraph.Layering.Order
import SignalGraph.Proofs.Graph.WellFormed

/-!
# Every node gets a rank

Ranks are propagated against the connections, deeper whenever a longer way is found. While that goes on, the
nodes from the sink to the present one are unfinished: their sources need not be ranked yet. All other ranked
nodes have sources that lie deeper (`Closed`). When nothing is unfinished, whatever feeds a ranked node is
ranked, and in an acyclic graph every node comes to a sink in the end.

The fuel suffices because the unfinished nodes are distinct.
-/

namespace SignalGraph

namespace Ranks

variable {g : Graph}

/-- A node has a rank, and it is this one or a lower one. -/
def AtMost (r : Ranks) (n : NodeId) (rank : Int) : Prop := ∃ found, r.rank.get? n = some found ∧ found ≤ rank

/-- Ranks fall, and none is lost. -/
def Lower (r r' : Ranks) : Prop := ∀ n rank, r.AtMost n rank → r'.AtMost n rank

theorem Lower.refl (r : Ranks) : Lower r r := fun _ _ h => h

theorem Lower.trans {r r' r'' : Ranks} (h : Lower r r') (h' : Lower r' r'') : Lower r r'' :=
  fun n rank hn => h' n rank (h n rank hn)

/-- The sources of a ranked node lie before it, unless the node is unfinished. -/
def Closed (g : Graph) (r : Ranks) (unfinished : List NodeId) : Prop :=
  ∀ n rank p, n ∉ unfinished → r.rank.get? n = some rank → g.Feeds p n → r.AtMost p (rank - 1)

/-- The unfinished nodes are distinct nodes of the graph behind the present one. -/
structure Behind (g : Graph) (unfinished : List NodeId) (n : NodeId) : Prop where
  /-- No node is unfinished twice. -/
  nodup : unfinished.Nodup
  /-- They are in the graph. -/
  present : unfinished ⊆ g.arena.keys
  /-- Signals of the present node reach them. -/
  reached : ∀ s ∈ unfinished, Relation.TransGen g.Feeds n s

/-- What giving a rank to a node does. -/
structure Lowers (g : Graph) (r : Ranks) (unfinished : List NodeId) (n : NodeId) (rank : Int) (r' : Ranks) :
    Prop where
  /-- Ranks fall. -/
  lower : Lower r r'
  /-- What is not unfinished is finished. -/
  closed : Closed g r' unfinished
  /-- The node has the rank. -/
  given : r'.AtMost n rank
  /-- What does not precede the node keeps its rank. -/
  others : ∀ m, ¬ Relation.ReflTransGen g.Feeds m n → r'.rank.get? m = r.rank.get? m

theorem Behind.not_mem {unfinished : List NodeId} {n : NodeId} (h : Behind g unfinished n)
    (hacyclic : g.Acyclic) : n ∉ unfinished := fun hn => hacyclic n (h.reached n hn)

/-- On the way from a node to its source the node becomes unfinished. -/
theorem Behind.cons {unfinished : List NodeId} {n p : NodeId} (h : Behind g unfinished n)
    (hacyclic : g.Acyclic) (hn : n ∈ g.arena.keys) (hp : g.Feeds p n) : Behind g (n :: unfinished) p where
  nodup := List.nodup_cons.mpr ⟨h.not_mem hacyclic, h.nodup⟩
  present := List.cons_subset.mpr ⟨hn, h.present⟩
  reached := by
    intro s hs
    rcases List.mem_cons.mp hs with rfl | hs
    · exact .single hp
    · exact .head hp (h.reached s hs)

/-- As long as nodes are left to rank, not all nodes are unfinished. -/
theorem Behind.length_lt {unfinished : List NodeId} {n : NodeId} (h : Behind g unfinished n)
    (hacyclic : g.Acyclic) (hn : n ∈ g.arena.keys) : unfinished.length < g.arena.size := by
  have hnodup : (n :: unfinished).Nodup := List.nodup_cons.mpr ⟨h.not_mem hacyclic, h.nodup⟩
  have hlen := (List.subperm_of_subset hnodup (List.cons_subset.mpr ⟨hn, h.present⟩)).length_le
  rw [Table.keys_length, List.length_cons] at hlen
  omega

/-! ## One node -/

section Propagate

variable {r : Ranks} {n : NodeId} {rank : Int} {unfinished : List NodeId}

/-- A deeper rank for a node, whose sources are still to come. -/
theorem Closed.set (hclosed : Closed g r unfinished)
    (hnew : (r.rank.get? n).any (· ≤ rank) = false) :
    Closed g { r with rank := r.rank.set n rank } (n :: unfinished)
      ∧ Lower r { r with rank := r.rank.set n rank } := by
  have hlower : Lower r { r with rank := r.rank.set n rank } := by
    rintro m bound ⟨found, hfound, hle⟩
    by_cases hm : m = n
    · refine ⟨rank, by dsimp only; rw [hm, Table.get?_set_self], ?_⟩
      rw [← hm, hfound, Option.any_some, decide_eq_false_iff_not] at hnew
      omega
    · exact ⟨found, by dsimp only; rw [Table.get?_set_of_ne _ _ hm]; exact hfound, hle⟩
  refine ⟨?_, hlower⟩
  intro m found p hm hfound hp
  rw [List.mem_cons, not_or] at hm
  dsimp only at hfound
  rw [Table.get?_set_of_ne _ _ hm.1] at hfound
  exact hlower p _ (hclosed m found p hm.2 hfound hp)

/-- Ranking the sources of a node one after the other ranks them all. -/
theorem lowers_foldl {f : Ranks → NodeId → Ranks} {ps : List NodeId}
    (hf : ∀ p ∈ ps, ∀ r, Closed g r unfinished → Lowers g r unfinished p rank (f r p))
    (hclosed : Closed g r unfinished) :
    Lower r (ps.foldl f r) ∧ Closed g (ps.foldl f r) unfinished
      ∧ (∀ p ∈ ps, (ps.foldl f r).AtMost p rank)
      ∧ ∀ m, (∀ p ∈ ps, ¬ Relation.ReflTransGen g.Feeds m p) →
        (ps.foldl f r).rank.get? m = r.rank.get? m := by
  induction ps generalizing r with
  | nil => exact ⟨.refl r, hclosed, by simp, fun _ _ => rfl⟩
  | cons p ps ih =>
      have hp := hf p List.mem_cons_self r hclosed
      obtain ⟨hlower, hclosed', hgiven, hothers⟩ :=
        ih (fun q hq => hf q (List.mem_cons_of_mem _ hq)) hp.closed
      refine ⟨hp.lower.trans hlower, hclosed', ?_, ?_⟩
      · intro q hq
        rcases List.mem_cons.mp hq with rfl | hq
        · exact hlower _ _ hp.given
        · exact hgiven q hq
      · intro m hm
        exact (hothers m fun q hq => hm q (List.mem_cons_of_mem _ hq)).trans
          (hp.others m (hm p List.mem_cons_self))

/-- Giving a node a rank leaves its sources before it, and theirs before them, in whatever order they are taken. -/
theorem lowers_propagate (hreg : g.Registered) (hacyclic : g.Acyclic) {sources : NodeId → List NodeId}
    (hmem : ∀ p n, p ∈ sources n ↔ g.Feeds p n) {fuel : Nat} (hn : n ∈ g.arena.keys)
    (hbehind : Behind g unfinished n) (hfuel : g.arena.size ≤ unfinished.length + fuel)
    (hclosed : Closed g r unfinished) :
    Lowers g r unfinished n rank (r.propagate sources fuel n rank) := by
  induction fuel generalizing r n rank unfinished with
  | zero =>
      have hlt := hbehind.length_lt hacyclic hn
      omega
  | succ fuel ih =>
      unfold propagate
      split
      · rename_i hlow
        obtain ⟨found, hfound, hle⟩ := (Option.any_eq_true _ _).mp hlow
        exact ⟨.refl r, hclosed, ⟨found, hfound, of_decide_eq_true hle⟩, fun _ _ => rfl⟩
      · rename_i hnew
        obtain ⟨hclosed₁, hlower₁⟩ := hclosed.set (Bool.eq_false_iff.mpr hnew)
        have hsources : ∀ p ∈ sources n, ∀ r', Closed g r' (n :: unfinished) →
            Lowers g r' (n :: unfinished) p (rank - 1) (r'.propagate sources fuel p (rank - 1)) := by
          intro p hp r' hclosed'
          have hfeeds := (hmem p n).mp hp
          obtain ⟨node, hnode⟩ := hreg.feeds_src_present hfeeds
          refine ih (Table.mem_keys_iff.mpr ⟨node, hnode⟩) (hbehind.cons hacyclic hn hfeeds) ?_ hclosed'
          rw [List.length_cons]
          omega
        obtain ⟨hlower, hclosed₂, hgiven, hothers⟩ := lowers_foldl hsources hclosed₁
        -- no source of the node comes after it, so its rank is the one just set
        have hsame := hothers n (by
          intro p hp hreach
          exact hacyclic n (.tail' hreach ((hmem p n).mp hp)))
        dsimp only at hsame
        rw [Table.get?_set_self] at hsame
        refine ⟨hlower₁.trans hlower, ?_, ⟨rank, hsame, Int.le_refl rank⟩, ?_⟩
        · intro m found p hm hfound hp
          by_cases hmn : m = n
          · subst hmn
            dsimp only at hfound
            rw [hsame] at hfound
            injection hfound with hfound
            rw [← hfound]
            exact hgiven p ((hmem p m).mpr hp)
          · refine hclosed₂ m found p ?_ hfound hp
            rw [List.mem_cons, not_or]
            exact ⟨hmn, hm⟩
        · intro m hm
          refine (hothers m ?_).trans ?_
          · intro p hp hreach
            exact hm (hreach.tail ((hmem p n).mp hp))
          · refine Table.get?_set_of_ne _ _ ?_
            rintro rfl
            exact hm .refl

end Propagate

end Ranks

namespace Graph

open Ranks

/-! ## All nodes -/

theorem WellFormed.isSink_of_forall {g : Graph} (h : g.WellFormed) {n : NodeId} {node : Node}
    (hn : g.node? n = some node) (hno : ∀ m, ¬ g.Feeds n m) : g.isSink n = true := by
  unfold isSink
  rw [hn, Option.any_some, List.all_eq_true]
  intro p hp
  obtain ⟨i, hi⟩ := List.mem_iff_getElem?.mp hp
  have hport : g.outgoing? ⟨n, i⟩ = some p.connections := by
    rw [outgoing?_of_node? hn]
    unfold Node.outgoing
    rw [List.getElem?_map, hi]
    rfl
  have hempty : p.connections = [] := by
    rw [List.eq_nil_iff_forall_not_mem]
    intro c hc
    obtain ⟨ends, hends, hsrc⟩ := (h.mem_outgoing _ _ c hport).mp hc
    exact hno ends.dst.node ⟨c, ends, hends, by rw [hsrc], rfl⟩
  unfold Port.isConnected
  rw [hempty]
  rfl

/-- The sinks, and the sources of each node, in whatever order. -/
structure Enumerates (g : Graph) (sinks : List NodeId) (sources : NodeId → List NodeId) : Prop where
  mem_sinks : ∀ n, n ∈ sinks ↔ n ∈ g.sinks
  mem_sources : ∀ p n, p ∈ sources n ↔ g.Feeds p n

theorem Registered.enumerates {g : Graph} (h : g.Registered) : g.Enumerates g.sinks g.predecessors where
  mem_sinks := fun _ => Iff.rfl
  mem_sources := fun _ _ => h.mem_predecessors

/-- The ranks that are found when sinks and sources are taken in these orders. -/
def ranksBy (g : Graph) (sinks : List NodeId) (sources : NodeId → List NodeId) : Ranks :=
  sinks.foldl (fun r n => r.propagate sources g.arena.size n 0) {}

section Orders

variable {g : Graph} {sinks : List NodeId} {sources : NodeId → List NodeId}

/-- Each sink is ranked with all that precedes it. -/
theorem WellFormed.lowers_sinks (h : g.WellFormed) (he : g.Enumerates sinks sources) :
    ∀ n ∈ sinks, ∀ r, Closed g r [] → Lowers g r [] n 0 (r.propagate sources g.arena.size n 0) := by
  intro n hn r hclosed
  obtain ⟨node, hnode⟩ := h.mem_allNodes.mp (List.mem_filter.mp ((he.mem_sinks n).mp hn)).1
  refine lowers_propagate h.toRegistered h.acyclic he.mem_sources (Table.mem_keys_iff.mpr ⟨node, hnode⟩)
    ⟨List.nodup_nil, List.nil_subset _, by simp⟩ ?_ hclosed
  omega

theorem closed_empty (g : Graph) : Closed g {} [] := by
  intro n rank p _ hrank
  exact absurd hrank (by simp)

/-- Whatever is propagated from the sinks, nothing is left unfinished. -/
theorem WellFormed.ranksBy_closed (h : g.WellFormed) (he : g.Enumerates sinks sources) :
    Closed g (g.ranksBy sinks sources) [] ∧ ∀ n ∈ sinks, (g.ranksBy sinks sources).AtMost n 0 := by
  obtain ⟨-, hclosed, hgiven, -⟩ := lowers_foldl (h.lowers_sinks he) (closed_empty g)
  exact ⟨hclosed, hgiven⟩

/-- Every node has a rank. -/
theorem WellFormed.ranksBy_total (h : g.WellFormed) (he : g.Enumerates sinks sources) {n : NodeId} {node : Node}
    (hn : g.node? n = some node) : n ∈ (g.ranksBy sinks sources).rank.keys := by
  obtain ⟨hclosed, hsinks⟩ := h.ranksBy_closed he
  induction n using h.acyclic.wellFounded_swap.induction generalizing node with
  | _ n ih =>
      by_cases hno : ∀ m, ¬ g.Feeds n m
      · have hsink : n ∈ g.sinks :=
          List.mem_filter.mpr ⟨h.mem_allNodes.mpr ⟨node, hn⟩, h.isSink_of_forall hn hno⟩
        obtain ⟨rank, hrank, -⟩ := hsinks n ((he.mem_sinks n).mpr hsink)
        exact Table.mem_keys_iff.mpr ⟨rank, hrank⟩
      · -- what the node feeds is ranked, and so is what feeds that
        obtain ⟨m, hm⟩ := not_forall_not.mp hno
        obtain ⟨found, hfound⟩ := h.feeds_dst_present hm
        obtain ⟨rank, hrank⟩ := Table.mem_keys_iff.mp (ih m hm hfound)
        obtain ⟨rank', hrank', -⟩ := hclosed m rank n (by simp) hrank hm
        exact Table.mem_keys_iff.mpr ⟨rank', hrank'⟩

end Orders

/-- Setting ranks one after the other loses none. -/
theorem mem_keys_foldl_set {f : Table NodeId Int → NodeId → Int} {ns : List NodeId} {t : Table NodeId Int}
    {n : NodeId} (h : n ∈ t.keys) : n ∈ (ns.foldl (fun t m => t.set m (f t m)) t).keys := by
  induction ns generalizing t with
  | nil => exact h
  | cons m ns ih => exact ih (Table.mem_keys_set.mpr (Or.inr h))

/-- Moving sinks and terminals to their places loses no rank. -/
theorem WellFormed.finalRanks_total {g : Graph} (h : g.WellFormed) {n : NodeId} {node : Node}
    (hn : g.node? n = some node) : n ∈ g.finalRanks.keys := by
  have htrail : n ∈ (g.trailSinks g.ranks).keys := mem_keys_foldl_set (h.ranksBy_total h.enumerates hn)
  have hpin : ∀ d rank fresh (t : Table NodeId Int), n ∈ t.keys → n ∈ (g.pinTerminals d rank fresh t).keys :=
    fun d rank fresh t ht => mem_keys_foldl_set ht
  unfold finalRanks
  dsimp only
  split
  · split
    · exact htrail
    · exact hpin _ _ _ _ htrail
  · split
    · exact hpin _ _ _ _ htrail
    · exact hpin _ _ _ _ (hpin _ _ _ _ htrail)

end Graph

end SignalGraph
