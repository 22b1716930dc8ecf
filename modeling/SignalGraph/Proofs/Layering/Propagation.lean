import SignalGraph.Proofs.Layering.Depth
import SignalGraph.Proofs.Record.Accepted

/-!
# Propagation comes to an end

Propagation goes on from a node to its sources whenever it brings a deeper rank, however often the node was ranked
before. `Propagates` describes this without a bound on how far it goes, with all calls that are made on the way. It
ends because calls nest along ways up, and no way meets a node twice: as many nested calls as there are nodes are enough
(`propagates_foldl`). A call brings the negated length of a way down from its node (`Propagates.called`), and so is
between zero and the negated number of other nodes.

What is found in the end are the negated depths, which have nothing to do with the order of sinks and sources.
-/

namespace SignalGraph

namespace Ranks

/--
Ranks are propagated from some nodes, one after the other, with the given rank for each of them. Besides the ranks
before and behind there is a list of all calls, in the order in which they are made: which node is to have which rank.
-/
inductive Propagates (sources : NodeId → List NodeId) :
    List NodeId → Int → Ranks → List (NodeId × Int) → Ranks → Prop where
  | done (rank : Int) (r : Ranks) : Propagates sources [] rank r [] r
  | keep {n : NodeId} {ns : List NodeId} {rank : Int} {r r' : Ranks} {calls : List (NodeId × Int)}
      (hlow : (r.rank.get? n).any (· ≤ rank) = true) (hrest : Propagates sources ns rank r calls r') :
      Propagates sources (n :: ns) rank r ((n, rank) :: calls) r'
  | give {n : NodeId} {ns : List NodeId} {rank : Int} {r r' r'' : Ranks} {calls calls' : List (NodeId × Int)}
      (hnew : (r.rank.get? n).any (· ≤ rank) = false)
      (hsources : Propagates sources (sources n) (rank - 1) { r with rank := r.rank.set n rank } calls r')
      (hrest : Propagates sources ns rank { r' with first := min r'.first rank } calls' r'') :
      Propagates sources (n :: ns) rank r ((n, rank) :: calls ++ calls') r''

variable {sources : NodeId → List NodeId} {ns : List NodeId} {rank : Int} {r r' : Ranks}
  {calls : List (NodeId × Int)}

/-- There is one way only for propagation to go. -/
theorem Propagates.unique {r'' : Ranks} {calls' : List (NodeId × Int)} (h : Propagates sources ns rank r calls r')
    (h' : Propagates sources ns rank r calls' r'') : calls' = calls ∧ r'' = r' := by
  induction h generalizing calls' r'' with
  | done rank r =>
      cases h'
      exact ⟨rfl, rfl⟩
  | keep hlow _ ih =>
      cases h' with
      | keep _ hrest =>
          obtain ⟨rfl, rfl⟩ := ih hrest
          exact ⟨rfl, rfl⟩
      | give hnew _ _ => exact absurd (hlow.symm.trans hnew) Bool.noConfusion
  | give hnew _ _ ih ih' =>
      cases h' with
      | keep hlow _ => exact absurd (hlow.symm.trans hnew) Bool.noConfusion
      | give _ hsources hrest =>
          obtain ⟨rfl, rfl⟩ := ih hsources
          obtain ⟨rfl, rfl⟩ := ih' hrest
          exact ⟨rfl, rfl⟩

/-! ## Nested calls -/

theorem propagate_of_low {fuel : Nat} {n : NodeId} (hlow : (r.rank.get? n).any (· ≤ rank) = true) :
    r.propagate sources (fuel + 1) n rank = r := by
  unfold propagate
  rw [if_pos hlow]

/-- A node with a new rank is finished when its sources are, one after the other, and then the rank is noted. -/
theorem propagate_of_new {fuel : Nat} {n : NodeId} (hnew : (r.rank.get? n).any (· ≤ rank) = false) :
    r.propagate sources (fuel + 1) n rank =
      let found := (sources n).foldl (fun r p => r.propagate sources fuel p (rank - 1))
        { r with rank := r.rank.set n rank }
      { found with first := min found.first rank } := by
  rw [propagate, if_neg (by rw [hnew]; exact Bool.false_ne_true)]

variable {g : Graph}

/-- Nested calls for as many nodes as are not unfinished are enough for propagation to end. -/
theorem propagates_foldl (hreg : g.Registered) (hacyclic : g.Acyclic) (hmem : ∀ p n, p ∈ sources n ↔ g.Feeds p n)
    {fuel : Nat} {unfinished : List NodeId} (hns : ∀ n ∈ ns, n ∈ g.arena.keys ∧ Behind g unfinished n)
    (hfuel : g.arena.size ≤ unfinished.length + fuel) (rank : Int) (r : Ranks) :
    ∃ calls, Propagates sources ns rank r calls (ns.foldl (fun r n => r.propagate sources fuel n rank) r) := by
  induction fuel generalizing unfinished ns rank r with
  | zero =>
      cases ns with
      | nil => exact ⟨[], .done rank r⟩
      | cons n ns =>
          obtain ⟨hn, hbehind⟩ := hns n List.mem_cons_self
          have hlt := hbehind.length_lt hacyclic hn
          omega
  | succ fuel ih =>
      induction ns generalizing r with
      | nil => exact ⟨[], .done rank r⟩
      | cons n ns ihns =>
          obtain ⟨hn, hbehind⟩ := hns n List.mem_cons_self
          rw [List.foldl_cons]
          obtain ⟨calls', hrest⟩ :=
            ihns (fun m hm => hns m (List.mem_cons_of_mem n hm)) (r.propagate sources (fuel + 1) n rank)
          cases hlow : (r.rank.get? n).any (· ≤ rank) with
          | true =>
              rw [propagate_of_low hlow] at hrest ⊢
              exact ⟨_, .keep hlow hrest⟩
          | false =>
              have hsources : ∀ p ∈ sources n, p ∈ g.arena.keys ∧ Behind g (n :: unfinished) p := by
                intro p hp
                have hfeeds := (hmem p n).mp hp
                obtain ⟨node, hnode⟩ := hreg.feeds_src_present hfeeds
                exact ⟨Table.mem_keys_iff.mpr ⟨node, hnode⟩, hbehind.cons hacyclic hn hfeeds⟩
              obtain ⟨calls, hcalls⟩ := ih hsources (by rw [List.length_cons]; omega) (rank - 1)
                { r with rank := r.rank.set n rank }
              rw [propagate_of_new hlow] at hrest ⊢
              exact ⟨(n, rank) :: calls ++ calls', .give hlow hcalls hrest⟩

/-- A call is for a way down that propagation has come up. -/
theorem Propagates.called (h : g.WellFormed) (hmem : ∀ p n, p ∈ sources n ↔ g.Feeds p n)
    (hp : Propagates sources ns rank r calls r') {k : Nat} (hrank : rank = -(k : Int))
    (hns : ∀ n ∈ ns, n ∈ g.allNodes ∧ g.Descends n k) :
    ∀ c ∈ calls, c.1 ∈ g.allNodes ∧ ∃ j : Nat, g.Descends c.1 j ∧ c.2 = -(j : Int) := by
  induction hp generalizing k with
  | done rank r => exact fun c hc => absurd hc List.not_mem_nil
  | @keep n ns rank r r' calls hlow _ ih =>
      obtain ⟨hn, hns⟩ := List.forall_mem_cons.mp hns
      exact List.forall_mem_cons.mpr ⟨⟨hn.1, k, hn.2, hrank⟩, ih hrank hns⟩
  | @give n ns rank r r' r'' calls calls' hnew _ _ ih ih' =>
      obtain ⟨hn, hns⟩ := List.forall_mem_cons.mp hns
      have hcalls := ih (k := k + 1) (by omega) (by
        intro p hp
        have hfeeds := (hmem p n).mp hp
        exact ⟨h.mem_allNodes.mpr (h.feeds_src_present hfeeds), .step hfeeds hn.2⟩)
      intro c hc
      rcases List.mem_append.mp hc with hc | hc
      · rcases List.mem_cons.mp hc with rfl | hc
        · exact ⟨hn.1, k, hn.2, hrank⟩
        · exact hcalls c hc
      · exact ih' hrank hns c hc

end Ranks

namespace Graph

variable {g : Graph} {sinks : List NodeId} {sources : NodeId → List NodeId}

/-- The ranks are told by ways down. -/
structure TellsDepths (g : Graph) (r : Ranks) : Prop where
  /-- A node has the negated number of connections on a longest way down. -/
  rank : ∀ n ∈ g.allNodes, ∃ k : Nat, IsGreatest {k | g.Descends n k} k ∧ r.rank.get? n = some (-(k : Int))
  /-- Nothing else has a rank. -/
  rank_of_absent : ∀ n, n ∉ g.allNodes → r.rank.get? n = none
  /-- The lowest rank is noted. -/
  first : IsLeast {rank | ∃ n, r.rank.get? n = some rank} r.first

theorem WellFormed.get?_ranksBy_of_absent (h : g.WellFormed) (he : g.Enumerates sinks sources) {n : NodeId}
    (hn : n ∉ g.allNodes) : (g.ranksBy sinks sources).rank.get? n = none := by
  rw [Table.get?_eq_none_iff]
  exact fun hkey => hn (h.mem_allNodes.mpr (h.present_of_ranksBy he hkey))

theorem WellFormed.ranksBy_tellsDepths (h : g.WellFormed) (he : g.Enumerates sinks sources) (hne : g.allNodes ≠ []) :
    g.TellsDepths (g.ranksBy sinks sources) where
  rank := fun n hn => ⟨g.depth n, h.depth_greatest hn, h.ranksBy_rank_eq he hn⟩
  rank_of_absent := fun _ hn => h.get?_ranksBy_of_absent he hn
  first := by
    obtain ⟨n, hn, htop⟩ := (height_greatest hne).1
    refine ⟨⟨n, ?_⟩, fun rank ⟨m, hm⟩ => (h.ranksBy_ranked he).first_le m rank hm⟩
    rw [h.ranksBy_rank_eq he hn, h.ranksBy_first_eq he hne, htop]

theorem Partitioned.size_eq (h : g.Partitioned) : g.arena.size = g.allNodes.length := by
  rw [h.allNodes_perm_keys.length_eq, Table.keys_length]

/-- Propagation from all sinks ends, and it makes no call for a rank that no way down asks for. -/
theorem WellFormed.propagates_sinks (h : g.WellFormed) (he : g.Enumerates sinks sources) :
    ∃ calls, Ranks.Propagates sources sinks 0 {} calls (g.ranksBy sinks sources)
      ∧ ∀ c ∈ calls, -((g.allNodes.length : Int) - 1) ≤ c.2 ∧ c.2 ≤ 0 := by
  have hsinks : ∀ n ∈ sinks, n ∈ g.allNodes := fun n hn => g.sinks_subset ((he.mem_sinks n).mp hn)
  have hstart : ∀ n ∈ sinks, n ∈ g.arena.keys ∧ Ranks.Behind g [] n :=
    fun n hn => ⟨h.allNodes_perm_keys.mem_iff.mp (hsinks n hn), List.nodup_nil, List.nil_subset _, by simp⟩
  obtain ⟨calls, hcalls⟩ :=
    Ranks.propagates_foldl h.toRegistered h.acyclic he.mem_sources hstart (Nat.le_add_left _ _) 0 {}
  refine ⟨calls, hcalls, fun c hc => ?_⟩
  obtain ⟨hn, j, hdown, hrank⟩ :=
    hcalls.called h he.mem_sources (k := 0) rfl (fun n hn => ⟨hsinks n hn, .stay n⟩) c hc
  have hlt := hdown.lt_size h hn
  rw [h.size_eq] at hlt
  omega

/--
**Propagation ends with the depths.** This holds of every graph that is not empty, whether it was new or read at first,
and whatever edits were made to it. In whatever order the sinks are taken, and the sources of each node, propagation
ends, in one way only, and calls are made for no ranks but those between zero and the negated number of other nodes.
What is found are the negated depths of the nodes and the lowest of them, and so the same in every order.
-/
theorem propagation_finds_depths (hg : g.Attained) (hne : g.allNodes ≠ []) (sinks : List NodeId)
    (sources : NodeId → List NodeId) (hsinks : sinks.Perm g.sinks)
    (hsources : ∀ n, (sources n).Perm (g.predecessors n)) :
    ∃ calls r, (∀ calls' r', Ranks.Propagates sources sinks 0 {} calls' r' ↔ calls' = calls ∧ r' = r)
      ∧ (∀ c ∈ calls, -((g.allNodes.length : Int) - 1) ≤ c.2 ∧ c.2 ≤ 0)
      ∧ g.TellsDepths r
      ∧ r.first = g.ranks.first ∧ ∀ n, r.rank.get? n = g.ranks.rank.get? n := by
  have h := hg.wellFormed
  have he : g.Enumerates sinks sources :=
    ⟨fun _ => hsinks.mem_iff, fun _ n => (hsources n).mem_iff.trans h.mem_predecessors⟩
  obtain ⟨calls, hcalls, hbounds⟩ := h.propagates_sinks he
  refine ⟨calls, g.ranksBy sinks sources, ?_, hbounds, h.ranksBy_tellsDepths he hne, ?_, ?_⟩
  · intro calls' r'
    constructor
    · exact fun hother => hcalls.unique hother
    · rintro ⟨rfl, rfl⟩
      exact hcalls
  · rw [h.ranksBy_first_eq he hne, h.first_eq hne]
  · intro n
    by_cases hn : n ∈ g.allNodes
    · rw [h.ranksBy_rank_eq he hn, h.rank_eq hn]
    · rw [h.get?_ranksBy_of_absent he hn]
      exact (h.get?_ranksBy_of_absent h.enumerates hn).symm

/--
An input that feeds a sum, once as it is and once by way of two other nodes, the second of which feeds a meter besides.
From the meter and by the direct way, the input is ranked too high at first.
-/
def twoWayEdits : List Edit :=
  [.insert .input 0 "x", .add (.ofNames ⟨"math", "abs"⟩ [""] [""]), .add (.ofNames ⟨"math", "sqrt"⟩ [""] [""]),
    .add (.operator "+"), .add (.ofNames ⟨"meter", "peak"⟩ [""] []), .insert .output 0 "y",
    .connect ⟨⟨0⟩, 0⟩ ⟨⟨3⟩, 0⟩, .connect ⟨⟨0⟩, 0⟩ ⟨⟨1⟩, 0⟩, .connect ⟨⟨1⟩, 0⟩ ⟨⟨2⟩, 0⟩, .connect ⟨⟨2⟩, 0⟩ ⟨⟨3⟩, 1⟩,
    .connect ⟨⟨2⟩, 0⟩ ⟨⟨4⟩, 0⟩, .connect ⟨⟨3⟩, 0⟩ ⟨⟨5⟩, 0⟩]

def twoWays : Graph := (empty "two ways").run twoWayEdits

/-- With sinks and sources backwards, the input has the rank of its longest way all the same. -/
theorem twoWays_depths :
    twoWays.Attained ∧ twoWays.sinks = [⟨4⟩, ⟨5⟩] ∧ twoWays.predecessors ⟨3⟩ = [⟨0⟩, ⟨2⟩]
      ∧ ∃ calls r, Ranks.Propagates (fun n => (twoWays.predecessors n).reverse) twoWays.sinks.reverse 0 {} calls r
        ∧ twoWays.TellsDepths r ∧ r.first = -4 ∧ r.rank.get? ⟨0⟩ = some (-4) := by
  have hattained : twoWays.Attained := by
    refine Reachable.attained ⟨"two ways", twoWayEdits, ?_, roomFor_of_length (by decide) (by decide), rfl⟩
    intro e he
    simp only [twoWayEdits, List.mem_cons, List.not_mem_nil, or_false] at he
    rcases he with rfl | rfl | rfl | rfl | rfl | rfl | rfl | rfl | rfl | rfl | rfl | rfl
    all_goals first
      | exact trivial
      | exact Node.ofNames_unconnected _ _ _
  have hne : twoWays.allNodes ≠ [] := by decide +kernel
  obtain ⟨calls, r, hunique, -, hdepths, hfirst, hranks⟩ := propagation_finds_depths hattained hne
    twoWays.sinks.reverse (fun n => (twoWays.predecessors n).reverse) (List.reverse_perm _) fun _ => List.reverse_perm _
  have hlowest : twoWays.ranks.first = -4 := by cbv
  have hinput : twoWays.ranks.rank.get? ⟨0⟩ = some (-4) := by cbv
  exact ⟨hattained, by cbv, by cbv, calls, r, (hunique calls r).mpr ⟨rfl, rfl⟩, hdepths,
    hfirst.trans hlowest, (hranks ⟨0⟩).trans hinput⟩

end Graph

end SignalGraph
