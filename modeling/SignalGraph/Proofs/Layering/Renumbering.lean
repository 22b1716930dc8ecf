import SignalGraph.Proofs.Layering.Layers
import SignalGraph.Proofs.Layering.Pinning
import SignalGraph.Proofs.Record.Renumbering
import SignalGraph.Proofs.Sequence

/-!
# Layers under other numbers

The layer of a node depends on what is connected with what, and neither on the numbers of nodes nor on the order in
which connections were made. An input has one source at most, so the way from the sinks to the sources is the same
way in a graph under other numbers, and ranks are found in the same order: the tables agree entry by entry
(`Table.Renamed`), through every step from the first sink to the last terminal.
-/

namespace SignalGraph

universe u

section Renamed

variable {ν : Type u} {ρ : NodeId → NodeId} {ns : List NodeId} {t t' : Table NodeId ν} {n : NodeId}

/-- The other table has the same entries, for the nodes under their other numbers. -/
structure Table.Renamed (ρ : NodeId → NodeId) (ns : List NodeId) (t t' : Table NodeId ν) : Prop where
  entries : t'.entries = t.entries.map fun e => (ρ e.1, e.2)
  /-- The nodes are among those that have other numbers. -/
  keys : t.keys ⊆ ns

namespace Table

theorem renamed_empty (ρ : NodeId → NodeId) (ns : List NodeId) : Renamed ρ ns (∅ : Table NodeId ν) ∅ :=
  ⟨rfl, List.nil_subset _⟩

theorem Renamed.values (h : Renamed ρ ns t t') : t'.values = t.values := by
  unfold Table.values
  rw [h.entries, List.map_map]
  rfl

theorem Renamed.mapValues {ω : Type u} (h : Renamed ρ ns t t') (f : ν → ω) :
    Renamed ρ ns (t.mapValues fun _ v => f v) (t'.mapValues fun _ v => f v) where
  entries := by
    change t'.entries.map (fun e => (e.1, f e.2)) = (t.entries.map fun e => (e.1, f e.2)).map fun e => (ρ e.1, e.2)
    rw [h.entries, List.map_map, List.map_map]
    rfl
  keys := by
    rw [keys_mapValues]
    exact h.keys

variable (hρ : ∀ m ∈ ns, ∀ n ∈ ns, ρ m = ρ n → m = n)
include hρ

theorem Renamed.mem_keys (h : Renamed ρ ns t t') (hn : n ∈ ns) : ρ n ∈ t'.keys ↔ n ∈ t.keys := by
  have hkeys : t'.keys = t.keys.map ρ := by
    unfold Table.keys
    rw [h.entries, List.map_map, List.map_map]
    rfl
  rw [hkeys, List.mem_map]
  constructor
  · rintro ⟨m, hm, heq⟩
    rwa [hρ n hn m (h.keys hm) heq.symm]
  · intro hn
    exact ⟨n, hn, rfl⟩

theorem Renamed.get? (h : Renamed ρ ns t t') (hn : n ∈ ns) : t'.get? (ρ n) = t.get? n := by
  cases hv : t.get? n with
  | none =>
      rw [get?_eq_none_iff, h.mem_keys hρ hn]
      exact get?_eq_none_iff.mp hv
  | some v =>
      refine get?_of_mem ?_
      rw [h.entries]
      exact List.mem_map_of_mem (f := fun e => (ρ e.1, e.2)) (mem_of_get? hv)

theorem Renamed.set (h : Renamed ρ ns t t') (hn : n ∈ ns) (v : ν) : Renamed ρ ns (t.set n v) (t'.set (ρ n) v) where
  entries := by
    by_cases hkey : n ∈ t.keys
    · rw [set_of_mem hkey, set_of_mem ((h.mem_keys hρ hn).mpr hkey)]
      unfold Table.modify
      dsimp only
      rw [h.entries, List.map_map, List.map_map]
      refine List.map_congr_left ?_
      intro e he
      dsimp only [Function.comp_apply]
      by_cases heq : e.1 = n
      · rw [if_pos heq, if_pos (congrArg ρ heq)]
      · rw [if_neg heq, if_neg fun h' => heq (hρ _ (h.keys (List.mem_map_of_mem he)) n hn h')]
    · rw [entries_set_of_not_mem hkey, entries_set_of_not_mem fun h' => hkey ((h.mem_keys hρ hn).mp h'), h.entries,
        List.map_append]
      rfl
  keys := by
    intro m hm
    rcases mem_keys_set.mp hm with rfl | hm
    · exact hn
    · exact h.keys hm

/-- Values are found one by one, each from the table so far. -/
theorem Renamed.foldl_set (h : Renamed ρ ns t t') {f f' : Table NodeId ν → NodeId → ν} {ms : List NodeId}
    (hms : ms ⊆ ns) (hf : ∀ m ∈ ms, ∀ t t', Renamed ρ ns t t' → f' t' (ρ m) = f t m) :
    Renamed ρ ns (ms.foldl (fun t m => t.set m (f t m)) t) ((ms.map ρ).foldl (fun t m => t.set m (f' t m)) t') := by
  rw [List.foldl_map]
  refine List.foldl_rel h ?_
  intro m hm t t' ht
  rw [hf m hm t t' ht]
  exact ht.set hρ (hms hm) _

theorem Renamed.setAll (h : Renamed ρ ns t t') {es : List (NodeId × ν)} (hes : es.map Prod.fst ⊆ ns) :
    Renamed ρ ns (t.setAll es) (t'.setAll (es.map (Prod.map ρ id))) := by
  unfold Table.setAll
  rw [List.foldl_map]
  refine List.foldl_rel h ?_
  intro e he t t' ht
  exact ht.set hρ (hes (List.mem_map_of_mem he)) e.2

end Table

/-! ## Ranks -/

/-- Ranks for the nodes under their other numbers. -/
structure Ranks.Renamed (ρ : NodeId → NodeId) (ns : List NodeId) (r r' : Ranks) : Prop where
  rank : r.rank.Renamed ρ ns r'.rank
  first : r'.first = r.first

/-- A node and what precedes it get the same ranks under other numbers. -/
theorem Ranks.Renamed.propagate (hρ : ∀ m ∈ ns, ∀ n ∈ ns, ρ m = ρ n → m = n)
    {predecessors predecessors' : NodeId → List NodeId}
    (hsame : ∀ n ∈ ns, predecessors n ⊆ ns ∧ predecessors' (ρ n) = (predecessors n).map ρ) (fuel : Nat)
    {r r' : Ranks} (h : Renamed ρ ns r r') (hn : n ∈ ns) (rank : Int) :
    Renamed ρ ns (r.propagate predecessors fuel n rank) (r'.propagate predecessors' fuel (ρ n) rank) := by
  induction fuel generalizing r r' n rank with
  | zero => exact h
  | succ fuel ih =>
      obtain ⟨hsub, hmap⟩ := hsame n hn
      have hfold : ∀ r r' : Ranks, Renamed ρ ns r r' →
          Renamed ρ ns ((predecessors n).foldl (fun r p => Ranks.propagate predecessors fuel p (rank - 1) r) r)
            (((predecessors n).map ρ).foldl (fun r p => Ranks.propagate predecessors' fuel p (rank - 1) r) r') := by
        intro r r' h
        rw [List.foldl_map]
        exact List.foldl_rel h fun p hp _ _ h => ih h (hsub hp) (rank - 1)
      unfold Ranks.propagate
      rw [h.rank.get? hρ hn]
      split
      · exact h
      · dsimp only
        rw [hmap]
        have hsources := hfold { r with rank := r.rank.set n rank } { r' with rank := r'.rank.set (ρ n) rank }
          ⟨h.rank.set hρ hn rank, h.first⟩
        exact ⟨hsources.rank, congrArg (min · rank) hsources.first⟩

end Renamed

namespace Graph

variable {ρ : NodeId → NodeId} {g g' : Graph} {n : NodeId}

/-! ## The same ways -/

/-- The connections of a port, by their ends. -/
def endsOf (g : Graph) (p : Port) : List Connection := p.connections.filterMap g.connection?

/-- What a connection of an input comes from is its source. -/
theorem Registered.endsOf_input (h : g.Registered) {node : Node} (hn : g.node? n = some node) {i : Nat} {p : Port}
    (hp : node.inputs[i]? = some p) : (g.endsOf p).map (·.src) = (g.sourceOf? ⟨n, i⟩).toList := by
  have hin : g.incoming? ⟨n, i⟩ = some p.connections := by
    rw [incoming?_of_node? hn, Node.incoming, List.getElem?_map, hp]
    rfl
  have hlen := h.incoming_length _ _ hin
  unfold sourceOf? endsOf
  rw [hn, Option.bind_some, hp, Option.bind_some]
  rcases hcs : p.connections with _ | ⟨c, _ | ⟨c', cs⟩⟩
  · rfl
  · rw [List.head?_cons, Option.bind_some, List.filterMap_cons, List.filterMap_nil]
    cases g.connection? c <;> rfl
  · rw [hcs] at hlen
    exact absurd hlen (by simp)

theorem predecessors_eq {node : Node} (hn : g.node? n = some node) :
    g.predecessors n = node.inputs.flatMap fun p => ((g.endsOf p).map (·.src)).map (·.node) := by
  unfold predecessors endsOf
  rw [hn]
  dsimp only
  rw [List.filterMap_flatMap]
  simp only [List.map_filterMap, Option.map_map]
  rfl

/-- Ports that have one index show the same sources. -/
theorem Renumbered.inputs (h : Renumbered ρ g g') (hg : g.WellFormed) (hg' : g'.WellFormed) {node node' : Node}
    (hn : g.node? n = some node) (hn' : g'.node? (ρ n) = some node') :
    List.Forall₂ (fun p p' => (g'.endsOf p').map (·.src) = ((g.endsOf p).map (·.src)).map (OutPort.renumber ρ))
      node.inputs node'.inputs := by
  refine List.forall₂_iff_get.mpr ⟨(h.lengths hn hn').1.symm, ?_⟩
  intro i hi hi'
  rw [List.get_eq_getElem, List.get_eq_getElem, hg'.endsOf_input hn' (List.getElem?_eq_getElem hi'),
    hg.endsOf_input hn (List.getElem?_eq_getElem hi), h.sourceOf? hg hg' (hg.mem_allNodes.mpr ⟨node, hn⟩)]
  cases g.sourceOf? ⟨n, i⟩ <;> rfl

theorem Renumbered.predecessors (h : Renumbered ρ g g') (hg : g.WellFormed) (hg' : g'.WellFormed)
    (hn : n ∈ g.allNodes) : g'.predecessors (ρ n) = (g.predecessors n).map ρ := by
  obtain ⟨node, hnode⟩ := hg.mem_allNodes.mp hn
  obtain ⟨node', hnode', -⟩ := h.node? n node hnode
  rw [predecessors_eq hnode, predecessors_eq hnode', List.map_flatMap]
  refine flatMap_eq_of_forall₂ ((h.inputs hg hg' hnode hnode').flip.imp ?_)
  intro p' p hp
  rw [hp]
  simp only [List.map_map]
  rfl

theorem Renumbered.feeds_iff (h : Renumbered ρ g g') (hg : g.WellFormed) (hn : n ∈ g.allNodes) :
    (∃ m, g'.Feeds (ρ n) m) ↔ ∃ m, g.Feeds n m := by
  constructor
  · rintro ⟨m, c, ends, hends, hsrc, -⟩
    obtain ⟨s, d, hc, hs, -⟩ := (h.connects ends.src ends.dst).mp ⟨c, hends⟩
    rw [← hs] at hsrc
    obtain ⟨c₀, hc₀⟩ := hc
    exact ⟨d.node, c₀, ⟨s, d⟩, hc₀, h.injective _ (hg.mem_of_connects ⟨c₀, hc₀⟩).1 n hn hsrc, rfl⟩
  · rintro ⟨m, c, ends, hends, rfl, -⟩
    obtain ⟨c', hc'⟩ := (h.connects (ends.src.renumber ρ) (ends.dst.renumber ρ)).mpr ⟨_, _, ⟨c, hends⟩, rfl, rfl⟩
    exact ⟨_, c', _, hc', rfl, rfl⟩

/-! ## The same ranks -/

theorem WellFormed.isSink_iff (hg : g.WellFormed) (hn : n ∈ g.allNodes) :
    g.isSink n = true ↔ ¬ ∃ m, g.Feeds n m := by
  obtain ⟨node, hnode⟩ := hg.mem_allNodes.mp hn
  constructor
  · rintro hsink ⟨m, hfeeds⟩
    exact hg.not_feeds_of_isSink hsink m hfeeds
  · intro hno
    exact hg.isSink_of_forall hnode fun m hm => hno ⟨m, hm⟩

theorem Renumbered.sinks (h : Renumbered ρ g g') (hg : g.WellFormed) (hg' : g'.WellFormed) :
    g'.sinks = g.sinks.map ρ := by
  unfold Graph.sinks
  rw [h.allNodes, List.filter_map]
  congr 1
  refine List.filter_congr ?_
  intro n hn
  have hn' : ρ n ∈ g'.allNodes := h.allNodes ▸ List.mem_map_of_mem hn
  rw [Bool.eq_iff_iff, Function.comp_apply, hg'.isSink_iff hn', hg.isSink_iff hn, h.feeds_iff hg hn]

theorem sinks_subset (g : Graph) : g.sinks ⊆ g.allNodes := fun _ hn => List.mem_of_mem_filter hn

theorem SameNodes.size (h : SameNodes ρ g g') (hg : g.WellFormed) (hg' : g'.WellFormed) :
    g'.arena.size = g.arena.size := by
  have hlen := hg.allNodes_perm_keys.length_eq
  have hlen' := hg'.allNodes_perm_keys.length_eq
  rw [Table.keys_length] at hlen hlen'
  rw [← hlen, ← hlen', h.allNodes, List.length_map]

theorem Renumbered.ranks (h : Renumbered ρ g g') (hg : g.WellFormed) (hg' : g'.WellFormed) :
    Ranks.Renamed ρ g.allNodes g.ranks g'.ranks := by
  have hsame : ∀ n ∈ g.allNodes,
      g.predecessors n ⊆ g.allNodes ∧ g'.predecessors (ρ n) = (g.predecessors n).map ρ := by
    intro n hn
    refine ⟨?_, h.predecessors hg hg' hn⟩
    intro p hp
    exact hg.mem_allNodes.mpr (hg.feeds_src_present (hg.mem_predecessors.mp hp))
  unfold Graph.ranks
  rw [h.sinks hg hg', h.size hg hg', List.foldl_map]
  refine List.foldl_rel (r := Ranks.Renamed ρ g.allNodes) ⟨Table.renamed_empty ρ _, rfl⟩ ?_
  intro n hn r r' hr
  exact hr.propagate h.injective hsame _ (g.sinks_subset hn) 0

theorem Renumbered.trailSinks (h : Renumbered ρ g g') (hg : g.WellFormed) (hg' : g'.WellFormed) :
    Table.Renamed ρ g.allNodes (g.trailSinks g.ranks) (g'.trailSinks g'.ranks) := by
  have hranks := h.ranks hg hg'
  unfold Graph.trailSinks
  rw [h.sinks hg hg', hranks.first]
  refine hranks.rank.foldl_set h.injective g.sinks_subset ?_
  intro m hm t t' ht
  have hbefore : (g'.predecessors (ρ m)).filterMap t'.get? = (g.predecessors m).filterMap t.get? := by
    rw [h.predecessors hg hg' (g.sinks_subset hm), List.filterMap_map]
    refine List.filterMap_congr ?_
    intro p hp
    exact ht.get? h.injective (hg.mem_allNodes.mpr (hg.feeds_src_present (hg.mem_predecessors.mp hp)))
  unfold trailingRank
  rw [hbefore]

theorem SameNodes.terminals (h : SameNodes ρ g g') (d : Direction) : g'.terminals d = (g.terminals d).map ρ := by
  cases d with
  | input => exact h.inPorts
  | output => exact h.outPorts

/-- What a node is by its origin, it is under its other number. -/
theorem SameNodes.any (h : SameNodes ρ g g') (hg : g.WellFormed) (hn : n ∈ g.allNodes) {is : Node → Bool}
    (horigin : ∀ node node', node'.origin = node.origin → is node' = is node) :
    (g'.node? (ρ n)).any is = (g.node? n).any is := by
  obtain ⟨node, hnode⟩ := hg.mem_allNodes.mp hn
  obtain ⟨node', hnode', heq⟩ := h.node? n node hnode
  rw [hnode, hnode', Option.any_some, Option.any_some]
  have hsame : node'.bare.origin = (node.bare.renumber ρ).origin := by rw [heq]
  exact horigin node node' hsame

/-- Pinning terminals looks at the ranks of all nodes, and at which of them are numbers. -/
theorem SameNodes.pinTerminals (h : SameNodes ρ g g') (hg : g.WellFormed) (d : Direction) (rank fresh : Int)
    {t t' : Table NodeId Int} (ht : Table.Renamed ρ g.allNodes t t') :
    Table.Renamed ρ g.allNodes (g.pinTerminals d rank fresh t) (g'.pinTerminals d rank fresh t') := by
  have hholds : ∀ n ∈ g.allNodes, Ranks.holds t' rank (ρ n) = Ranks.holds t rank n := by
    intro n hn
    unfold Ranks.holds
    rw [ht.get? h.injective hn]
  have hheld : (g'.terminals d).countP (Ranks.holds t' rank) = (g.terminals d).countP (Ranks.holds t rank) := by
    rw [h.terminals, List.countP_map]
    exact List.countP_congr fun n hn => by rw [Function.comp_apply, hholds n (terminals_subset g d hn)]
  have hoccupants : (g'.allNodes.countP fun n => Ranks.holds t' rank n && !g'.sharesFirst d n)
      = g.allNodes.countP fun n => Ranks.holds t rank n && !g.sharesFirst d n := by
    rw [h.allNodes, List.countP_map]
    refine List.countP_congr fun n hn => ?_
    have hconst : (g'.node? (ρ n)).any Node.isConstant = (g.node? n).any Node.isConstant :=
      h.any hg hn fun node node' horigin => by rw [Node.isConstant, Node.constantValue?, horigin]; rfl
    rw [Function.comp_apply, hholds n hn, sharesFirst, sharesFirst, hconst]
  unfold Graph.pinTerminals
  dsimp only
  rw [hheld, hoccupants, h.terminals]
  exact ht.foldl_set h.injective (terminals_subset g d) fun _ _ _ _ _ => rfl

theorem Renumbered.finalRanks (h : Renumbered ρ g g') (hg : g.WellFormed) (hg' : g'.WellFormed) :
    Table.Renamed ρ g.allNodes g.finalRanks g'.finalRanks := by
  have hpin := fun d rank fresh {t t'} (ht : Table.Renamed ρ g.allNodes t t') =>
    h.pinTerminals hg d rank fresh ht
  have htrail := h.trailSinks hg hg'
  unfold Graph.finalRanks
  dsimp only
  rw [h.inPorts, h.outPorts, List.isEmpty_map, List.isEmpty_map, (h.ranks hg hg').first]
  split
  · split
    · exact htrail
    · exact hpin .input _ _ htrail
  · split
    · exact hpin .output 0 1 htrail
    · exact hpin .output 0 1 (hpin .input _ _ htrail)

/-! ## The same layers -/

theorem Renumbered.layerTable (h : Renumbered ρ g g') (hg : g.WellFormed) (hg' : g'.WellFormed) :
    Table.Renamed ρ g.allNodes g.layerTable g'.layerTable := by
  have hranks := h.finalRanks hg hg'
  have hused : usedRanks g'.finalRanks = usedRanks g.finalRanks := by
    unfold usedRanks
    rw [hranks.values]
  unfold Graph.layerTable
  rw [hused]
  exact hranks.mapValues fun r => (usedRanks g.finalRanks).idxOf r

theorem Renumbered.unordered (h : Renumbered ρ g g') (hg : g.WellFormed) (hg' : g'.WellFormed) :
    g'.unordered = g.unordered.map (·.map ρ) := by
  have hlayers := h.layerTable hg hg'
  unfold Graph.unordered usedRanks
  rw [(h.finalRanks hg hg').values, List.map_map]
  refine List.map_congr_left ?_
  intro i _
  rw [Function.comp_apply, h.allNodes, List.filter_map]
  congr 1
  refine List.filter_congr ?_
  intro n hn
  rw [Function.comp_apply, hlayers.get? h.injective hn]

end Graph

end SignalGraph
