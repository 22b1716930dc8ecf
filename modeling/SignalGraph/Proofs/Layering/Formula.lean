import SignalGraph.Proofs.Layering.Assigned
import SignalGraph.Proofs.Layering.Depth
import SignalGraph.Proofs.Record.Accepted

/-!
# The layer of every node

The layer of a node can be told from depths alone. A node that feeds others is as far from the first layer as its way
down is shorter than the longest one; one that feeds nothing stands just behind its inputs, or in the middle
(`baseRank`). Terminals then make room for themselves in front and behind, if another node stands there (`inputGap`,
`outputGap`).

Sinks feed nothing, so moving one changes no rank that another one looks at, and all of them move as if at once. No
rank is vacated when terminals move: a longest way passes through all ranks, and inside of it there is no terminal.
-/

namespace SignalGraph

namespace Graph

variable {g : Graph} {n : NodeId}

/-! ## The formula -/

/-- The distance of a node from the first layer, as long as terminals have not moved. -/
def baseRank (g : Graph) (n : NodeId) : Nat :=
  if g.successors n ≠ [] then g.height - g.depth n
  else match ((g.predecessors n).map fun p => g.height - g.depth p).max? with
    | some last => last + 1
    | none => (g.height + 1) / 2

/-- One, if a node that is no number is in the way of the input terminals. -/
def inputGap (g : Graph) : Nat :=
  if g.inPorts ≠ [] ∧ ∃ n ∈ g.allNodes, n ∉ g.inPorts ∧ (g.node? n).any Node.isConstant = false ∧ g.baseRank n = 0
  then 1 else 0

/-- One, if a node is in the way of the output terminals. -/
def outputGap (g : Graph) : Nat := if g.outPorts ≠ [] ∧ ∃ n ∈ g.body, g.baseRank n = g.height then 1 else 0

/-- There is a gap in front for input terminals only. -/
theorem inputGap_cases (g : Graph) : g.inputGap = 0 ∨ g.inputGap = 1 ∧ g.inPorts ≠ [] := by
  unfold inputGap
  split
  · rename_i hboth
    exact Or.inr ⟨rfl, hboth.1⟩
  · exact Or.inl rfl

/-- There is a gap behind for output terminals only. -/
theorem outputGap_cases (g : Graph) : g.outputGap = 0 ∨ g.outputGap = 1 ∧ g.outPorts ≠ [] := by
  unfold outputGap
  split
  · rename_i hboth
    exact Or.inr ⟨rfl, hboth.1⟩
  · exact Or.inl rfl

theorem baseRank_of_feeding (h : g.successors n ≠ []) : g.baseRank n = g.height - g.depth n := if_pos h

theorem baseRank_of_isolated (h : g.successors n = []) (h' : g.predecessors n = []) :
    g.baseRank n = (g.height + 1) / 2 := by
  unfold baseRank
  rw [if_neg (not_not_intro h), h']
  rfl

/-- A sink with inputs stands just behind the last of them. -/
theorem baseRank_of_fed (h : g.successors n = []) (h' : g.predecessors n ≠ []) :
    (∃ p ∈ g.predecessors n, g.baseRank n = g.height - g.depth p + 1)
      ∧ ∀ p ∈ g.predecessors n, g.height - g.depth p + 1 ≤ g.baseRank n := by
  obtain ⟨last, hlast⟩ := Option.ne_none_iff_exists'.mp
    (mt List.max?_eq_none_iff.mp (mt List.map_eq_nil_iff.mp h' :
      (g.predecessors n).map (fun p => g.height - g.depth p) ≠ []))
  obtain ⟨hmem, hle⟩ := List.max?_eq_some_iff.mp hlast
  have heq : g.baseRank n = last + 1 := by
    unfold baseRank
    rw [if_neg (not_not_intro h), hlast]
  obtain ⟨p, hp, hp'⟩ := List.mem_map.mp hmem
  refine ⟨⟨p, hp, by rw [heq, hp']⟩, fun q hq => ?_⟩
  rw [heq]
  exact Nat.succ_le_succ (hle _ (List.mem_map_of_mem hq))

theorem WellFormed.successors_eq_nil_iff (h : g.WellFormed) : g.successors n = [] ↔ ¬∃ m, g.Feeds n m := by
  rw [List.eq_nil_iff_forall_not_mem, not_exists]
  exact forall_congr' fun m => not_congr h.mem_successors

theorem WellFormed.baseRank_le_height (h : g.WellFormed) (n : NodeId) : g.baseRank n ≤ g.height := by
  by_cases hsink : g.successors n = []
  · by_cases hfree : g.predecessors n = []
    · rw [baseRank_of_isolated hsink hfree]
      omega
    · obtain ⟨⟨p, hp, heq⟩, -⟩ := baseRank_of_fed hsink hfree
      have hfeeds := h.mem_predecessors.mp hp
      have hdepth := h.depth_lt_of_feeds hfeeds
      have hle := depth_le_height (h.mem_allNodes.mpr (h.feeds_src_present hfeeds))
      omega
  · rw [baseRank_of_feeding hsink]
    omega

/-! ## Sinks -/

theorem WellFormed.mem_sinks_iff (h : g.WellFormed) (hn : n ∈ g.allNodes) : n ∈ g.sinks ↔ g.successors n = [] := by
  rw [h.successors_eq_nil_iff, ← h.isSink_iff hn]
  exact List.mem_filter.trans (and_iff_right hn)

/-- Where other nodes have their first ranks, a sink moves to its place in the formula. -/
theorem WellFormed.trailingRank_eq (h : g.WellFormed) (hn : n ∈ g.sinks) {t : Table NodeId Int}
    (ht : ∀ m, m ∉ g.sinks → t.get? m = g.ranks.rank.get? m) :
    g.trailingRank g.ranks.first t n = (g.baseRank n : Int) - g.height := by
  have hlisted := g.sinks_subset hn
  have hsink := (h.mem_sinks_iff hlisted).mp hn
  have hbefore : (g.predecessors n).filterMap t.get? = (g.predecessors n).map fun p => -(g.depth p : Int) := by
    rw [← List.filterMap_eq_map]
    refine List.filterMap_congr fun p hp => ?_
    have hfeeds := h.mem_predecessors.mp hp
    have hp' := h.mem_allNodes.mpr (h.feeds_src_present hfeeds)
    have hnot : p ∉ g.sinks := fun hmem =>
      (h.successors_eq_nil_iff.mp ((h.mem_sinks_iff hp').mp hmem)) ⟨n, hfeeds⟩
    rw [ht p hnot, h.rank_eq hp']
    rfl
  unfold trailingRank
  dsimp only
  rw [hbefore, h.first_eq (List.ne_nil_of_mem hlisted)]
  cases hmax : ((g.predecessors n).map fun p => -(g.depth p : Int)).max? with
  | none =>
      have hfree := List.map_eq_nil_iff.mp (List.max?_eq_none_iff.mp hmax)
      rw [baseRank_of_isolated hsink hfree, Option.getD_none, if_pos (by omega),
        Int.tdiv_eq_ediv_of_nonneg (by omega)]
      omega
  | some last =>
      obtain ⟨hmem, hle⟩ := List.max?_eq_some_iff.mp hmax
      obtain ⟨p, hp, rfl⟩ := List.mem_map.mp hmem
      obtain ⟨⟨q, hq, heq⟩, hge⟩ := baseRank_of_fed hsink (List.ne_nil_of_mem hp)
      -- both maxima are taken at the least depth of an input
      have hp' := depth_le_height (h.mem_allNodes.mpr (h.feeds_src_present (h.mem_predecessors.mp hp)))
      have hq' := depth_le_height (h.mem_allNodes.mpr (h.feeds_src_present (h.mem_predecessors.mp hq)))
      have hless := hle _ (List.mem_map_of_mem hq)
      have hmore := hge p hp
      rw [Option.getD_some, if_neg (by omega)]
      omega

/-- When the sinks have moved, every node is at its place in the formula. -/
theorem WellFormed.get?_trailSinks (h : g.WellFormed) (hn : n ∈ g.allNodes) :
    (g.trailSinks g.ranks).get? n = some ((g.baseRank n : Int) - g.height) := by
  have hset := Table.get?_foldl_set_of_forall (v := fun n => (g.baseRank n : Int) - g.height)
    (fun t ht n hn => h.trailingRank_eq hn ht) n
  unfold trailSinks
  rw [hset]
  split
  · rfl
  · rename_i hnot
    rw [h.rank_eq hn, baseRank_of_feeding (mt (h.mem_sinks_iff hn).mpr hnot)]
    have hle := depth_le_height hn
    congr 1
    omega

/-! ## Terminals -/

/-- A node is in the way of the terminals of a direction: it has their rank and does not share it. -/
def Crowds (g : Graph) (d : Direction) (rank : Int) (t : Table NodeId Int) : Prop :=
  ∃ n ∈ g.allNodes, t.get? n = some rank ∧ n ∉ g.terminals d ∧ g.sharesFirst d n = false

/-- Counting tells whether a node is in the way. -/
theorem Partitioned.countP_eq_iff (h : g.Partitioned) {d : Direction} {rank : Int} {t : Table NodeId Int} :
    (g.terminals d).countP (Ranks.holds t rank)
        = g.allNodes.countP (fun n => Ranks.holds t rank n && !g.sharesFirst d n) ↔ ¬g.Crowds d rank t := by
  constructor
  · rintro hcount ⟨n, hn, hrank, hterm, hshare⟩
    rcases h.alone_of_countP hcount hn hrank with hmem | hshares
    · exact hterm hmem
    · rw [hshare] at hshares
      exact absurd hshares (by simp)
  · intro halone
    have hheld : ∀ m, Ranks.holds t rank m = true ↔ t.get? m = some rank := fun m => beq_iff_eq
    rw [List.countP_eq_length_filter, List.countP_eq_length_filter]
    refine List.Perm.length_eq ((List.perm_ext_iff_of_nodup ((h.terminals_nodup d).filter _) (h.nodup.filter _)).mpr ?_)
    intro n
    rw [List.mem_filter, List.mem_filter, Bool.and_eq_true, Bool.not_eq_true']
    constructor
    · rintro ⟨hterm, hrank⟩
      obtain ⟨node, hnode, hmark⟩ := h.mem_terminals.mp hterm
      refine ⟨g.terminals_subset d hterm, hrank, ?_⟩
      -- a terminal is no number
      unfold sharesFirst
      rw [hnode, Option.any_some, Node.isConstant_of_isTerminalOf hmark, Bool.and_false]
    · rintro ⟨hn, hrank, hshare⟩
      by_contra hnot
      exact halone ⟨n, hn, (hheld n).mp hrank, fun hterm => hnot ⟨hterm, hrank⟩, hshare⟩

/-- Terminals move to the unused rank if a node is in their way, and to the one in question otherwise. -/
theorem Partitioned.get?_pinTerminals (h : g.Partitioned) {d : Direction} {rank fresh target : Int}
    {t : Table NodeId Int} (htarget : g.Crowds d rank t ∧ target = fresh ∨ ¬g.Crowds d rank t ∧ target = rank)
    (n : NodeId) :
    (g.pinTerminals d rank fresh t).get? n = if n ∈ g.terminals d then some target else t.get? n := by
  unfold pinTerminals
  dsimp only
  rw [Table.get?_foldl_set]
  rcases htarget with ⟨hcrowds, rfl⟩ | ⟨halone, rfl⟩
  · rw [if_neg fun hcount => h.countP_eq_iff.mp hcount hcrowds]
  · rw [if_pos (h.countP_eq_iff.mpr halone)]

/-- The ranks after the input terminals have moved. -/
def frontRanks (g : Graph) : Table NodeId Int :=
  if g.inPorts.isEmpty then g.trailSinks g.ranks
  else g.pinTerminals .input g.ranks.first (g.ranks.first - 1) (g.trailSinks g.ranks)

theorem finalRanks_eq (g : Graph) : g.finalRanks =
    if g.outPorts.isEmpty then g.frontRanks else g.pinTerminals .output 0 1 g.frontRanks := rfl

theorem WellFormed.crowds_inputs_iff (h : g.WellFormed) (hne : g.allNodes ≠ []) :
    g.Crowds .input g.ranks.first (g.trailSinks g.ranks) ↔
      ∃ n ∈ g.allNodes, n ∉ g.inPorts ∧ (g.node? n).any Node.isConstant = false ∧ g.baseRank n = 0 := by
  unfold Crowds
  refine exists_congr fun n => and_congr_right fun hn => ?_
  have hrank : (g.trailSinks g.ranks).get? n = some g.ranks.first ↔ g.baseRank n = 0 := by
    rw [h.get?_trailSinks hn, h.first_eq hne, Option.some.injEq]
    omega
  have hshare : g.sharesFirst .input n = (g.node? n).any Node.isConstant := rfl
  rw [hrank, hshare, and_comm, and_assoc]
  rfl

/-- The rank of a node after the input terminals have moved. -/
theorem WellFormed.get?_frontRanks (h : g.WellFormed) (hn : n ∈ g.allNodes) : g.frontRanks.get? n
    = some (if n ∈ g.inPorts then -(g.height + g.inputGap : Int) else g.baseRank n - g.height) := by
  have hne := List.ne_nil_of_mem hn
  have hcrowds := h.crowds_inputs_iff hne
  unfold frontRanks
  split
  · rename_i hempty
    rw [if_neg (by rw [List.isEmpty_iff.mp hempty]; exact List.not_mem_nil), h.get?_trailSinks hn]
  · rename_i hfull
    have hports : g.inPorts ≠ [] := fun hnil => hfull (List.isEmpty_iff.mpr hnil)
    have htarget : g.Crowds .input g.ranks.first (g.trailSinks g.ranks)
          ∧ -(g.height + g.inputGap : Int) = g.ranks.first - 1
        ∨ ¬g.Crowds .input g.ranks.first (g.trailSinks g.ranks)
          ∧ -(g.height + g.inputGap : Int) = g.ranks.first := by
      unfold inputGap
      rw [hcrowds, h.first_eq hne]
      split
      · rename_i hboth
        exact Or.inl ⟨hboth.2, by omega⟩
      · rename_i hnot
        exact Or.inr ⟨fun hothers => hnot ⟨hports, hothers⟩, by omega⟩
    rw [h.get?_pinTerminals htarget, h.get?_trailSinks hn]
    show (if n ∈ g.inPorts then _ else _) = _
    split
    · rfl
    · rfl

/-- An output terminal beside the input terminals makes room for itself. -/
theorem WellFormed.inputGap_of_flat (h : g.WellFormed) (hin : g.inPorts ≠ []) (hout : g.outPorts ≠ [])
    (hflat : g.height = 0) : g.inputGap = 1 := by
  obtain ⟨n, hn⟩ := List.exists_mem_of_ne_nil _ hout
  obtain ⟨node, hnode, hmark⟩ := (h.mem_outPorts n).mp hn
  have hlisted := g.terminals_subset .output hn
  refine if_pos ⟨hin, n, hlisted, fun hin => h.not_mem_outPorts hin hn, ?_, ?_⟩
  · rw [hnode, Option.any_some, Node.isConstant_of_isTerminalOf hmark]
  · have hle := h.baseRank_le_height n
    omega

theorem mem_body_of_not_terminal (h : n ∈ g.allNodes) (hin : n ∉ g.inPorts) (hout : n ∉ g.outPorts) :
    n ∈ g.body := by
  unfold allNodes at h
  rw [List.mem_append, List.mem_append] at h
  exact (h.resolve_right hout).resolve_left hin

theorem Partitioned.not_mem_of_mem_body (h : g.Partitioned) (hn : n ∈ g.body) : n ∉ g.inPorts ∧ n ∉ g.outPorts := by
  have hnodup := h.nodup
  unfold allNodes at hnodup
  obtain ⟨hfront, -, hback⟩ := List.nodup_append.mp hnodup
  have hdisjoint := (List.nodup_append.mp hfront).2.2
  exact ⟨fun hin => hdisjoint n hin n hn rfl, fun hout => hback n (List.mem_append_right _ hn) n hout rfl⟩

theorem WellFormed.crowds_outputs_iff (h : g.WellFormed) (hout : g.outPorts ≠ []) :
    g.Crowds .output 0 g.frontRanks ↔ ∃ n ∈ g.body, g.baseRank n = g.height := by
  constructor
  · rintro ⟨n, hn, hrank, hterm, -⟩
    rw [h.get?_frontRanks hn, Option.some.injEq] at hrank
    split at hrank
    · -- input terminals at the last rank would have made room
      rename_i hin
      have hgap := h.inputGap_of_flat (List.ne_nil_of_mem hin) hout (by omega)
      omega
    · rename_i hin
      exact ⟨n, mem_body_of_not_terminal hn hin hterm, by omega⟩
  · rintro ⟨n, hn, hlast⟩
    obtain ⟨hin, hterm⟩ := h.not_mem_of_mem_body hn
    have hlisted := g.body_subset hn
    refine ⟨n, hlisted, ?_, hterm, rfl⟩
    rw [h.get?_frontRanks hlisted, if_neg hin, hlast, Int.sub_self]

/-- The rank of a node in the end. -/
def endRank (g : Graph) (n : NodeId) : Int :=
  if n ∈ g.outPorts then g.outputGap
  else if n ∈ g.inPorts then -(g.height + g.inputGap : Int)
  else g.baseRank n - g.height

theorem WellFormed.get?_finalRanks (h : g.WellFormed) (hn : n ∈ g.allNodes) :
    g.finalRanks.get? n = some (g.endRank n) := by
  unfold endRank
  rw [finalRanks_eq]
  split
  · rename_i hempty
    rw [if_neg (by rw [List.isEmpty_iff.mp hempty]; exact List.not_mem_nil), h.get?_frontRanks hn]
  · rename_i hfull
    have hports : g.outPorts ≠ [] := fun hnil => hfull (List.isEmpty_iff.mpr hnil)
    have hcrowds := h.crowds_outputs_iff hports
    have htarget : g.Crowds .output 0 g.frontRanks ∧ (g.outputGap : Int) = 1
        ∨ ¬g.Crowds .output 0 g.frontRanks ∧ (g.outputGap : Int) = 0 := by
      unfold outputGap
      rw [hcrowds]
      split
      · rename_i hboth
        exact Or.inl ⟨hboth.2, rfl⟩
      · rename_i hnot
        exact Or.inr ⟨fun hothers => hnot ⟨hports, hothers⟩, rfl⟩
    rw [h.get?_pinTerminals htarget, h.get?_frontRanks hn]
    show (if n ∈ g.outPorts then _ else _) = _
    split
    · rfl
    · rfl

/-! ## No rank is vacated -/

/-- A node lies on a longest way, behind so many connections. -/
structure OnLongest (g : Graph) (i : Nat) (n : NodeId) : Prop where
  mem : n ∈ g.allNodes
  depth : g.depth n = g.height - i
  fed : 0 < i → ∃ p, g.Feeds p n ∧ g.depth p = g.height - i + 1

/-- A node whose depth is not zero feeds one that is less deep by one. -/
theorem WellFormed.exists_feeds_of_depth (h : g.WellFormed) (hn : n ∈ g.allNodes) {k : Nat} (hk : g.depth n = k + 1) :
    ∃ m ∈ g.allNodes, g.Feeds n m ∧ g.depth m = k := by
  have hdown : g.Descends n (k + 1) := hk ▸ (h.depth_greatest hn).1
  cases hdown with
  | @step _ m _ hfeeds hdown =>
      have hm := h.mem_allNodes.mpr (h.feeds_dst_present hfeeds)
      have hge := (h.depth_greatest hm).2 hdown
      have hlt := h.depth_lt_of_feeds hfeeds
      exact ⟨m, hm, hfeeds, by omega⟩

theorem WellFormed.exists_onLongest (h : g.WellFormed) (hne : g.allNodes ≠ []) {i : Nat} (hi : i ≤ g.height) :
    ∃ n, g.OnLongest i n := by
  induction i with
  | zero =>
      obtain ⟨n, hn, htop⟩ := (height_greatest hne).1
      exact ⟨n, hn, htop, fun hlt => absurd hlt (Nat.lt_irrefl 0)⟩
  | succ i ih =>
      obtain ⟨n, hn⟩ := ih (by omega)
      have hdepth := hn.depth
      obtain ⟨m, hm, hfeeds, hm'⟩ := h.exists_feeds_of_depth (k := g.height - (i + 1)) hn.mem (by omega)
      exact ⟨m, hm, hm', fun _ => ⟨n, hfeeds, by omega⟩⟩

/-- A node on a longest way has its place there, and an output unless it is the last one. -/
theorem OnLongest.baseRank_eq (h : g.WellFormed) {i : Nat} (hi : i ≤ g.height) (hn : g.OnLongest i n) :
    g.baseRank n = i ∧ (i < g.height → ∃ m, g.Feeds n m) := by
  have hdepth := hn.depth
  rcases Nat.eq_zero_or_pos (g.depth n) with hlast | hpos
  · have hbottom : i = g.height := by omega
    refine ⟨?_, fun hlt => absurd hbottom (Nat.ne_of_lt hlt)⟩
    have hle := h.baseRank_le_height n
    rcases Nat.eq_zero_or_pos i with hzero | hpos
    · omega
    · -- the last node of a longest way stands behind the one before it
      obtain ⟨p, hfeeds, hp⟩ := hn.fed hpos
      have hsink : g.successors n = [] := by
        rw [h.successors_eq_nil_iff]
        rintro ⟨m, hm⟩
        have hlt := h.depth_lt_of_feeds hm
        omega
      have hmem := h.mem_predecessors.mpr hfeeds
      have hge := (baseRank_of_fed hsink (List.ne_nil_of_mem hmem)).2 p hmem
      omega
  · obtain ⟨m, -, hfeeds, -⟩ := h.exists_feeds_of_depth (k := g.depth n - 1) hn.mem (by omega)
    refine ⟨?_, fun _ => ⟨m, hfeeds⟩⟩
    rw [baseRank_of_feeding fun hnil => h.successors_eq_nil_iff.mp hnil ⟨m, hfeeds⟩]
    omega

theorem endRank_of_mem_body (h : g.Partitioned) (hn : n ∈ g.body) : g.endRank n = g.baseRank n - g.height := by
  obtain ⟨hin, hout⟩ := h.not_mem_of_mem_body hn
  unfold endRank
  rw [if_neg hout, if_neg hin]

theorem endRank_of_mem_inPorts (h : g.Partitioned) (hn : n ∈ g.inPorts) :
    g.endRank n = -(g.height + g.inputGap : Int) := by
  unfold endRank
  rw [if_neg (h.not_mem_outPorts hn), if_pos hn]

theorem endRank_of_mem_outPorts (hn : n ∈ g.outPorts) : g.endRank n = g.outputGap := if_pos hn

theorem WellFormed.predecessors_of_mem_inPorts (h : g.WellFormed)
    (hshape : ∀ n node, g.node? n = some node → node.OnePort) (hn : n ∈ g.inPorts) : ∀ p, ¬g.Feeds p n := by
  obtain ⟨node, hnode, hmark⟩ := (h.mem_inPorts n).mp hn
  exact h.not_feeds_of_inputs hnode ((hshape n node hnode).1 hmark).1

theorem WellFormed.successors_of_mem_outPorts (h : g.WellFormed)
    (hshape : ∀ n node, g.node? n = some node → node.OnePort) (hn : n ∈ g.outPorts) : g.successors n = [] := by
  obtain ⟨node, hnode, hmark⟩ := (h.mem_outPorts n).mp hn
  rw [h.successors_eq_nil_iff, not_exists]
  exact h.not_feeds_of_outputs hnode ((hshape n node hnode).2 hmark).2

/-- The last rank of the formula is not vacated by output terminals. -/
theorem WellFormed.exists_endRank_last (h : g.WellFormed) (hout : g.outPorts ≠ []) :
    ∃ n ∈ g.allNodes, g.endRank n = 0 := by
  by_cases hcrowded : ∃ n ∈ g.body, g.baseRank n = g.height
  · obtain ⟨n, hn, hlast⟩ := hcrowded
    refine ⟨n, g.body_subset hn, ?_⟩
    rw [endRank_of_mem_body h.toPartitioned hn, hlast, Int.sub_self]
  · obtain ⟨n, hn⟩ := List.exists_mem_of_ne_nil _ hout
    refine ⟨n, g.terminals_subset .output hn, ?_⟩
    have hgap : g.outputGap = 0 := if_neg fun hboth => hcrowded hboth.2
    rw [endRank_of_mem_outPorts hn, hgap]
    rfl

/-- No output terminal is at the first rank of the formula unless there is one rank only. -/
theorem WellFormed.height_of_first (h : g.WellFormed) (hshape : ∀ n node, g.node? n = some node → node.OnePort)
    (hout : n ∈ g.outPorts) (hfirst : g.baseRank n = 0) : g.height = 0 := by
  have hsink := h.successors_of_mem_outPorts hshape hout
  by_cases hfree : g.predecessors n = []
  · rw [baseRank_of_isolated hsink hfree] at hfirst
    omega
  · obtain ⟨⟨p, -, heq⟩, -⟩ := baseRank_of_fed hsink hfree
    omega

/-- The first rank of the formula is not vacated by input terminals. -/
theorem WellFormed.exists_endRank_first (h : g.WellFormed)
    (hshape : ∀ n node, g.node? n = some node → node.OnePort) (hin : g.inPorts ≠ []) :
    ∃ n ∈ g.allNodes, g.endRank n = -(g.height : Int) := by
  by_cases hgap : g.inputGap = 0
  · obtain ⟨n, hn⟩ := List.exists_mem_of_ne_nil _ hin
    refine ⟨n, g.terminals_subset .input hn, ?_⟩
    rw [endRank_of_mem_inPorts h.toPartitioned hn, hgap]
    omega
  · have hothers : ∃ n ∈ g.allNodes, n ∉ g.inPorts ∧ (g.node? n).any Node.isConstant = false ∧ g.baseRank n = 0 := by
      by_contra hnone
      exact hgap (if_neg fun hboth => hnone hboth.2)
    obtain ⟨n, hn, hnot, -, hfirst⟩ := hothers
    by_cases hout : n ∈ g.outPorts
    · -- an output terminal at the first rank has no input, and the middle is there if nothing has one
      have hflat := h.height_of_first hshape hout hfirst
      obtain ⟨m, hm, hlast⟩ := h.exists_endRank_last (List.ne_nil_of_mem hout)
      exact ⟨m, hm, by omega⟩
    · have hbody := mem_body_of_not_terminal hn hnot hout
      refine ⟨n, hn, ?_⟩
      rw [endRank_of_mem_body h.toPartitioned hbody, hfirst]
      omega

/-- No rank of the formula is vacated: a longest way passes through it, and has terminals at its ends only. -/
theorem WellFormed.exists_endRank_inside (h : g.WellFormed)
    (hshape : ∀ n node, g.node? n = some node → node.OnePort) (hne : g.allNodes ≠ []) {i : Nat} (hi : i ≤ g.height) :
    ∃ n ∈ g.allNodes, g.endRank n = i - g.height := by
  obtain ⟨n, hn⟩ := h.exists_onLongest hne hi
  obtain ⟨hbase, hfeeds⟩ := hn.baseRank_eq h hi
  by_cases hin : n ∈ g.inPorts
  · have hfirst : i = 0 := by
      by_contra hpos
      obtain ⟨p, hp, -⟩ := hn.fed (Nat.pos_of_ne_zero hpos)
      exact h.predecessors_of_mem_inPorts hshape hin p hp
    rw [hfirst, Int.ofNat_zero, Int.zero_sub]
    exact h.exists_endRank_first hshape (List.ne_nil_of_mem hin)
  · by_cases hout : n ∈ g.outPorts
    · have hlast : i = g.height := by
        by_contra hne
        obtain ⟨m, hm⟩ := hfeeds (Nat.lt_of_le_of_ne hi hne)
        exact h.successors_eq_nil_iff.mp (h.successors_of_mem_outPorts hshape hout) ⟨m, hm⟩
      rw [hlast, Int.sub_self]
      exact h.exists_endRank_last (List.ne_nil_of_mem hout)
    · refine ⟨n, hn.mem, ?_⟩
      rw [endRank_of_mem_body h.toPartitioned (mem_body_of_not_terminal hn.mem hin hout), hbase]

theorem WellFormed.endRank_bounds (h : g.WellFormed) (n : NodeId) :
    -(g.height + g.inputGap : Int) ≤ g.endRank n ∧ g.endRank n ≤ g.outputGap := by
  have hle := h.baseRank_le_height n
  unfold endRank
  split
  · omega
  · split
    · omega
    · omega

/-- The ranks that nodes have in the end are those between the ranks of the terminals, without gaps. -/
theorem WellFormed.exists_endRank_iff (h : g.WellFormed) (hshape : ∀ n node, g.node? n = some node → node.OnePort)
    (hne : g.allNodes ≠ []) (rank : Int) : (∃ n ∈ g.allNodes, g.endRank n = rank)
      ↔ -(g.height + g.inputGap : Int) ≤ rank ∧ rank ≤ g.outputGap := by
  constructor
  · rintro ⟨n, -, rfl⟩
    exact h.endRank_bounds n
  · rintro ⟨hlow, hhigh⟩
    rcases Int.lt_or_le rank (-(g.height : Int)) with hfront | hfront
    · obtain hgap | ⟨hgap, hin⟩ := g.inputGap_cases
      · omega
      · obtain ⟨n, hn⟩ := List.exists_mem_of_ne_nil _ hin
        refine ⟨n, g.terminals_subset .input hn, ?_⟩
        rw [endRank_of_mem_inPorts h.toPartitioned hn]
        omega
    · rcases Int.lt_or_le 0 rank with hback | hback
      · obtain hgap | ⟨hgap, hout⟩ := g.outputGap_cases
        · omega
        · obtain ⟨n, hn⟩ := List.exists_mem_of_ne_nil _ hout
          refine ⟨n, g.terminals_subset .output hn, ?_⟩
          rw [endRank_of_mem_outPorts hn]
          omega
      · obtain ⟨n, hn, hrank⟩ :=
          h.exists_endRank_inside hshape hne (show (rank + g.height).toNat ≤ g.height by omega)
        exact ⟨n, hn, by omega⟩

end Graph

/-! ## From ranks to layers -/

/-- The layers of a graph are told by depths. -/
structure Layering.Measures (l : Layering) (g : Graph) : Prop where
  /-- The depth of a node is the length of a longest way down from it. -/
  depth : ∀ n ∈ g.allNodes, IsGreatest {k | g.Descends n k} (g.depth n)
  /-- The height is the greatest depth. -/
  height : IsGreatest {k | ∃ n ∈ g.allNodes, g.depth n = k} g.height
  /-- What is no terminal stands where its distance from the first layer tells, behind the gap. -/
  body : ∀ n ∈ g.body, l.layerOf? n = some (g.inputGap + g.baseRank n)
  /-- Input terminals are in front of everything. -/
  inPorts : ∀ n ∈ g.inPorts, l.layerOf? n = some 0
  /-- Output terminals are behind everything. -/
  outPorts : ∀ n ∈ g.outPorts, l.layerOf? n = some (g.inputGap + g.height + g.outputGap)
  /-- There are as many layers as the height and the gaps ask for. -/
  size : l.size = g.height + 1 + g.inputGap + g.outputGap
  /-- No layer is empty. -/
  nonempty : [] ∉ l.layers

namespace Graph

variable {g : Graph} {n : NodeId}

/-- The ranks that become layers, one after the other. -/
theorem WellFormed.mem_usedRanks_iff (h : g.WellFormed) (hshape : ∀ n node, g.node? n = some node → node.OnePort)
    (hne : g.allNodes ≠ []) {low high : Int} (ht : g.Ranked low high g.finalRanks) (rank : Int) :
    rank ∈ usedRanks g.finalRanks ↔ -(g.height + g.inputGap : Int) ≤ rank
      ∧ rank < -(g.height + g.inputGap : Int) + (g.height + 1 + g.inputGap + g.outputGap : Nat) := by
  have hrange : (∃ n ∈ g.allNodes, g.endRank n = rank) ↔ -(g.height + g.inputGap : Int) ≤ rank
      ∧ rank < -(g.height + g.inputGap : Int) + (g.height + 1 + g.inputGap + g.outputGap : Nat) :=
    (h.exists_endRank_iff hshape hne rank).trans (and_congr_right fun _ => by omega)
  rw [ht.mem_usedRanks, ← hrange]
  refine exists_congr fun n => ?_
  rw [exists_and_right, ← h.mem_allNodes]
  refine and_congr_right fun hn => ?_
  rw [h.get?_finalRanks hn, Option.some.injEq]

/-- The layer of a node counts from the first rank. -/
theorem WellFormed.layerOf?_eq (h : g.WellFormed) (hshape : ∀ n node, g.node? n = some node → node.OnePort)
    (hn : n ∈ g.allNodes) {i : Nat} (hi : i < g.height + 1 + g.inputGap + g.outputGap)
    (hrank : g.endRank n = -(g.height + g.inputGap : Int) + i) : g.assignLayers.layerOf? n = some i := by
  obtain ⟨low, high, ht⟩ := h.finalRanks_ends hshape
  have hplace := (sorted_interval (usedRanks_sorted _)
    (h.mem_usedRanks_iff hshape (List.ne_nil_of_mem hn) ht.toRanked)).2 i hi
  exact (ht.layerOf?_eq_some_iff h.toPartitioned).mpr ⟨_, h.get?_finalRanks hn, hrank ▸ hplace⟩

theorem WellFormed.assignLayers_measures (h : g.WellFormed)
    (hshape : ∀ n node, g.node? n = some node → node.OnePort) (hne : g.allNodes ≠ []) :
    g.assignLayers.Measures g := by
  obtain ⟨low, high, ht⟩ := h.finalRanks_ends hshape
  refine ⟨fun n hn => h.depth_greatest hn, height_greatest hne, ?_, ?_, ?_, ?_, h.layers_nonempty ht.toRanked⟩
  · intro n hn
    have hle := h.baseRank_le_height n
    have hrank := endRank_of_mem_body h.toPartitioned hn
    exact h.layerOf?_eq hshape (g.body_subset hn) (by omega) (by omega)
  · intro n hn
    have hrank := endRank_of_mem_inPorts h.toPartitioned hn
    exact h.layerOf?_eq hshape (g.terminals_subset .input hn) (by omega) (by omega)
  · intro n hn
    have hrank := endRank_of_mem_outPorts hn
    exact h.layerOf?_eq hshape (g.terminals_subset .output hn) (by omega) (by omega)
  · exact (ht.layers_length h.toPartitioned).trans
      (sorted_interval (usedRanks_sorted _) (h.mem_usedRanks_iff hshape hne ht.toRanked)).1

/--
**Layers are told by depths.** This holds of every graph that passes the check and is not empty, whether it was new or
read at first, and whatever edits were made to it. A node that feeds others is as far from the first layer as its
longest way down is shorter than the longest of all. One that feeds nothing follows the last of its inputs, or stands in
the middle if it has none. Terminals have a layer of their own if another node is in their way.
-/
theorem layers_measure_depths (hg : g.Attained) (hcheck : g.checkInvariants = .ok ()) (hne : g.allNodes ≠ []) :
    g.assignLayers.Measures g := by
  have hwf := hg.wellFormed
  exact hwf.assignLayers_measures (fun n node hn => hwf.onePort_of_check hcheck hn) hne

/--
A source that is further from the output than the input is, a meter beside the output, and a node to which nothing is
connected.
-/
def unevenEdits : List Edit :=
  [.insert .input 0 "x", .add (.ofNames ⟨"noise", "white"⟩ [] [""]), .add (.ofNames ⟨"math", "abs"⟩ [""] [""]),
    .add (.ofNames ⟨"mix", "two"⟩ ["a", "b"] ["sum", "difference"]), .add (.ofNames ⟨"meter", "peak"⟩ [""] []),
    .add (.ofNames ⟨"math", "sqrt"⟩ [""] [""]), .insert .output 0 "y", .connect ⟨⟨1⟩, 0⟩ ⟨⟨2⟩, 0⟩,
    .connect ⟨⟨0⟩, 0⟩ ⟨⟨3⟩, 0⟩, .connect ⟨⟨2⟩, 0⟩ ⟨⟨3⟩, 1⟩, .connect ⟨⟨3⟩, 0⟩ ⟨⟨4⟩, 0⟩, .connect ⟨⟨3⟩, 1⟩ ⟨⟨6⟩, 0⟩]

theorem uneven_assignLayers : ((empty "uneven").run unevenEdits).assignLayers = {
    layers := [[⟨0⟩], [⟨1⟩], [⟨2⟩], [⟨5⟩, ⟨3⟩], [⟨4⟩], [⟨6⟩]]
    nodeLayers := .ofList [(⟨4⟩, 4), (⟨3⟩, 3), (⟨0⟩, 0), (⟨2⟩, 2), (⟨1⟩, 1), (⟨5⟩, 3), (⟨6⟩, 5)] } :=
  assignLayers_of_ranks [-4, -3, -2, -1, 0, 1] [[⟨0⟩], [⟨1⟩], [⟨2⟩], [⟨3⟩, ⟨5⟩], [⟨4⟩], [⟨6⟩]] (by decide +kernel)
    (by decide +kernel) (by decide +kernel) (by decide +kernel) (by cbv)

/-- The source and the meter are in the way of the terminals, and both make room for themselves. -/
theorem uneven_layers :
    ((empty "uneven").run unevenEdits).assignLayers.Measures ((empty "uneven").run unevenEdits)
      ∧ ((empty "uneven").run unevenEdits).assignLayers.layers
        = [[⟨0⟩], [⟨1⟩], [⟨2⟩], [⟨5⟩, ⟨3⟩], [⟨4⟩], [⟨6⟩]] := by
  have hedits : ((empty "uneven").run unevenEdits).Reachable fun e => e.Clean ∧ e.OnePort := by
    refine ⟨"uneven", unevenEdits, ?_, roomFor_of_length (by decide) (by decide), rfl⟩
    intro e he
    simp only [unevenEdits, List.mem_cons, List.not_mem_nil, or_false] at he
    rcases he with rfl | rfl | rfl | rfl | rfl | rfl | rfl | rfl | rfl | rfl | rfl | rfl
    all_goals first
      | exact ⟨trivial, trivial⟩
      | exact ⟨Node.ofNames_unconnected _ _ _, by decide, by decide⟩
  have hattained := (hedits.mono fun _ he => he.1).attained
  refine ⟨layers_measure_depths hattained hedits.checkInvariants (by decide +kernel), ?_⟩
  rw [uneven_assignLayers]

end Graph

end SignalGraph
