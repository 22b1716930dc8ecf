import SignalGraph.Proofs.Factory
import SignalGraph.Proofs.Graph.Checking
import SignalGraph.Proofs.Layering.Rising

/-!
# Terminals at the ends

The terminals of a direction move to the first or the last rank if no other node is there, and to a new rank
next to it otherwise. Whether others are there is found by counting. Input terminals are fed by nothing and
output terminals feed nothing, so ranks still rise along connections (`finalRanks_ends`).
-/

namespace SignalGraph

namespace Graph

variable {g : Graph}

/-! ## Counting the occupants -/

theorem terminals_subset (g : Graph) (d : Direction) : g.terminals d ⊆ g.allNodes := by
  intro n hn
  unfold allNodes
  rw [List.mem_append, List.mem_append]
  cases d with
  | input => exact Or.inl (Or.inl hn)
  | output => exact Or.inr hn

theorem body_subset (g : Graph) : g.body ⊆ g.allNodes :=
  fun _ hn => List.mem_append_left _ (List.mem_append_right _ hn)

theorem Partitioned.terminals_nodup (h : g.Partitioned) (d : Direction) : (g.terminals d).Nodup := by
  have hnodup := h.nodup
  unfold allNodes at hnodup
  cases d with
  | input => exact (List.nodup_append.mp (List.nodup_append.mp hnodup).1).1
  | output => exact (List.nodup_append.mp hnodup).2.1

theorem Partitioned.mem_terminals (h : g.Partitioned) {d : Direction} {n : NodeId} :
    n ∈ g.terminals d ↔ ∃ node, g.node? n = some node ∧ node.isTerminalOf d = true := by
  cases d with
  | input => exact h.mem_inPorts n
  | output => exact h.mem_outPorts n

/-- If as many terminals are counted as occupants of a rank, there is no occupant but them. -/
theorem Partitioned.alone_of_countP (h : g.Partitioned) {d : Direction} {rank : Int} {t : Table NodeId Int}
    (hcount : (g.terminals d).countP (Ranks.holds t rank)
      = g.allNodes.countP fun n => Ranks.holds t rank n && !g.sharesFirst d n)
    {n : NodeId} (hn : n ∈ g.allNodes) (hrank : t.get? n = some rank) :
    n ∈ g.terminals d ∨ g.sharesFirst d n = true := by
  have hheld : ∀ m, Ranks.holds t rank m = true ↔ t.get? m = some rank := fun m => beq_iff_eq
  have hsub : (g.terminals d).filter (Ranks.holds t rank)
      ⊆ g.allNodes.filter fun m => Ranks.holds t rank m && !g.sharesFirst d m := by
    intro m hm
    obtain ⟨hterm, hm⟩ := List.mem_filter.mp hm
    refine List.mem_filter.mpr ⟨g.terminals_subset d hterm, ?_⟩
    obtain ⟨node, hnode, hmark⟩ := h.mem_terminals.mp hterm
    unfold sharesFirst
    rw [hnode, Option.any_some, Node.isConstant_of_isTerminalOf hmark, Bool.and_false]
    simpa using hm
  -- a sublist of the same length is the whole list
  have hperm := (List.subperm_of_subset ((h.terminals_nodup d).filter _) hsub).perm_of_length_le (by
    rw [← List.countP_eq_length_filter, ← List.countP_eq_length_filter, hcount])
  cases hshare : g.sharesFirst d n with
  | true => exact Or.inr rfl
  | false =>
      have hin := hperm.mem_iff.mpr (List.mem_filter.mpr ⟨hn, by simp [hshare, (hheld n).mpr hrank]⟩)
      exact Or.inl (List.mem_filter.mp hin).1

/-! ## Moving the terminals -/

/--
The terminals of a direction come to one rank. It is the given rank if whatever holds that may share it, and
the unused one otherwise.
-/
theorem Partitioned.exists_target (h : g.Partitioned) (d : Direction) (rank fresh : Int) (t : Table NodeId Int) :
    ∃ target, g.pinTerminals d rank fresh t = (g.terminals d).foldl (fun t n => t.set n target) t
      ∧ (target = fresh ∨ target = rank ∧ ∀ n ∈ g.allNodes, t.get? n = some rank →
          n ∈ g.terminals d ∨ g.sharesFirst d n = true) := by
  unfold pinTerminals
  dsimp only
  split
  · rename_i hcount
    refine ⟨rank, rfl, Or.inr ⟨rfl, ?_⟩⟩
    intro n hn hrank
    exact h.alone_of_countP hcount hn hrank
  · exact ⟨fresh, rfl, Or.inl rfl⟩

/-- The input terminals have a rank that numbers share at most. -/
structure InputsAt (g : Graph) (rank : Int) (t : Table NodeId Int) : Prop where
  inputs : ∀ n ∈ g.inPorts, t.get? n = some rank
  others : ∀ n, t.get? n = some rank →
    n ∈ g.inPorts ∨ ∃ node, g.node? n = some node ∧ node.isConstant = true

/-- The output terminals have a rank to themselves. -/
def OutputsAt (g : Graph) (rank : Int) (t : Table NodeId Int) : Prop :=
  ∀ n, t.get? n = some rank ↔ n ∈ g.outPorts

theorem Registered.not_feeds_of_inputs (h : g.Registered) {n : NodeId} {node : Node}
    (hn : g.node? n = some node) (hinputs : node.inputs.length = 0) (p : NodeId) : ¬ g.Feeds p n := by
  rintro ⟨c, ends, hends, -, rfl⟩
  obtain ⟨cs, hcs⟩ := h.dst_listed c ends hends
  obtain ⟨found, hfound, hlt⟩ := exists_incoming?_iff.mp ⟨cs, hcs⟩
  rw [hn] at hfound
  injection hfound with hfound
  rw [← hfound] at hlt
  omega

theorem Registered.not_feeds_of_outputs (h : g.Registered) {n : NodeId} {node : Node}
    (hn : g.node? n = some node) (houtputs : node.outputs.length = 0) (m : NodeId) : ¬ g.Feeds n m := by
  rintro ⟨c, ends, hends, rfl, -⟩
  obtain ⟨cs, hcs⟩ := h.src_listed c ends hends
  obtain ⟨found, hfound, hlt⟩ := exists_outgoing?_iff.mp ⟨cs, hcs⟩
  rw [hn] at hfound
  injection hfound with hfound
  rw [← hfound] at hlt
  omega

section Pinning

variable {first last fresh : Int} {t : Table NodeId Int}

/-- The input terminals move to the front. -/
theorem WellFormed.pin_inputs (h : g.WellFormed) (hshape : ∀ n node, g.node? n = some node → node.OnePort)
    (ht : g.Ranked first last t) (hfresh : fresh < first) :
    ∃ low, g.Ranked low last (g.pinTerminals .input first fresh t)
      ∧ g.InputsAt low (g.pinTerminals .input first fresh t) := by
  obtain ⟨low, heq, hlow⟩ := h.exists_target .input first fresh t
  have hle : low ≤ first := by
    rcases hlow with hlow | ⟨hlow, -⟩
    · omega
    · omega
  rw [heq]
  refine ⟨low, ?_, ?_, ?_⟩
  · refine List.foldlRecOn _ _ (ht.mono hle (Int.le_refl last)) ?_
    intro t ht n hn
    obtain ⟨node, hnode, hmark⟩ := (h.mem_inPorts n).mp hn
    exact ht.setFirst h.acyclic ((ht.mem_keys n).mpr ⟨node, hnode⟩)
      (h.not_feeds_of_inputs hnode ((hshape n node hnode).1 hmark).1)
  · intro n hn
    rw [Table.get?_foldl_set]
    exact if_pos hn
  · intro n hn
    rw [Table.get?_foldl_set] at hn
    split at hn
    · rename_i hterm
      exact Or.inl hterm
    · rcases hlow with hlow | ⟨hlow, halone⟩
      · have hbelow := ht.first_le n low hn
        omega
      · obtain ⟨node, hnode⟩ := (ht.mem_keys n).mp (Table.mem_keys_iff.mpr ⟨low, hn⟩)
        rw [hlow] at hn
        refine (halone n (h.mem_allNodes.mpr ⟨node, hnode⟩) hn).imp_right ?_
        intro hshare
        unfold sharesFirst at hshare
        rw [hnode, Option.any_some] at hshare
        exact ⟨node, hnode, (Bool.and_eq_true_iff.mp hshare).2⟩

/-- The output terminals move to the back, and nothing else moves. -/
theorem WellFormed.pin_outputs (h : g.WellFormed) (hshape : ∀ n node, g.node? n = some node → node.OnePort)
    (ht : g.Ranked first last t) (hfresh : last < fresh) :
    ∃ high, g.Ranked first high (g.pinTerminals .output last fresh t)
      ∧ g.OutputsAt high (g.pinTerminals .output last fresh t)
      ∧ ∀ n, n ∉ g.outPorts → (g.pinTerminals .output last fresh t).get? n = t.get? n := by
  obtain ⟨high, heq, hhigh⟩ := h.exists_target .output last fresh t
  have hle : last ≤ high := by
    rcases hhigh with hhigh | ⟨hhigh, -⟩
    · omega
    · omega
  rw [heq]
  refine ⟨high, ?_, ?_, ?_⟩
  · refine List.foldlRecOn _ _ (ht.mono (Int.le_refl first) hle) ?_
    intro t ht n hn
    obtain ⟨node, hnode, hmark⟩ := (h.mem_outPorts n).mp hn
    exact ht.setLast h.acyclic ((ht.mem_keys n).mpr ⟨node, hnode⟩)
      (h.not_feeds_of_outputs hnode ((hshape n node hnode).2 hmark).2)
  · intro n
    rw [Table.get?_foldl_set]
    split
    · rename_i hterm
      exact iff_of_true rfl hterm
    · rename_i hterm
      refine iff_of_false ?_ hterm
      intro hn
      rcases hhigh with hhigh | ⟨hhigh, halone⟩
      · have habove := ht.le_last n high hn
        omega
      · obtain ⟨node, hnode⟩ := (ht.mem_keys n).mp (Table.mem_keys_iff.mpr ⟨high, hn⟩)
        rw [hhigh] at hn
        -- a number waits for no input, but it is no output either
        rcases halone n (h.mem_allNodes.mpr ⟨node, hnode⟩) hn with hout | hshare
        · exact hterm hout
        · exact absurd hshare (by simp [sharesFirst])
  · intro n hn
    rw [Table.get?_foldl_set]
    exact if_neg hn

end Pinning

/-! ## The ranks of a layering -/

theorem Partitioned.not_mem_outPorts (h : g.Partitioned) {n : NodeId} (hn : n ∈ g.inPorts) : n ∉ g.outPorts := by
  intro hn'
  have hdisjoint := (List.nodup_append.mp h.nodup).2.2
  exact hdisjoint n (List.mem_append_left _ hn) n hn' rfl

/-- Input terminals keep their rank when the output terminals move to the back. -/
theorem InputsAt.of_outputsAt (h : g.Partitioned) {low high : Int} {t t' : Table NodeId Int}
    (hin : g.InputsAt low t) (hout : g.OutputsAt high t') (hkept : ∀ n, n ∉ g.outPorts → t'.get? n = t.get? n)
    (hne : g.inPorts ≠ []) : g.InputsAt low t' := by
  have hinputs : ∀ n ∈ g.inPorts, t'.get? n = some low :=
    fun n hn => (hkept n (h.not_mem_outPorts hn)).trans (hin.inputs n hn)
  refine ⟨hinputs, ?_⟩
  intro n hn
  by_cases hterm : n ∈ g.outPorts
  · -- both ends would be one rank, and an input terminal would be an output terminal
    obtain ⟨i, hi⟩ := List.exists_mem_of_ne_nil _ hne
    have hsame := ((hout n).mpr hterm).symm.trans hn
    injection hsame with hsame
    exact absurd ((hout i).mp (hsame ▸ hinputs i hi)) (h.not_mem_outPorts hi)
  · rw [hkept n hterm] at hn
    exact hin.others n hn

/-- Ranks that rise along connections, with the terminals at both ends. -/
structure RankedEnds (g : Graph) (low high : Int) (t : Table NodeId Int) : Prop extends g.Ranked low high t where
  inputsAt : g.inPorts ≠ [] → g.InputsAt low t
  outputsAt : g.outPorts ≠ [] → g.OutputsAt high t

theorem WellFormed.finalRanks_ends (h : g.WellFormed)
    (hshape : ∀ n node, g.node? n = some node → node.OnePort) :
    ∃ low high, g.RankedEnds low high g.finalRanks := by
  have hpinned : ∃ low t, t = (if g.inPorts.isEmpty then g.trailSinks g.ranks
      else g.pinTerminals .input g.ranks.first (g.ranks.first - 1) (g.trailSinks g.ranks))
      ∧ g.Ranked low 0 t ∧ (g.inPorts ≠ [] → g.InputsAt low t) := by
    split
    · rename_i hempty
      exact ⟨_, _, rfl, h.trailSinks_ranked, fun hne => absurd (List.isEmpty_iff.mp hempty) hne⟩
    · obtain ⟨low, hranked, hin⟩ := h.pin_inputs hshape h.trailSinks_ranked (Int.sub_one_lt_of_le (Int.le_refl _))
      exact ⟨low, _, rfl, hranked, fun _ => hin⟩
  obtain ⟨low, t, ht, hranked, hin⟩ := hpinned
  unfold finalRanks
  dsimp only
  rw [← ht]
  split
  · rename_i hempty
    exact ⟨low, 0, hranked, hin, fun hne => absurd (List.isEmpty_iff.mp hempty) hne⟩
  · obtain ⟨high, hranked', hout, hkept⟩ := h.pin_outputs hshape hranked Int.one_pos
    exact ⟨low, high, hranked', fun hne => (hin hne).of_outputsAt h.toPartitioned hout hkept hne, fun _ => hout⟩

end Graph

end SignalGraph
