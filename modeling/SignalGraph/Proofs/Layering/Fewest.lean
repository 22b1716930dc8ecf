import Mathlib.Order.Lattice.Nat
import SignalGraph.Proofs.Layering.Formula

/-!
# How few layers a graph needs

Nodes can be divided into layers in many ways that have connections rise and terminals at the ends (`Layered`). In all
of them a node is held off from the first layer by the chains of connections that lead to it (`HeldOff`), and no node
has to stand further off than the longest of them holds it (`earliest`).

A longest chain of the graph takes as many layers as there are between the terminals, so no division has fewer than
those. Only the layer that was opened behind for output terminals may be saved: a node that feeds nothing stands just
behind its inputs, and these stand as far back as what they feed allows. With another place for both of them, the last
layer may have had room enough (`layers_fewest_iff`).
-/

namespace SignalGraph

namespace Graph

/-- A division of the nodes into `k` layers, with terminals at both ends and only numbers beside input terminals. -/
structure Layered (g : Graph) (k : Nat) (f : NodeId → Nat) : Prop where
  lt : ∀ n ∈ g.allNodes, f n < k
  rising : ∀ m n, g.Feeds m n → f m < f n
  inputs : ∀ n ∈ g.inPorts, f n = 0
  front : g.inPorts ≠ [] → ∀ n ∈ g.allNodes, f n = 0 → n ∈ g.inPorts ∨ (g.node? n).any Node.isConstant = true
  outputs : ∀ n ∈ g.outPorts, f n = k - 1
  back : g.outPorts ≠ [] → ∀ n ∈ g.allNodes, f n = k - 1 → n ∈ g.outPorts

/-- The first layer that a node may stand in, whatever leads to it. -/
def lowest (g : Graph) (n : NodeId) : Nat :=
  if g.inPorts ≠ [] ∧ n ∉ g.inPorts ∧ (g.node? n).any Node.isConstant = false then 1 else 0

/-- A chain of connections that leads to a node holds it off so far from the first layer. -/
inductive HeldOff (g : Graph) : NodeId → Nat → Prop where
  | alone (n : NodeId) : HeldOff g n (g.lowest n)
  | behind {m n : NodeId} {k : Nat} (hfeeds : g.Feeds m n) (h : HeldOff g m k) : HeldOff g n (k + 1)

variable {g : Graph} {n : NodeId} {k : Nat}

/-! ## Chains take layers -/

theorem Layered.lowest_le {f : NodeId → Nat} (hf : g.Layered k f) (hn : n ∈ g.allNodes) : g.lowest n ≤ f n := by
  unfold lowest
  split
  · rename_i hfar
    obtain ⟨hin, hnot, hnumber⟩ := hfar
    refine Nat.pos_of_ne_zero fun hzero => ?_
    rcases hf.front hin n hn hzero with hmem | hconst
    · exact hnot hmem
    · rw [hnumber] at hconst
      exact absurd hconst (by simp)
  · exact Nat.zero_le _

/-- No division brings a node nearer to the first layer than a chain allows. -/
theorem Layered.le_of_heldOff (h : g.WellFormed) {f : NodeId → Nat} (hf : g.Layered k f) {i : Nat}
    (hi : g.HeldOff n i) (hn : n ∈ g.allNodes) : i ≤ f n := by
  induction hi with
  | alone n => exact hf.lowest_le hn
  | @behind m n i hfeeds _ ih =>
      have hrest := ih (h.mem_allNodes.mpr (h.feeds_src_present hfeeds))
      have hstep := hf.rising m n hfeeds
      omega

/-- The end of a way down is held off by the whole way. -/
theorem HeldOff.descend (h : g.WellFormed) {i : Nat} (hdown : g.Descends n k) (hn : n ∈ g.allNodes)
    (hi : g.HeldOff n i) : ∃ m ∈ g.allNodes, g.HeldOff m (i + k) := by
  induction hdown generalizing i with
  | stay n => exact ⟨n, hn, hi⟩
  | @step n m k hfeeds _ ih =>
      obtain ⟨last, hlast, hheld⟩ := ih (h.mem_allNodes.mpr (h.feeds_dst_present hfeeds)) (.behind hfeeds hi)
      refine ⟨last, hlast, ?_⟩
      have hsum : i + 1 + k = i + (k + 1) := by omega
      exact hsum ▸ hheld

/-- A node at the first place of the formula is the start of a longest way. -/
theorem depth_of_baseRank_eq_zero (hn : n ∈ g.allNodes) (hzero : g.baseRank n = 0) :
    g.depth n = g.height := by
  have hle := depth_le_height hn
  by_cases hsink : g.successors n = []
  · by_cases hfree : g.predecessors n = []
    · rw [baseRank_of_isolated hsink hfree] at hzero
      omega
    · obtain ⟨⟨p, -, heq⟩, -⟩ := baseRank_of_fed hsink hfree
      omega
  · rw [baseRank_of_feeding hsink] at hzero
    omega

/-- Some chain takes all layers but the one behind, if there is one for output terminals. -/
theorem WellFormed.exists_heldOff (h : g.WellFormed) (hne : g.allNodes ≠ []) :
    ∃ n ∈ g.allNodes, ∃ i, g.height + g.inputGap ≤ i ∧ g.HeldOff n i := by
  have hstart : ∃ n ∈ g.allNodes, g.depth n = g.height ∧ g.inputGap ≤ g.lowest n := by
    by_cases hcrowded : g.inPorts ≠ [] ∧ ∃ n ∈ g.allNodes, n ∉ g.inPorts ∧
        (g.node? n).any Node.isConstant = false ∧ g.baseRank n = 0
    · obtain ⟨hin, n, hn, hnot, hnumber, hzero⟩ := hcrowded
      refine ⟨n, hn, depth_of_baseRank_eq_zero hn hzero, ?_⟩
      have hone : g.lowest n = 1 := if_pos ⟨hin, hnot, hnumber⟩
      rcases g.inputGap_cases with hgap | ⟨hgap, -⟩ <;> omega
    · obtain ⟨n, hn, hdepth⟩ := (height_greatest hne).1
      have hgap : g.inputGap = 0 := if_neg hcrowded
      exact ⟨n, hn, hdepth, by omega⟩
  obtain ⟨n, hn, hdepth, hgap⟩ := hstart
  obtain ⟨m, hm, hheld⟩ := HeldOff.descend h (h.depth_greatest hn).1 hn (.alone n)
  exact ⟨m, hm, _, by omega, hheld⟩

/-! ## The layers of a graph are a division -/

theorem WellFormed.layered_assignLayers (h : g.WellFormed) (hshape : ∀ n node, g.node? n = some node → node.OnePort)
    (hne : g.allNodes ≠ []) : g.Layered g.assignLayers.size fun n => (g.assignLayers.layerOf? n).getD 0 := by
  have hm := h.assignLayers_measures hshape hne
  have hsize := hm.size
  have hbody : ∀ n ∈ g.body, (g.assignLayers.layerOf? n).getD 0 = g.inputGap + g.baseRank n := by
    intro n hn
    rw [hm.body n hn, Option.getD_some]
  have hin : ∀ n ∈ g.inPorts, (g.assignLayers.layerOf? n).getD 0 = 0 := by
    intro n hn
    rw [hm.inPorts n hn, Option.getD_some]
  have hout : ∀ n ∈ g.outPorts, (g.assignLayers.layerOf? n).getD 0 = g.inputGap + g.height + g.outputGap := by
    intro n hn
    rw [hm.outPorts n hn, Option.getD_some]
  have hcases : ∀ n ∈ g.allNodes, n ∈ g.inPorts ∨ n ∈ g.body ∨ n ∈ g.outPorts := by
    intro n hn
    unfold allNodes at hn
    rwa [List.mem_append, List.mem_append, or_assoc] at hn
  exact {
    lt := by
      intro n hn
      have hle := h.baseRank_le_height n
      rcases hcases n hn with hn | hn | hn
      · rw [hin n hn]
        omega
      · rw [hbody n hn]
        omega
      · rw [hout n hn]
        omega
    rising := by
      intro m n hfeeds
      obtain ⟨c, ends, hends, rfl, rfl⟩ := hfeeds
      obtain ⟨i, j, hi, hj, hlt⟩ := (h.assignLayers_places hshape).rising c ends hends
      rw [hi, hj]
      exact hlt
    inputs := hin
    front := by
      intro hports n hn hzero
      rcases hcases n hn with hn' | hn' | hn'
      · exact Or.inl hn'
      · -- a body node in the first layer would have made room there
        rw [hbody n hn'] at hzero
        refine Or.inr ?_
        by_contra hnumber
        have hgap : g.inputGap = 1 := if_pos ⟨hports, n, hn, (h.not_mem_of_mem_body hn').1,
          Bool.eq_false_iff.mpr hnumber, by omega⟩
        omega
      · rw [hout n hn'] at hzero
        have hgap := h.inputGap_of_flat hports (List.ne_nil_of_mem hn') (by omega)
        omega
    outputs := by
      intro n hn
      rw [hout n hn]
      omega
    back := by
      intro hports n hn hlast
      rcases hcases n hn with hn' | hn' | hn'
      · rw [hin n hn'] at hlast
        have hgap := h.inputGap_of_flat (List.ne_nil_of_mem hn') hports (by omega)
        omega
      · rw [hbody n hn'] at hlast
        have hle := h.baseRank_le_height n
        rcases g.outputGap_cases with hgap | ⟨hgap, -⟩
        · have hcrowded : g.outputGap = 1 := if_pos ⟨hports, n, hn', by omega⟩
          omega
        · omega
      · exact hn' }

/-- A chain holds what is no terminal in front of the last layer of the formula. -/
theorem WellFormed.heldOff_le (h : g.WellFormed) (hshape : ∀ n node, g.node? n = some node → node.OnePort)
    (hn : n ∈ g.body) {i : Nat} (hi : g.HeldOff n i) : i ≤ g.height + g.inputGap := by
  have hlisted := g.body_subset hn
  have hne := List.ne_nil_of_mem hlisted
  have hle := (h.layered_assignLayers hshape hne).le_of_heldOff h hi hlisted
  rw [(h.assignLayers_measures hshape hne).body n hn, Option.getD_some] at hle
  have hbase := h.baseRank_le_height n
  omega

/-! ## As far in front as chains allow -/

/-- The layer of a node that stands as far in front as the chains that lead to it allow. -/
noncomputable def earliest (g : Graph) (n : NodeId) : Nat := sSup {i | g.HeldOff n i}

theorem WellFormed.earliest_greatest (h : g.WellFormed) (hshape : ∀ n node, g.node? n = some node → node.OnePort)
    (hn : n ∈ g.allNodes) : IsGreatest {i | g.HeldOff n i} (g.earliest n) := by
  have hbound : BddAbove {i | g.HeldOff n i} := ⟨_, fun i hi =>
    (h.layered_assignLayers hshape (List.ne_nil_of_mem hn)).le_of_heldOff h hi hn⟩
  exact ⟨Nat.sSup_mem ⟨_, .alone n⟩ hbound, fun i hi => le_csSup hbound hi⟩

/-- All nodes as far in front as they can be, but for the output terminals at the end. -/
noncomputable def packed (g : Graph) (last : Nat) (n : NodeId) : Nat :=
  if n ∈ g.outPorts then last else g.earliest n

/-- If no chain holds a body node off from all layers before the last one, that layer has room for output terminals. -/
theorem WellFormed.layered_packed (h : g.WellFormed) (hshape : ∀ n node, g.node? n = some node → node.OnePort)
    {last : Nat} (hbody : ∀ n ∈ g.body, g.earliest n < last) (hpos : 0 < last) :
    g.Layered (last + 1) (g.packed last) := by
  have hin : ∀ n ∈ g.inPorts, g.earliest n = 0 := by
    intro n hn
    have hmost := (h.earliest_greatest hshape (g.terminals_subset .input hn)).1
    generalize g.earliest n = i at hmost
    cases hmost with
    | alone => exact if_neg fun hfar => hfar.2.1 hn
    | behind hfeeds _ => exact absurd hfeeds (h.predecessors_of_mem_inPorts hshape hn _)
  have hearly : ∀ n ∈ g.allNodes, n ∉ g.outPorts → g.earliest n < last := by
    intro n hn hout
    by_cases hport : n ∈ g.inPorts
    · rw [hin n hport]
      exact hpos
    · exact hbody n (mem_body_of_not_terminal hn hport hout)
  have hself : ∀ n, n ∈ g.outPorts → g.packed last n = last := fun n hn => if_pos hn
  have hother : ∀ n, n ∉ g.outPorts → g.packed last n = g.earliest n := fun n hn => if_neg hn
  exact {
    lt := by
      intro n hn
      by_cases hout : n ∈ g.outPorts
      · rw [hself n hout]
        exact Nat.lt_succ_self _
      · rw [hother n hout]
        exact Nat.lt_succ_of_lt (hearly n hn hout)
    rising := by
      intro m n hfeeds
      have hm := h.mem_allNodes.mpr (h.feeds_src_present hfeeds)
      have hn := h.mem_allNodes.mpr (h.feeds_dst_present hfeeds)
      have hsource : m ∉ g.outPorts := fun hout =>
        h.successors_eq_nil_iff.mp (h.successors_of_mem_outPorts hshape hout) ⟨n, hfeeds⟩
      rw [hother m hsource]
      by_cases hout : n ∈ g.outPorts
      · rw [hself n hout]
        exact hearly m hm hsource
      · rw [hother n hout]
        exact (h.earliest_greatest hshape hn).2 (.behind hfeeds (h.earliest_greatest hshape hm).1)
    inputs := by
      intro n hn
      rw [hother n (h.not_mem_outPorts hn), hin n hn]
    front := by
      intro hports n hn hzero
      by_cases hout : n ∈ g.outPorts
      · rw [hself n hout] at hzero
        omega
      · rw [hother n hout] at hzero
        have hlow := (h.earliest_greatest hshape hn).2 (.alone n)
        rw [hzero] at hlow
        by_contra hfar
        rw [not_or] at hfar
        have hone : g.lowest n = 1 := if_pos ⟨hports, hfar.1, Bool.eq_false_iff.mpr hfar.2⟩
        omega
    outputs := hself
    back := by
      intro _ n hn hlast
      by_contra hout
      rw [hother n hout] at hlast
      have hlt := hearly n hn hout
      omega }

/-! ## How many layers are enough -/

/-- No division has fewer layers than a longest chain takes, and one more if it ends in front of output terminals. -/
theorem WellFormed.layered_ge (h : g.WellFormed) (hne : g.allNodes ≠ []) {f : NodeId → Nat} (hf : g.Layered k f) :
    g.height + g.inputGap + 1 ≤ k := by
  obtain ⟨n, hn, i, hi, hheld⟩ := h.exists_heldOff hne
  have hle := hf.le_of_heldOff h hheld hn
  have hlt := hf.lt n hn
  omega

/--
**How few layers a graph needs.** This holds of every graph that passes the check and is not empty, whether it was new
or read at first, and whatever edits were made to it. Its layers are a division, and no division has fewer by more than
one layer. None has fewer at all if and only if the output terminals need no room behind the other nodes, or some chain
of connections holds one of those off from all layers before.
-/
theorem layers_fewest_iff (hg : g.Attained) (hcheck : g.checkInvariants = .ok ()) (hne : g.allNodes ≠ []) :
    (g.Layered g.assignLayers.size fun n => (g.assignLayers.layerOf? n).getD 0)
      ∧ (∀ k f, g.Layered k f → g.assignLayers.size ≤ k + 1)
      ∧ ((∀ k f, g.Layered k f → g.assignLayers.size ≤ k)
        ↔ g.outputGap = 0 ∨ ∃ n ∈ g.body, g.HeldOff n (g.height + g.inputGap)) := by
  have hwf := hg.wellFormed
  have hshape : ∀ n node, g.node? n = some node → node.OnePort := fun n node hn => hwf.onePort_of_check hcheck hn
  have hsize := (hwf.assignLayers_measures hshape hne).size
  refine ⟨hwf.layered_assignLayers hshape hne, ?_, ?_, ?_⟩
  · intro k f hf
    have hge := hwf.layered_ge hne hf
    rcases g.outputGap_cases with hgap | ⟨hgap, -⟩ <;> omega
  · intro hfewest
    rcases g.outputGap_cases with hgap | ⟨hgap, -⟩
    · exact Or.inl hgap
    · refine Or.inr ?_
      by_contra hnone
      have hfree : ∀ n ∈ g.body, g.earliest n < g.height + g.inputGap := by
        intro n hn
        have hmost := (hwf.earliest_greatest hshape (List.mem_append_left _ (List.mem_append_right _ hn))).1
        refine Nat.lt_of_le_of_ne (hwf.heldOff_le hshape hn hmost) fun heq => hnone ⟨n, hn, ?_⟩
        rw [← heq]
        exact hmost
      have hcrowded : g.outPorts ≠ [] ∧ ∃ n ∈ g.body, g.baseRank n = g.height := by
        by_contra hnot
        rw [show g.outputGap = 0 from if_neg hnot] at hgap
        exact absurd hgap (by simp)
      obtain ⟨-, n, hn, -⟩ := hcrowded
      have hle := hfewest _ _ (hwf.layered_packed hshape hfree (Nat.zero_lt_of_lt (hfree n hn)))
      omega
  · intro hneeded k f hf
    have hge := hwf.layered_ge hne hf
    rcases hneeded with hgap | ⟨n, hn, hheld⟩
    · omega
    · rcases g.outputGap_cases with hgap | ⟨hgap, hports⟩
      · omega
      · -- what is held off stands in front of the output terminals
        have hlisted : n ∈ g.allNodes := List.mem_append_left _ (List.mem_append_right _ hn)
        have hle := hf.le_of_heldOff hwf hheld hlisted
        have hlt := hf.lt n hlisted
        have hnot : f n ≠ k - 1 := fun heq => (hwf.not_mem_of_mem_body hn).2 (hf.back hports n hlisted heq)
        omega

/-! ## A meter that costs a layer -/

/-- A chain from input to output, and beside it a source with a meter, which nothing holds off from the middle. -/
def metered : Graph where
  name := "metered"
  arena := .ofList [
    (⟨0⟩, { Node.terminal .input "x" with outputs := [⟨"x", [⟨0⟩]⟩] }),
    (⟨1⟩, { Node.operator "+" with inputs := [⟨"", [⟨0⟩]⟩, ⟨"", []⟩], outputs := [⟨"", [⟨1⟩]⟩] }),
    (⟨2⟩, { Node.operator "+" with inputs := [⟨"", [⟨1⟩]⟩, ⟨"", []⟩], outputs := [⟨"", [⟨2⟩]⟩] }),
    (⟨3⟩, { Node.terminal .output "y" with inputs := [⟨"y", [⟨2⟩]⟩] }),
    (⟨4⟩, { Node.operator "+" with outputs := [⟨"", [⟨3⟩]⟩] }),
    (⟨5⟩, { Node.operator "+" with inputs := [⟨"", [⟨3⟩]⟩, ⟨"", []⟩] })]
  inPorts := [⟨0⟩]
  body := [⟨1⟩, ⟨2⟩, ⟨4⟩, ⟨5⟩]
  outPorts := [⟨3⟩]
  connections := .ofList [
    (⟨0⟩, ⟨⟨⟨0⟩, 0⟩, ⟨⟨1⟩, 0⟩⟩), (⟨1⟩, ⟨⟨⟨1⟩, 0⟩, ⟨⟨2⟩, 0⟩⟩), (⟨2⟩, ⟨⟨⟨2⟩, 0⟩, ⟨⟨3⟩, 0⟩⟩),
    (⟨3⟩, ⟨⟨⟨4⟩, 0⟩, ⟨⟨5⟩, 0⟩⟩)]
  nextNode := 6
  nextConnection := 4

theorem metered_reachable : metered.Reachable fun e => e.Clean ∧ e.OnePort := by
  have hplus : (Node.operator "+").Unconnected ∧ (Node.operator "+").OnePort :=
    ⟨Node.ofNames_unconnected _ _ _, by decide, by decide⟩
  refine ⟨"metered", [.insert .input 0 "x", .add (Node.operator "+"), .add (Node.operator "+"), .insert .output 0 "y",
    .add (Node.operator "+"), .add (Node.operator "+"), .connect ⟨⟨0⟩, 0⟩ ⟨⟨1⟩, 0⟩, .connect ⟨⟨1⟩, 0⟩ ⟨⟨2⟩, 0⟩,
    .connect ⟨⟨2⟩, 0⟩ ⟨⟨3⟩, 0⟩, .connect ⟨⟨4⟩, 0⟩ ⟨⟨5⟩, 0⟩], ?_,
    roomFor_of_length (by simp [empty]) (by simp [empty]), ?_⟩
  · intro e he
    simp only [List.mem_cons, List.not_mem_nil, or_false] at he
    rcases he with rfl | rfl | rfl | rfl | rfl | rfl | rfl | rfl | rfl | rfl
    all_goals first
      | exact hplus
      | exact ⟨trivial, trivial⟩
  · cbv

/-- Four layers are enough for the chain, and the source and the meter find a place among them. -/
def meteredLayer (n : NodeId) : Nat := [0, 1, 2, 3, 1, 2].getD n.val.toNat 0

theorem metered_layered : metered.Layered 4 meteredLayer := by
  refine ⟨by decide, ?_, by decide, by decide, by decide, by decide⟩
  rintro m n ⟨c, ends, hends, rfl, rfl⟩
  have hall : ∀ e ∈ metered.connections.entries, meteredLayer e.2.src.node < meteredLayer e.2.dst.node := by
    decide
  exact hall _ (Table.mem_of_get? hends)

theorem metered_assignLayers : metered.assignLayers = {
    layers := [[⟨0⟩], [⟨1⟩], [⟨4⟩, ⟨2⟩], [⟨5⟩], [⟨3⟩]]
    nodeLayers := .ofList [(⟨5⟩, 3), (⟨4⟩, 2), (⟨3⟩, 4), (⟨2⟩, 2), (⟨1⟩, 1), (⟨0⟩, 0)] } :=
  assignLayers_of_ranks [-3, -2, -1, 0, 1] [[⟨0⟩], [⟨1⟩], [⟨2⟩, ⟨4⟩], [⟨5⟩], [⟨3⟩]] (by decide)
    (by decide) (by decide) (by decide) (by cbv)

theorem metered_size : metered.assignLayers.size = 5 := by
  rw [metered_assignLayers]
  rfl

/-- Not every graph is divided into as few layers as can be. -/
theorem meter_costs_layer : ¬∀ g : Graph, g.Attained → g.checkInvariants = .ok () → g.allNodes ≠ [] →
    ∀ k f, g.Layered k f → g.assignLayers.size ≤ k := by
  intro hfewest
  have hle := hfewest metered (metered_reachable.mono fun _ he => he.1).attained metered_reachable.checkInvariants
    (List.cons_ne_nil _ _) 4 meteredLayer metered_layered
  rw [metered_size] at hle
  exact absurd hle (by decide)

/-- The meter stands in front of the output terminal, but no chain holds it off so far. -/
theorem meter_not_held : metered.checkInvariants = .ok () ∧ metered.outputGap ≠ 0
    ∧ (¬∃ n ∈ metered.body, metered.HeldOff n (metered.height + metered.inputGap))
    ∧ ∀ k f, metered.Layered k f → 4 ≤ k := by
  obtain ⟨-, hnear, hiff⟩ := layers_fewest_iff (metered_reachable.mono fun _ he => he.1).attained
    metered_reachable.checkInvariants (List.cons_ne_nil _ _)
  rw [metered_size] at hnear hiff
  have hnot := mt hiff.mpr fun hfewest => absurd (hfewest 4 meteredLayer metered_layered) (by decide)
  rw [not_or] at hnot
  exact ⟨metered_reachable.checkInvariants, hnot.1, hnot.2, fun k f hf => Nat.le_of_succ_le_succ (hnear k f hf)⟩

end Graph

end SignalGraph
