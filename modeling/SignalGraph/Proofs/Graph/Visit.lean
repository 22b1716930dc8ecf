import SignalGraph.Graph.Invariants
import SignalGraph.Proofs.Graph.WellFormed

/-!
# The visit in dependency order

The check for cycles counts, for each node, the signals it still waits for, and visits the nodes that wait
for nothing. In an acyclic graph it comes to an end only when no node is left (`Visiting.complete`), and it takes as
many steps as it needs for that (`exists_visitAll`).

The invariant `Visiting` speaks of the list of the nodes visited so far: the count of a node is the number of
its predecessors outside that list, and the stack of ready nodes holds, once each, the unvisited nodes whose
count is zero. That a visit takes off exactly the counts it should rests on a symmetry: a node occurs among
the predecessors of another as often as the other among its successors.
-/

namespace SignalGraph

/-! ## Counting connections from either side -/

/-- Connections listed at ports are distinct if each of them belongs to one port. -/
theorem nodup_flatMap_ports {ps : List Port} (place : ConnectionId → Option Nat)
    (hnodup : ∀ (i : Nat) cs, (ps.map Port.connections)[i]? = some cs → cs.Nodup)
    (hplace : ∀ (i : Nat) cs c, (ps.map Port.connections)[i]? = some cs → c ∈ cs → place c = some i) :
    (ps.flatMap Port.connections).Nodup := by
  have hget : ∀ (i : Nat) (h : i < ps.length), (ps.map Port.connections)[i]? = some ps[i].connections := by
    intro i h
    rw [List.getElem?_map, List.getElem?_eq_getElem h]
    rfl
  refine List.nodup_flatMap.mpr ⟨?_, ?_⟩
  · intro p hp
    obtain ⟨i, hi, rfl⟩ := List.mem_iff_getElem.mp hp
    exact hnodup i _ (hget i hi)
  · rw [List.pairwise_iff_getElem]
    intro i j hi hj hlt c hci hcj
    have h1 := hplace i _ c (hget i hi) hci
    have h2 := hplace j _ c (hget j hj) hcj
    rw [h1] at h2
    injection h2 with h2
    omega

namespace Graph

theorem Registered.outgoing_flatMap_nodup {g : Graph} (h : g.Registered) {n : NodeId} {node : Node}
    (hn : g.node? n = some node) : (node.outputs.flatMap Port.connections).Nodup := by
  refine nodup_flatMap_ports (fun c => (g.connection? c).map (·.src.index)) ?_ ?_
  · intro i cs hcs
    exact h.outgoing_nodup ⟨n, i⟩ cs ((outgoing?_of_node? hn i).trans hcs)
  · intro i cs c hcs hc
    obtain ⟨ends, hends, hsrc⟩ := (h.mem_outgoing ⟨n, i⟩ cs c ((outgoing?_of_node? hn i).trans hcs)).mp hc
    rw [hends, Option.map_some, hsrc]

theorem Registered.incoming_flatMap_nodup {g : Graph} (h : g.Registered) {n : NodeId} {node : Node}
    (hn : g.node? n = some node) : (node.inputs.flatMap Port.connections).Nodup := by
  refine nodup_flatMap_ports (fun c => (g.connection? c).map (·.dst.index)) ?_ ?_
  · intro i cs hcs
    have hlen := h.incoming_length ⟨n, i⟩ cs ((incoming?_of_node? hn i).trans hcs)
    rcases cs with _ | ⟨c, _ | ⟨c', cs⟩⟩
    · exact List.nodup_nil
    · exact List.nodup_singleton c
    · simp at hlen
  · intro i cs c hcs hc
    obtain ⟨ends, hends, hdst⟩ := (h.mem_incoming ⟨n, i⟩ cs c ((incoming?_of_node? hn i).trans hcs)).mp hc
    rw [hends, Option.map_some, hdst]

/-- The connections listed at the outputs of a node are those that start there. -/
theorem Registered.mem_outputs {g : Graph} (h : g.Registered) {n : NodeId} {node : Node}
    (hn : g.node? n = some node) {c : ConnectionId} :
    c ∈ node.outputs.flatMap Port.connections ↔ ∃ ends, g.connection? c = some ends ∧ ends.src.node = n := by
  rw [mem_flatMap_ports]
  constructor
  · rintro ⟨i, cs, hcs, hc⟩
    obtain ⟨ends, hends, hsrc⟩ := (h.mem_outgoing ⟨n, i⟩ cs c ((outgoing?_of_node? hn i).trans hcs)).mp hc
    exact ⟨ends, hends, by rw [hsrc]⟩
  · rintro ⟨ends, hends, rfl⟩
    obtain ⟨cs, hcs, hmem⟩ := h.outgoing_of_src hends
    obtain ⟨node', hnode', hi⟩ := node?_of_outgoing? hcs
    rw [hn] at hnode'
    injection hnode' with hnode'
    subst hnode'
    exact ⟨_, cs, hi, hmem⟩

/-- The connections listed at the inputs of a node are those that end there. -/
theorem Registered.mem_inputs {g : Graph} (h : g.Registered) {n : NodeId} {node : Node}
    (hn : g.node? n = some node) {c : ConnectionId} :
    c ∈ node.inputs.flatMap Port.connections ↔ ∃ ends, g.connection? c = some ends ∧ ends.dst.node = n := by
  rw [mem_flatMap_ports]
  constructor
  · rintro ⟨i, cs, hcs, hc⟩
    obtain ⟨ends, hends, hdst⟩ := (h.mem_incoming ⟨n, i⟩ cs c ((incoming?_of_node? hn i).trans hcs)).mp hc
    exact ⟨ends, hends, by rw [hdst]⟩
  · rintro ⟨ends, hends, rfl⟩
    obtain ⟨cs, hcs, hmem⟩ := h.incoming_of_dst hends
    obtain ⟨node', hnode', hi⟩ := node?_of_incoming? hcs
    rw [hn] at hnode'
    injection hnode' with hnode'
    subst hnode'
    exact ⟨_, cs, hi, hmem⟩

theorem successors_eq_nil {g : Graph} {n : NodeId} (hn : g.node? n = none) : g.successors n = [] := by
  unfold successors
  rw [hn]

theorem predecessors_eq_nil {g : Graph} {n : NodeId} (hn : g.node? n = none) :
    g.predecessors n = [] := by
  unfold predecessors
  rw [hn]

/-- Both counts are the number of connections between the two nodes. -/
theorem Registered.count_successors {g : Graph} (h : g.Registered) (a b : NodeId) :
    (g.successors a).count b = (g.predecessors b).count a := by
  cases ha : g.node? a with
  | none =>
      have hnot : a ∉ g.predecessors b := by
        intro hmem
        obtain ⟨node, hnode⟩ := h.feeds_src_present (h.mem_predecessors.mp hmem)
        rw [ha] at hnode
        exact absurd hnode (by simp)
      rw [successors_eq_nil ha, List.count_nil, List.count_eq_zero_of_not_mem hnot]
  | some source =>
      cases hb : g.node? b with
      | none =>
          have hnot : b ∉ g.successors a := by
            intro hmem
            obtain ⟨node, hnode⟩ := h.feeds_dst_present (h.mem_successors.mp hmem)
            rw [hb] at hnode
            exact absurd hnode (by simp)
          rw [predecessors_eq_nil hb, List.count_nil, List.count_eq_zero_of_not_mem hnot]
      | some target =>
          unfold successors predecessors
          rw [ha, hb]
          dsimp only
          rw [List.count_filterMap, List.count_filterMap, List.countP_eq_length_filter,
            List.countP_eq_length_filter]
          refine List.Perm.length_eq ?_
          refine (List.perm_ext_iff_of_nodup ((h.outgoing_flatMap_nodup ha).filter _)
            ((h.incoming_flatMap_nodup hb).filter _)).mpr ?_
          intro c
          rw [List.mem_filter, List.mem_filter, h.mem_outputs ha, h.mem_inputs hb]
          cases hc : g.connection? c with
          | none => simp
          | some ends => simp [and_comm]

end Graph

/-! ## Counting off a list of signals -/

namespace Visit

theorem visited_release (v : Visit) (n : NodeId) : (v.release n).visited = v.visited := by
  unfold release
  split <;> rfl

theorem waiting_release (v : Visit) (n m : NodeId) :
    (v.release n).waiting.get? m =
      if m = n then (v.waiting.get? n).map (· - 1) else v.waiting.get? m := by
  unfold release
  cases hd : v.waiting.get? n with
  | none =>
      dsimp only
      split
      · rename_i heq
        rw [heq, hd]
        rfl
      · rfl
  | some d =>
      dsimp only
      rw [Table.get?_set]
      rfl

theorem ready_release (v : Visit) (n m : NodeId) :
    (v.release n).ready.count m =
      v.ready.count m + if m = n ∧ v.waiting.get? n = some 1 then 1 else 0 := by
  unfold release
  cases hd : v.waiting.get? n with
  | none => simp
  | some d =>
      dsimp only
      by_cases hone : d = 1
      · subst hone
        by_cases hm : m = n
        · simp [hm]
        · simp [hm, Ne.symm hm]
      · have hne : ¬ d - 1 = 0 := by omega
        simp [hne, hone]

/-- What counting off a list of nodes does, if no count is taken below zero. -/
theorem foldl_release (ns : List NodeId) (v : Visit)
    (hle : ∀ m d, v.waiting.get? m = some d → (ns.count m : Int) ≤ d) :
    (ns.foldl release v).visited = v.visited
      ∧ (∀ m, (ns.foldl release v).waiting.get? m = (v.waiting.get? m).map (· - (ns.count m : Int)))
      ∧ ∀ m, (ns.foldl release v).ready.count m =
          v.ready.count m + if 0 < ns.count m ∧ v.waiting.get? m = some (ns.count m : Int) then 1 else 0 := by
  induction ns generalizing v with
  | nil => simp
  | cons n ns ih =>
      have hwait := waiting_release v n
      have hle' : ∀ m d, (v.release n).waiting.get? m = some d → (ns.count m : Int) ≤ d := by
        intro m d hd
        rw [hwait] at hd
        split at hd
        · rename_i heq
          obtain ⟨d', hd', rfl⟩ := Option.map_eq_some_iff.mp hd
          have hold := hle m d' (by rw [heq]; exact hd')
          rw [heq] at hold ⊢
          rw [List.count_cons_self] at hold
          omega
        · rename_i hne
          have hold := hle m d hd
          rwa [List.count_cons_of_ne (Ne.symm hne)] at hold
      obtain ⟨hvisited, hwaiting, hready⟩ := ih (v.release n) hle'
      rw [List.foldl_cons]
      refine ⟨hvisited.trans (visited_release v n), ?_, ?_⟩
      · intro m
        rw [hwaiting, hwait]
        by_cases hm : m = n
        · rw [if_pos hm, hm, List.count_cons_self, Option.map_map]
          congr 1
          funext d
          simp only [Function.comp_apply]
          omega
        · rw [if_neg hm, List.count_cons_of_ne (Ne.symm hm)]
      · intro m
        rw [hready, ready_release, hwait]
        by_cases hm : m = n
        · subst hm
          rw [if_pos rfl, List.count_cons_self]
          cases hd : v.waiting.get? m with
          | none => simp
          | some d =>
              -- the node becomes ready with its last signal: now, if this is the only one, or later
              have hold := hle m d hd
              rw [List.count_cons_self] at hold
              by_cases hzero : ns.count m = 0
              · simp [hzero]
              · have hpos : 0 < ns.count m := Nat.pos_of_ne_zero hzero
                have hd1 : ¬ d = 1 := by omega
                have hiff : d - 1 = (ns.count m : Int) ↔ d = (ns.count m : Int) + 1 := by omega
                simp [hd1, hpos, hiff]
        · rw [if_neg hm, List.count_cons_of_ne (Ne.symm hm)]
          simp [hm]

end Visit

/-! ## The invariant of the visit -/

namespace Graph

/-- The signals that a node waits for while the nodes in `done` are visited. -/
def openCount (g : Graph) (done : List NodeId) (n : NodeId) : Nat :=
  (g.predecessors n).countP fun p => decide (p ∉ done)

/-- What the visit knows when the nodes in `done` are visited. -/
structure Visiting (g : Graph) (v : Visit) (done : List NodeId) : Prop where
  /-- The number of visits. -/
  visited : v.visited = done.length
  /-- No node is visited twice. -/
  nodup : done.Nodup
  /-- Only nodes of the graph are visited. -/
  present : ∀ n ∈ done, n ∈ g.arena.keys
  /-- A node is visited after its predecessors. -/
  closed : ∀ n ∈ done, ∀ p ∈ g.predecessors n, p ∈ done
  /-- A node waits for its unvisited predecessors. -/
  waiting : ∀ n, v.waiting.get? n = if n ∈ g.arena.keys then some (g.openCount done n : Int) else none
  /-- The unvisited nodes that wait for nothing are ready, once each. -/
  ready : ∀ n, v.ready.count n =
    if n ∈ g.arena.keys ∧ n ∉ done ∧ g.openCount done n = 0 then 1 else 0

theorem openCount_nil (g : Graph) (n : NodeId) : g.openCount [] n = (g.predecessors n).length := by
  unfold openCount
  simp

theorem openCount_cons {g : Graph} {done : List NodeId} {s : NodeId} (hs : s ∉ done) (n : NodeId) :
    g.openCount (s :: done) n + (g.predecessors n).count s = g.openCount done n := by
  unfold openCount
  induction g.predecessors n with
  | nil => rfl
  | cons p ps ih =>
      rw [List.countP_cons, List.countP_cons, List.count_cons]
      by_cases hp : p = s
      · subst hp
        have hin : decide (p ∉ p :: done) = false := by simp
        have hout : decide (p ∉ done) = true := decide_eq_true hs
        simp only [hin, hout, beq_self_eq_true, if_true, Bool.false_eq_true, if_false]
        omega
      · have hsame : decide (p ∉ s :: done) = decide (p ∉ done) := by simp [hp]
        have hne : (p == s) = false := by simpa using hp
        simp only [hsame, hne, Bool.false_eq_true, if_false]
        omega

theorem openCount_eq_zero_iff {g : Graph} {done : List NodeId} {n : NodeId} :
    g.openCount done n = 0 ↔ ∀ p ∈ g.predecessors n, p ∈ done := by
  unfold openCount
  rw [List.countP_eq_zero]
  simp

theorem visiting_startVisit (g : Graph) : g.Visiting g.startVisit [] where
  visited := rfl
  nodup := List.nodup_nil
  present := by simp
  closed := by simp
  waiting := by
    intro n
    unfold startVisit
    dsimp only
    rw [Table.get?_mapValues, openCount_nil]
    split
    · rename_i hn
      obtain ⟨node, hnode⟩ := Table.mem_keys_iff.mp hn
      rw [hnode]
      rfl
    · rename_i hn
      rw [Table.get?_eq_none_iff.mpr hn]
      rfl
  ready := by
    intro n
    unfold startVisit
    dsimp only
    have hsub : (((g.arena.mapValues fun n _ => ((g.predecessors n).length : Int)).entries.filter
        (·.2 = 0)).map Prod.fst).Nodup :=
      (Table.keys_nodup _).sublist (List.filter_sublist.map Prod.fst)
    have hmem : n ∈ (((g.arena.mapValues fun n _ => ((g.predecessors n).length : Int)).entries.filter
        (·.2 = 0)).map Prod.fst) ↔ n ∈ g.arena.keys ∧ (g.predecessors n).length = 0 := by
      rw [List.mem_map, Table.mem_keys_iff]
      constructor
      · rintro ⟨⟨m, d⟩, hin, rfl⟩
        obtain ⟨hin, hzero⟩ := List.mem_filter.mp hin
        rw [Table.mem_entries_iff, Table.get?_mapValues] at hin
        obtain ⟨node, hnode, rfl⟩ := Option.map_eq_some_iff.mp hin
        exact ⟨⟨node, hnode⟩, by simpa using hzero⟩
      · rintro ⟨⟨node, hnode⟩, hzero⟩
        refine ⟨(n, 0), List.mem_filter.mpr ⟨?_, by simp⟩, rfl⟩
        rw [Table.mem_entries_iff, Table.get?_mapValues, hnode, Option.map_some, hzero]
        rfl
    rw [openCount_nil]
    split
    · rename_i hn
      exact List.count_eq_one_of_mem hsub (hmem.mpr ⟨hn.1, hn.2.2⟩)
    · rename_i hn
      refine List.count_eq_zero_of_not_mem fun hin => hn ?_
      obtain ⟨h1, h2⟩ := hmem.mp hin
      exact ⟨h1, by simp, h2⟩

/-- The node on top of the stack is new and waits for nothing, and it is there once. -/
theorem Visiting.top {g : Graph} {v : Visit} {done : List NodeId} {s : NodeId} {ready : List NodeId}
    (hv : g.Visiting v done) (hs : v.ready = s :: ready) :
    s ∈ g.arena.keys ∧ s ∉ done ∧ (∀ p ∈ g.predecessors s, p ∈ done) ∧ ready.count s = 0 := by
  have hready := hv.ready s
  rw [hs, List.count_cons_self] at hready
  have hcond : s ∈ g.arena.keys ∧ s ∉ done ∧ g.openCount done s = 0 := by
    by_contra hno
    rw [if_neg hno] at hready
    omega
  rw [if_pos hcond] at hready
  obtain ⟨hkey, hnew, hopen⟩ := hcond
  exact ⟨hkey, hnew, openCount_eq_zero_iff.mp hopen, by omega⟩

/-- A node waits for all the signals that a ready node sends it. -/
theorem Visiting.count_le {g : Graph} (h : g.Registered) {v : Visit} {done : List NodeId} {s : NodeId}
    {ready : List NodeId} (hv : g.Visiting v done) (hs : v.ready = s :: ready) (m : NodeId) (d : Int)
    (hd : v.waiting.get? m = some d) : ((g.successors s).count m : Int) ≤ d := by
  obtain ⟨-, hnew, -, -⟩ := hv.top hs
  rw [hv.waiting] at hd
  split at hd
  · injection hd with hd
    have := openCount_cons (g := g) hnew m
    rw [h.count_successors s]
    omega
  · exact absurd hd (by simp)

/-- Visiting a ready node. -/
theorem Visiting.visit {g : Graph} (h : g.Registered) {v : Visit} {done : List NodeId} {s : NodeId}
    {ready : List NodeId} (hv : g.Visiting v done) (hs : v.ready = s :: ready) :
    g.Visiting ((g.successors s).foldl Visit.release { v with ready, visited := v.visited + 1 })
      (s :: done) := by
  obtain ⟨hkey, hnew, hpred, honce⟩ := hv.top hs
  have hcount := h.count_successors s
  obtain ⟨hvisited, hwaiting, hrest⟩ :=
    Visit.foldl_release (g.successors s) { v with ready, visited := v.visited + 1 } (hv.count_le h hs)
  exact {
    visited := by
      rw [hvisited, List.length_cons, ← hv.visited]
    nodup := List.nodup_cons.mpr ⟨hnew, hv.nodup⟩
    present := by
      intro n hn
      rcases List.mem_cons.mp hn with rfl | hn
      · exact hkey
      · exact hv.present n hn
    closed := by
      intro n hn p hp
      rcases List.mem_cons.mp hn with rfl | hn
      · exact List.mem_cons_of_mem _ (hpred p hp)
      · exact List.mem_cons_of_mem _ (hv.closed n hn p hp)
    waiting := by
      intro n
      rw [hwaiting, hv.waiting, hcount]
      split
      · have := openCount_cons (g := g) hnew n
        rw [Option.map_some]
        congr 1
        omega
      · rfl
    ready := by
      intro n
      rw [hrest, hcount, hv.waiting]
      have hold := hv.ready n
      rw [hs, List.count_cons] at hold
      have hsplit := openCount_cons (g := g) hnew n
      dsimp only
      by_cases hn : n = s
      · -- the node itself is off the stack, and it does not feed itself
        subst hn
        have hself : (g.predecessors n).count n = 0 :=
          List.count_eq_zero_of_not_mem fun hmem => hnew (hpred n hmem)
        simp [hself]
        omega
      · have hne : ¬ s = n := fun heq => hn heq.symm
        rw [if_neg (by simpa using hne)] at hold
        rw [Nat.add_zero] at hold
        rw [hold]
        by_cases hk : (g.predecessors n).count s = 0
        · have hsame : g.openCount (s :: done) n = g.openCount done n := by omega
          simp [hk, hn, hsame]
        · -- a successor of `s` was waiting, so it is neither visited nor ready
          have hmem : s ∈ g.predecessors n := List.count_pos_iff.mp (Nat.pos_of_ne_zero hk)
          have hkeyn : n ∈ g.arena.keys := by
            obtain ⟨node, hnode⟩ := h.feeds_dst_present (h.mem_predecessors.mp hmem)
            exact Table.mem_keys_iff.mpr ⟨node, hnode⟩
          have hnot : n ∉ done := fun hdone => hnew (hv.closed n hdone s hmem)
          have hwas : ¬ g.openCount done n = 0 := by omega
          have hiff : (g.openCount done n : Int) = ((g.predecessors n).count s : Int) ↔
              g.openCount (s :: done) n = 0 := by
            omega
          simp [hkeyn, hnot, hn, hwas, Nat.pos_of_ne_zero hk, hiff] }

/-- A run of the visit, up to an empty stack or to the end of its fuel. -/
theorem Visiting.run {g : Graph} (h : g.Registered) (fuel : Nat) {v : Visit} {done : List NodeId}
    (hv : g.Visiting v done) : ∃ done', g.Visiting (v.run g.successors fuel) done'
      ∧ ((v.run g.successors fuel).ready = [] ∨ done'.length = done.length + fuel) := by
  induction fuel generalizing v done with
  | zero => exact ⟨done, hv, Or.inr rfl⟩
  | succ fuel ih =>
      unfold Visit.run
      split
      · rename_i hnil
        exact ⟨done, hv, Or.inl hnil⟩
      · rename_i s ready hs
        obtain ⟨done', hdone', hend⟩ := ih (hv.visit h hs)
        refine ⟨done', hdone', ?_⟩
        rcases hend with hnil | hlen
        · exact Or.inl hnil
        · refine Or.inr ?_
          rw [hlen, List.length_cons]
          omega

/-- With nothing ready, everything is visited: a node that is not would wait for one that is not, and so on. -/
theorem Visiting.complete {g : Graph} (h : g.Registered) (hacyclic : g.Acyclic) {v : Visit}
    {done : List NodeId} (hv : g.Visiting v done) (hnil : v.ready = []) : ∀ n ∈ g.arena.keys, n ∈ done := by
  intro n
  induction n using hacyclic.wellFounded.induction with
  | h n ih =>
      intro hn
      by_contra hnot
      have hopen : g.openCount done n = 0 := by
        refine openCount_eq_zero_iff.mpr fun p hp => ?_
        have hfeeds := h.mem_predecessors.mp hp
        obtain ⟨node, hnode⟩ := h.feeds_src_present hfeeds
        exact ih p hfeeds (Table.mem_keys_iff.mpr ⟨node, hnode⟩)
      have hready := hv.ready n
      rw [hnil, if_pos ⟨hn, hnot, hopen⟩] at hready
      exact absurd hready (by simp)

/-- The visits are counted: there are as many as nodes when every node is visited. -/
theorem Visiting.visited_eq_size_iff {g : Graph} {v : Visit} {done : List NodeId} (hv : g.Visiting v done) :
    v.visited = g.arena.size ↔ ∀ n ∈ g.arena.keys, n ∈ done := by
  have hsub : done.Subperm g.arena.keys := List.subperm_of_subset hv.nodup fun n hn => hv.present n hn
  rw [hv.visited, ← Table.keys_length]
  constructor
  · intro hlen n hn
    exact (hsub.perm_of_length_le hlen.ge).mem_iff.mpr hn
  · intro hall
    exact Nat.le_antisymm hsub.length_le (List.subperm_of_subset g.arena.keys_nodup hall).length_le

/-- The visit takes as many steps as it needs. -/
theorem exists_visitAll {g : Graph} (h : g.Registered) :
    ∃ done, g.Visiting g.visitAll done ∧ g.visitAll.ready = [] := by
  obtain ⟨done, hv, hend⟩ := (visiting_startVisit g).run h g.arena.size
  refine ⟨done, hv, ?_⟩
  rcases hend with hnil | hlen
  · exact hnil
  · have hall : ∀ n ∈ g.arena.keys, n ∈ done := by
      refine hv.visited_eq_size_iff.mp ?_
      rw [hv.visited, hlen, List.length_nil, Nat.zero_add]
    by_contra hne
    obtain ⟨s, ready, hs⟩ := List.exists_cons_of_ne_nil hne
    obtain ⟨hkey, hnew, -⟩ := hv.top hs
    exact hnew (hall s hkey)

end Graph

end SignalGraph
