import Mathlib.Data.List.Perm.Basic
import Mathlib.Data.Option.Basic
import SignalGraph.Proofs.Graph.Faultless
import SignalGraph.Proofs.Graph.Run

/-!
# The check finds no fault in a graph that was built by edits

`checkInvariants` looks for faults port by port and visits the graph once. Each of its parts is passed by
every well-formed graph; only the ports of terminals are up to whoever adds them. The last section draws the
conclusion for all runs of edits from an empty graph.
-/

namespace SignalGraph

namespace Node

/-- A terminal has the one port that its mark asks for. -/
def OnePort (n : Node) : Prop :=
  (n.isInputTerminal = true → n.inputs.length = 0 ∧ n.outputs.length = 1)
    ∧ (n.isOutputTerminal = true → n.inputs.length = 1 ∧ n.outputs.length = 0)

theorem onePort_congr {m n : Node} (hmark : ∀ d, m.isTerminalOf d = n.isTerminalOf d)
    (hin : m.inputs.length = n.inputs.length) (hout : m.outputs.length = n.outputs.length) :
    m.OnePort ↔ n.OnePort := by
  unfold OnePort isInputTerminal isOutputTerminal
  rw [hmark, hmark, hin, hout]

theorem onePort_bare (n : Node) : n.bare.OnePort ↔ n.OnePort := by
  refine onePort_congr (fun d => isTerminalOf_congr rfl d) ?_ ?_
  · exact List.length_map _
  · exact List.length_map _

theorem SamePlace.onePort {m n : Node} (h : m.SamePlace n) : m.OnePort ↔ n.OnePort := by
  refine onePort_congr h.terminal ?_ ?_
  · have hlen := congrArg List.length h.incoming
    unfold Node.incoming at hlen
    rwa [List.length_map, List.length_map] at hlen
  · have hlen := congrArg List.length h.outgoing
    unfold Node.outgoing at hlen
    rwa [List.length_map, List.length_map] at hlen

theorem onePort_terminal (d : Direction) (name : String) : (terminal d name).OnePort := by
  cases d with
  | input =>
      refine ⟨fun _ => ⟨rfl, rfl⟩, fun h => ?_⟩
      rw [not_isOutputTerminal (isTerminalOf_terminal .input name)] at h
      exact absurd h (by simp)
  | output =>
      refine ⟨fun h => ?_, fun _ => ⟨rfl, rfl⟩⟩
      rw [isInputTerminal_terminal_output] at h
      exact absurd h (by simp)

/-- A delay read has a package, so it is no terminal. -/
theorem isTerminalOf_delayRead (w : NodeId) (d : Direction) : (delayRead w).isTerminalOf d = false := by
  cases d <;> rfl

theorem onePort_delayRead (w : NodeId) : (delayRead w).OnePort := by
  refine ⟨fun h => ?_, fun h => ?_⟩
  · rw [show (delayRead w).isInputTerminal = false from isTerminalOf_delayRead w .input] at h
    exact absurd h (by simp)
  · rw [show (delayRead w).isOutputTerminal = false from isTerminalOf_delayRead w .output] at h
    exact absurd h (by simp)

end Node

namespace Graph

theorem lasting_onePort : Lasting Node.OnePort where
  terminal := Node.onePort_terminal
  delayRead := Node.onePort_delayRead
  renamed := by
    intro node node' name h hren
    rw [Node.onePort_bare] at h ⊢
    exact (Node.renamedTerminal?_samePlace hren).onePort.mpr h

/-! ## The whole check -/

/-- A well-formed graph whose terminals have their one port is without fault. -/
theorem WellFormed.faultless {g : Graph} (h : g.WellFormed)
    (hshape : ∀ n node, g.node? n = some node → node.OnePort) : g.Faultless where
  toIncident := h.incident h.delays
  listed _ _ hc := h.listedAtEnds hc
  inPorts := by
    intro n hn node hnode
    obtain ⟨node', hnode', hin⟩ := (h.mem_inPorts n).mp hn
    rw [hnode] at hnode'
    injection hnode' with heq
    exact (hshape n node hnode).1 (heq ▸ hin)
  outPorts := by
    intro n hn node hnode
    obtain ⟨node', hnode', hout⟩ := (h.mem_outPorts n).mp hn
    rw [hnode] at hnode'
    injection hnode' with heq
    exact (hshape n node hnode).2 (heq ▸ hout)
  acyclic := h.acyclic

theorem WellFormed.checkInvariants {g : Graph} (h : g.WellFormed)
    (hshape : ∀ n node, g.node? n = some node → node.OnePort) : g.checkInvariants = .ok () := by
  have hseq : ∀ n ∈ g.allNodes, ∃ node, g.node? n = some node := fun _ hn => h.mem_allNodes.mp hn
  exact checkInvariants_eq_ok_iff.mpr ((fault?_eq_none_iff h.listsOnce hseq).mpr (h.faultless hshape))

/-! ## Runs of edits -/

/-- A connection is listed once at either of its ends, and at no other port. -/
structure ListedOnce (g : Graph) (c : ConnectionId) (ends : Connection) : Prop where
  /-- The source lists it once. -/
  src : ∃ cs, g.outgoing? ends.src = some cs ∧ cs.count c = 1
  /-- The destination lists it once. -/
  dst : ∃ cs, g.incoming? ends.dst = some cs ∧ cs.count c = 1
  /-- No other output lists it. -/
  only_src : ∀ s cs, g.outgoing? s = some cs → c ∈ cs → s = ends.src
  /-- No other input lists it. -/
  only_dst : ∀ d cs, g.incoming? d = some cs → c ∈ cs → d = ends.dst

theorem Registered.listedOnce {g : Graph} (h : g.Registered) {c : ConnectionId} {ends : Connection}
    (hc : g.connection? c = some ends) : g.ListedOnce c ends where
  src := by
    obtain ⟨cs, hcs, hmem⟩ := h.outgoing_of_src hc
    exact ⟨cs, hcs, List.count_eq_one_of_mem (h.outgoing_nodup _ _ hcs) hmem⟩
  dst := ⟨[c], h.incoming_eq_singleton hc, by simp⟩
  only_src := by
    intro s cs hs hmem
    obtain ⟨ends', hends', hsrc⟩ := (h.mem_outgoing s cs c hs).mp hmem
    rw [hc] at hends'
    injection hends' with heq
    rw [heq, hsrc]
  only_dst := by
    intro d cs hd hmem
    obtain ⟨ends', hends', hdst⟩ := (h.mem_incoming d cs c hd).mp hmem
    rw [hc] at hends'
    injection hends' with heq
    rw [heq, hdst]

end Graph

/-- A terminal that the edit adds has its one port. -/
def Edit.OnePort : Edit → Prop
  | add node => node.OnePort
  | _ => True

namespace Graph

/-- The check finds no fault in a graph whose terminals were added with their one port. -/
theorem Reachable.checkInvariants {g : Graph} (hg : g.Reachable fun e => e.Clean ∧ e.OnePort) :
    g.checkInvariants = .ok () := by
  obtain ⟨hwf, hall⟩ := hg.allBare (fun e he => he.1) lasting_onePort
    (fun node he => (Node.onePort_bare node).mpr he.2)
  exact hwf.checkInvariants fun n node hn => (Node.onePort_bare node).mp (hall n node hn)

/--
**Every run of edits leaves a well-formed graph.** The run may mix edits that succeed with edits that are
refused; it makes fewer than `2 ^ 32` nodes and fewer than `2 ^ 32` connections. If the terminals it adds have
their one port, the check finds no fault.
-/
theorem wellFormed_of_edits (name : String) (es : List Edit) (hclean : ∀ e ∈ es, e.Clean)
    (hroom : (empty name).RoomFor es) :
    let g := (empty name).run es
    g.WellFormed
      ∧ g.allNodes.Perm g.arena.keys
      ∧ (∀ c ends, g.connection? c = some ends → g.ListedOnce c ends)
      ∧ (∀ s d, g.sourceOf? d = some s ↔ d ∈ g.consumersOf s)
      ∧ (∀ s d, g.sourceOf? d = some s ↔ ∃ c, g.connection? c = some ⟨s, d⟩)
      ∧ ((∀ e ∈ es, e.OnePort) → g.checkInvariants = .ok ()) := by
  have hwf := (empty_wellFormed name).run hclean hroom
  refine ⟨hwf, hwf.allNodes_perm_keys, ?_, ?_, ?_, ?_⟩
  · intro c ends hc
    exact hwf.listedOnce hc
  · intro s d
    rw [hwf.sourceOf?_eq_some_iff, hwf.mem_consumersOf]
  · intro s d
    exact hwf.sourceOf?_eq_some_iff
  · intro hone
    exact Reachable.checkInvariants ⟨name, es, fun e he => ⟨hclean e he, hone e he⟩, hroom, rfl⟩

/-- A delay line with a further reader, a connection, an edit that is refused, and the removal of it all. -/
theorem delay_line_removed_without_fault :
    ((empty "line").run [.insert .input 0 "x", .add .delayWrite, .addRead ⟨1⟩, .connect ⟨⟨0⟩, 0⟩ ⟨⟨1⟩, 1⟩,
      .connect ⟨⟨0⟩, 0⟩ ⟨⟨1⟩, 1⟩, .remove ⟨1⟩]).checkInvariants = .ok () := by
  refine (wellFormed_of_edits "line" _ ?_ ?_).2.2.2.2.2 ?_
  · intro e he
    simp only [List.mem_cons, List.not_mem_nil, or_false] at he
    rcases he with rfl | rfl | rfl | rfl | rfl | rfl
    case inr.inl => exact Node.delayWrite_unconnected
    all_goals trivial
  · exact roomFor_of_length (by simp [empty]) (by simp [empty])
  · intro e he
    simp only [List.mem_cons, List.not_mem_nil, or_false] at he
    rcases he with rfl | rfl | rfl | rfl | rfl | rfl
    case inr.inl => exact ⟨by decide, by decide⟩
    all_goals trivial

end Graph

end SignalGraph
