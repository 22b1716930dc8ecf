import Mathlib.Data.List.Basic
import SignalGraph.Graph.Edit
import SignalGraph.Proofs.Sequence

/-!
# Marks, terminals and connection lists

The group of a node follows from the mark in front of its name. A name cannot bear both marks, and giving a
terminal another name leaves its mark in place. What a graph needs of the ports of a node is the list of
connections at each of them.
-/

namespace SignalGraph

namespace Text

theorem stripPrefix?_eq_some_iff {start s t : String} : stripPrefix? start s = some t ↔ s = start ++ t := by
  unfold stripPrefix?
  rw [Option.map_eq_some_iff]
  constructor
  · rintro ⟨cs, hcs, rfl⟩
    have happ := List.isPrefixOf?_eq_some_iff_append_eq.mp hcs
    rw [← String.toList_inj, String.toList_append, ← happ, String.toList_ofList]
  · rintro rfl
    refine ⟨t.toList, ?_, String.ofList_toList⟩
    rw [List.isPrefixOf?_eq_some_iff_append_eq, String.toList_append]

theorem startsWith_iff {start s : String} : startsWith start s = true ↔ ∃ t, s = start ++ t := by
  unfold startsWith
  rw [Option.isSome_iff_exists]
  simp only [stripPrefix?_eq_some_iff]

end Text

/-- No name bears the marks of both directions. -/
theorem terminalMark_ne (s t : String) : terminalMark .input ++ s ≠ terminalMark .output ++ t := by
  intro h
  have hl := congrArg String.toList h
  simp [terminalMark] at hl

theorem Origin.isBuiltin_iff {o : Origin} : o.isBuiltin = true ↔ o.pkg = "" := beq_iff_eq

namespace Node

/-! ## Terminals -/

theorem isTerminalOf_iff {n : Node} {d : Direction} :
    n.isTerminalOf d = true ↔ n.origin.isBuiltin = true ∧ ∃ t, n.origin.name = terminalMark d ++ t := by
  unfold isTerminalOf
  rw [Bool.and_eq_true, Text.startsWith_iff]

theorem not_isOutputTerminal {n : Node} (h : n.isInputTerminal = true) : n.isOutputTerminal = false := by
  obtain ⟨-, s, hs⟩ := isTerminalOf_iff.mp h
  rw [← Bool.not_eq_true]
  intro ho
  obtain ⟨-, t, ht⟩ := isTerminalOf_iff.mp ho
  exact terminalMark_ne s t (hs.symm.trans ht)

theorem direction_unique {n : Node} {d d' : Direction} (h : n.isTerminalOf d = true) (h' : n.isTerminalOf d' = true) :
    d = d' := by
  have hno : n.isInputTerminal = true → n.isOutputTerminal = true → False := by
    intro hin hout
    rw [not_isOutputTerminal hin] at hout
    exact absurd hout (by simp)
  cases d <;> cases d'
  · rfl
  · exact (hno h h').elim
  · exact (hno h' h).elim
  · rfl

/-- The predicates of a node look at its origin only. -/
theorem isTerminalOf_congr {m n : Node} (h : m.origin = n.origin) (d : Direction) :
    m.isTerminalOf d = n.isTerminalOf d := by
  unfold isTerminalOf
  rw [h]

theorem isTerminalOf_terminal (d : Direction) (name : String) : (terminal d name).isTerminalOf d = true := by
  cases d with
  | input => exact isTerminalOf_iff.mpr ⟨rfl, name, rfl⟩
  | output => exact isTerminalOf_iff.mpr ⟨rfl, name, rfl⟩

theorem isInputTerminal_terminal_output (name : String) : (terminal .output name).isInputTerminal = false := by
  rw [← Bool.not_eq_true]
  intro hin
  exact absurd (direction_unique hin (isTerminalOf_terminal .output name)) (by decide)

/-- A terminal keeps its direction under every name with its mark. -/
theorem isTerminalOf_of_mark {m n : Node} {d : Direction} {name : String} (h : n.isTerminalOf d = true)
    (hpkg : m.origin.pkg = n.origin.pkg) (hname : m.origin.name = terminalMark d ++ name) (d' : Direction) :
    m.isTerminalOf d' = n.isTerminalOf d' := by
  obtain ⟨hbuiltin, -⟩ := isTerminalOf_iff.mp h
  have hmark : m.isTerminalOf d = true := by
    refine isTerminalOf_iff.mpr ⟨?_, name, hname⟩
    unfold Origin.isBuiltin at hbuiltin ⊢
    rwa [hpkg]
  rw [Bool.eq_iff_iff]
  constructor
  · intro hm
    rw [direction_unique hm hmark]
    exact h
  · intro hn
    rw [direction_unique hn h]
    exact hmark

/-! ## Parts in a delay line -/

theorem isDelayWrite_iff {n : Node} : n.isDelayWrite = true ↔ n.delay = some .write := beq_iff_eq

theorem isDelay_of_delay_eq {n : Node} {link : DelayLink} (h : n.delay = some link) : n.isDelay = true := by
  unfold isDelay
  rw [h]
  rfl

theorem isDelay_of_isDelayWrite {n : Node} (h : n.isDelayWrite = true) : n.isDelay = true :=
  isDelay_of_delay_eq (isDelayWrite_iff.mp h)

/-- A reader of a line owns none. -/
theorem isDelayWrite_of_read {n : Node} {w : NodeId} (h : n.delay = some (.read w)) : n.isDelayWrite = false := by
  unfold isDelayWrite
  rw [h]
  rfl

/-! ## Connection lists -/

/-- The connections listed at each input, in port order. -/
def incoming (n : Node) : List (List ConnectionId) := n.inputs.map (·.connections)

/-- The connections listed at each output, in port order. -/
def outgoing (n : Node) : List (List ConnectionId) := n.outputs.map (·.connections)

/-- No connection is listed at any port. -/
def Unconnected (n : Node) : Prop := ∀ p ∈ n.inputs ++ n.outputs, p.connections = []

theorem ofNames_unconnected (origin : Origin) (inputs outputs : List String) :
    (ofNames origin inputs outputs).Unconnected := by
  intro p hp
  rcases List.mem_append.mp hp with h | h
  · obtain ⟨name, -, rfl⟩ := List.mem_map.mp h
    rfl
  · obtain ⟨name, -, rfl⟩ := List.mem_map.mp h
    rfl

theorem terminal_unconnected (d : Direction) (name : String) : (terminal d name).Unconnected := by
  cases d with
  | input => exact ofNames_unconnected _ _ _
  | output => exact ofNames_unconnected _ _ _

theorem delayWrite_unconnected : delayWrite.Unconnected := by
  intro p hp
  exact ofNames_unconnected delayOrigin ["time", "value"] [""] p hp

theorem delayRead_unconnected (w : NodeId) : (delayRead w).Unconnected := by
  intro p hp
  exact ofNames_unconnected delayOrigin ["time"] [""] p hp

theorem Unconnected.incoming {n : Node} (h : n.Unconnected) {i : Nat} {cs : List ConnectionId}
    (hi : n.incoming[i]? = some cs) : cs = [] := by
  unfold Node.incoming at hi
  rw [List.getElem?_map, Option.map_eq_some_iff] at hi
  obtain ⟨p, hp, rfl⟩ := hi
  exact h p (List.mem_append_left _ (List.mem_of_getElem? hp))

theorem Unconnected.outgoing {n : Node} (h : n.Unconnected) {i : Nat} {cs : List ConnectionId}
    (hi : n.outgoing[i]? = some cs) : cs = [] := by
  unfold Node.outgoing at hi
  rw [List.getElem?_map, Option.map_eq_some_iff] at hi
  obtain ⟨p, hp, rfl⟩ := hi
  exact h p (List.mem_append_right _ (List.mem_of_getElem? hp))

/-! ## A node without its connections -/

/-- The node as it was before it was connected. -/
def bare (n : Node) : Node :=
  { n with
    inputs := n.inputs.map fun p => { p with connections := [] }
    outputs := n.outputs.map fun p => { p with connections := [] } }

theorem bare_unconnected (n : Node) : n.bare.Unconnected := by
  intro p hp
  rcases List.mem_append.mp hp with h | h
  · obtain ⟨q, -, rfl⟩ := List.mem_map.mp h
    rfl
  · obtain ⟨q, -, rfl⟩ := List.mem_map.mp h
    rfl

theorem Unconnected.bare_eq {n : Node} (h : n.Unconnected) : n.bare = n := by
  have hps : ∀ ps : List Port, (∀ p ∈ ps, p.connections = []) →
      ps.map (fun p => { p with connections := [] }) = ps := by
    intro ps hps
    refine (List.map_congr_left ?_).trans (List.map_id ps)
    intro p hp
    show ({ p with connections := [] } : Port) = p
    rw [← hps p hp]
  unfold bare
  rw [hps n.inputs fun p hp => h p (List.mem_append_left _ hp),
    hps n.outputs fun p hp => h p (List.mem_append_right _ hp)]

theorem isTerminalOf_of_bare_eq {m n : Node} (h : m.bare = n.bare) (d : Direction) :
    m.isTerminalOf d = n.isTerminalOf d :=
  isTerminalOf_congr (m := m.bare) (n := n.bare) (congrArg Node.origin h) d

theorem delay_of_bare_eq {m n : Node} (h : m.bare = n.bare) : m.delay = n.delay :=
  (congrArg Node.delay h : m.bare.delay = n.bare.delay)

theorem isDelayWrite_of_bare_eq {m n : Node} (h : m.bare = n.bare) : m.isDelayWrite = n.isDelayWrite := by
  unfold isDelayWrite
  rw [delay_of_bare_eq h]

/-- Changing the connections at an input leaves the bare node. -/
theorem bare_modifyInput {f : Port → Port} (hf : ∀ p, (f p).name = p.name) (n : Node) (i : Nat) :
    (n.modifyInput i f).bare = n.bare := by
  unfold bare modifyInput
  rw [map_modify_of_absorb f _ fun p => by rw [hf]]

theorem bare_modifyOutput {f : Port → Port} (hf : ∀ p, (f p).name = p.name) (n : Node) (i : Nat) :
    (n.modifyOutput i f).bare = n.bare := by
  unfold bare modifyOutput
  rw [map_modify_of_absorb f _ fun p => by rw [hf]]

/-! ## Renaming a terminal -/

/-- Two nodes that a graph lists in the same group and wires in the same way. -/
structure SamePlace (m n : Node) : Prop where
  /-- The marks are the same. -/
  terminal : ∀ d, m.isTerminalOf d = n.isTerminalOf d
  /-- The inputs list the same connections. -/
  incoming : m.incoming = n.incoming
  /-- The outputs list the same connections. -/
  outgoing : m.outgoing = n.outgoing

theorem renamedTerminal?_samePlace {node node' : Node} {name : String}
    (h : Graph.renamedTerminal? node name = some node') : SamePlace node' node := by
  have hlists := map_modify_of_absorb (fun p => { p with name }) Port.connections fun _ => rfl
  unfold Graph.renamedTerminal? at h
  dsimp only at h
  split at h
  · rename_i hin
    injection h with h
    subst h
    exact ⟨isTerminalOf_of_mark hin rfl rfl, rfl, hlists _ _⟩
  · split at h
    · rename_i hout
      injection h with h
      subst h
      exact ⟨isTerminalOf_of_mark hout rfl rfl, hlists _ _, rfl⟩
    · exact absurd h (by simp)

theorem renamedTerminal?_delay {node node' : Node} {name : String}
    (h : Graph.renamedTerminal? node name = some node') : node'.delay = node.delay := by
  unfold Graph.renamedTerminal? at h
  dsimp only at h
  split at h
  · injection h with h
    rw [← h]
    rfl
  · split at h
    · injection h with h
      rw [← h]
      rfl
    · exact absurd h (by simp)

end Node

end SignalGraph
