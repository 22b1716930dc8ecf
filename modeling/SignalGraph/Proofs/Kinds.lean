import SignalGraph.Manifest
import SignalGraph.Proofs.Shapes

/-!
# The kinds of nodes

What is built in is a terminal, an operator, a number or a delay (`BuiltinKind`), and of a node that was built no two of
these hold. A mark, an operator and a number are told apart by the name, which is all that the factory looks at, and a
delay by the line that it owns. Each kind has ports of its own in number (`OnlyOf`).

What is none of these was made of a capability. It has the ports of the processing step, and it keeps state if the
capability does.
-/

namespace SignalGraph

/-- What is built in. -/
inductive BuiltinKind where
  /-- A parameter or a result of the graph. -/
  | terminal (d : Direction)
  | operator
  | number
  /-- The owner of a delay line. -/
  | delay
deriving DecidableEq

namespace BuiltinKind

/-- How many inputs a node of a kind has. -/
def inputs : BuiltinKind → Nat
  | terminal .input => 0
  | terminal .output => 1
  | operator => 2
  | number => 0
  | delay => 2

/-- How many outputs a node of a kind has. -/
def outputs : BuiltinKind → Nat
  | terminal .input => 1
  | terminal .output => 0
  | operator => 1
  | number => 1
  | delay => 1

end BuiltinKind

namespace Node

/-- Whether a node is of a kind. -/
def isOf (node : Node) : BuiltinKind → Bool
  | .terminal d => node.isTerminalOf d
  | .operator => node.isOperator
  | .number => node.isConstant
  | .delay => node.isDelayWrite

/-- A node is of one kind only, and it has the ports of that kind. Of what is built in, delays alone keep state. -/
structure OnlyOf (node : Node) (k : BuiltinKind) : Prop where
  isOf_iff : ∀ k', node.isOf k' = true ↔ k' = k
  inputs : node.inputs.length = k.inputs
  outputs : node.outputs.length = k.outputs
  stateful : node.stateful = true ↔ k = .delay

/-! ## What a name tells -/

section Name

variable {node : Node}

theorem not_isOperator_of_isTerminalOf {d : Direction} (h : node.isTerminalOf d = true) : node.isOperator = false := by
  obtain ⟨-, name, hname⟩ := isTerminalOf_iff.mp h
  refine Bool.eq_false_iff.mpr fun hop => terminalMark_not_operator d name ?_
  unfold isOperator at hop
  rw [Bool.and_eq_true, hname] at hop
  exact List.contains_iff_mem.mp hop.2

theorem not_isConstant_of_isOperator (h : node.isOperator = true) : node.isConstant = false := by
  unfold isOperator at h
  rw [Bool.and_eq_true] at h
  unfold isConstant constantValue?
  rw [if_pos h.1, parseConstant?_operator (List.contains_iff_mem.mp h.2)]
  rfl

/-- A node without a part in a delay line is of one kind at most. -/
theorem isOf_unique (hdelay : node.delay = none) {k k' : BuiltinKind} (h : node.isOf k = true)
    (h' : node.isOf k' = true) : k = k' := by
  have hno : ∀ {b : Bool}, b = true → b = false → False := by decide
  have hwrite : node.isDelayWrite = false := by
    unfold isDelayWrite
    rw [hdelay]
    rfl
  cases k with
  | terminal d =>
      cases k' with
      | terminal d' => exact congrArg BuiltinKind.terminal (direction_unique h h')
      | operator => exact (hno h' (not_isOperator_of_isTerminalOf h)).elim
      | number => exact (hno h' (isConstant_of_isTerminalOf h)).elim
      | delay => exact (hno h' hwrite).elim
  | operator =>
      cases k' with
      | terminal d' => exact (hno h (not_isOperator_of_isTerminalOf h')).elim
      | operator => rfl
      | number => exact (hno h' (not_isConstant_of_isOperator h)).elim
      | delay => exact (hno h' hwrite).elim
  | number =>
      cases k' with
      | terminal d' => exact (hno h (isConstant_of_isTerminalOf h')).elim
      | operator => exact (hno h (not_isConstant_of_isOperator h')).elim
      | number => rfl
      | delay => exact (hno h' hwrite).elim
  | delay => exact (hno h hwrite).elim

theorem isOf_iff_of_isOf (hdelay : node.delay = none) {k : BuiltinKind} (h : node.isOf k = true) (k' : BuiltinKind) :
    node.isOf k' = true ↔ k' = k :=
  ⟨fun h' => isOf_unique hdelay h' h, fun heq => heq ▸ h⟩

end Name

/-! ## What is built in -/

theorem onlyOf_delayWrite : delayWrite.OnlyOf .delay where
  isOf_iff := by
    -- a delay has a package, so its name tells nothing
    intro k
    cases k with
    | terminal d => cases d <;> decide
    | operator => decide
    | number => decide
    | delay => decide
  inputs := rfl
  outputs := rfl
  stateful := by decide

theorem onlyOf_terminal (d : Direction) (name : String) : (terminal d name).OnlyOf (.terminal d) where
  isOf_iff := isOf_iff_of_isOf (by cases d <;> rfl) (k := .terminal d) (isTerminalOf_terminal d name)
  inputs := by cases d <;> rfl
  outputs := by cases d <;> rfl
  stateful := by cases d <;> simp [terminal, ofNames]

theorem onlyOf_operator {op : String} (h : op ∈ operators) : (operator op).OnlyOf .operator where
  isOf_iff := isOf_iff_of_isOf rfl (k := .operator) (List.contains_iff_mem.mpr h)
  inputs := rfl
  outputs := rfl
  stateful := by simp [operator, ofNames]

theorem onlyOf_number {text : String} (h : (parseConstant? text).isSome = true) : (number text).OnlyOf .number where
  isOf_iff := isOf_iff_of_isOf rfl (k := .number) h
  inputs := rfl
  outputs := rfl
  stateful := by simp [number, ofNames]

/-- What the factory does not make of itself is of no kind. -/
theorem isOf_provided {origin : Origin} (hnone : builtin? origin = none) (c : Capability) (k : BuiltinKind) :
    (provided origin c).isOf k = false := by
  have hno : ∀ {found : Node}, builtin? (provided origin c).origin = some found → False := by
    intro found hfound
    rw [show (provided origin c).origin = origin from rfl, hnone] at hfound
    exact absurd hfound (by simp)
  refine Bool.eq_false_iff.mpr fun h => ?_
  cases k with
  | terminal d =>
      obtain ⟨name, hname⟩ := builtin?_of_isTerminalOf h
      exact hno hname
  | operator => exact hno (builtin?_of_isOperator h)
  | number => exact hno (builtin?_of_isConstant h)
  | delay => exact absurd h (by simp [isOf, isDelayWrite, provided, ofNames])

/-- What the factory makes of itself is of one kind. -/
theorem exists_onlyOf {origin : Origin} {node : Node} (h : builtin? origin = some node) : ∃ k, node.OnlyOf k := by
  have hbuilt : Built (fun _ => none) origin node := built_of_builtin? h
  cases hbuilt with
  | delay => exact ⟨_, onlyOf_delayWrite⟩
  | terminal d name => exact ⟨_, onlyOf_terminal d name⟩
  | operator hop => exact ⟨_, onlyOf_operator hop⟩
  | number hvalue => exact ⟨_, onlyOf_number hvalue⟩
  | provided _ hresolve _ => exact absurd hresolve (by simp)

section Build

variable {resolve : Origin → Option Capability} {origin : Origin} {node : Node}

/-- What a usable capability takes and gives is signals, and it takes or gives at least one. -/
theorem signals_of_isUsable {c : Capability} (h : c.isUsable = true) :
    (∀ p ∈ c.process.params ++ c.process.results, p.kind = .f32)
      ∧ 0 < c.process.params.length + c.process.results.length := by
  unfold Capability.isUsable Signature.isAllSignals at h
  simp only [Bool.and_eq_true, Bool.not_eq_true', Bool.and_eq_false_iff, List.all_eq_true, beq_iff_eq] at h
  obtain ⟨⟨-, hsome⟩, hall⟩ := h
  refine ⟨hall, ?_⟩
  rcases hsome with hne | hne
  · have hpos := List.length_pos_iff.mpr (List.isEmpty_eq_false_iff.mp hne)
    omega
  · have hpos := List.length_pos_iff.mpr (List.isEmpty_eq_false_iff.mp hne)
    omega

/-- The ports of a node that was made of a capability, and whether it keeps state. -/
structure MadeOf (node : Node) (c : Capability) : Prop where
  /-- The inputs are named after the parameters. -/
  inputs : node.inputs.map (·.name) = c.process.params.map (·.name)
  /-- The outputs are named after the results. -/
  outputs : node.outputs.map (·.name) = c.process.results.map (·.name)
  /-- Nothing but signals is taken and given. -/
  signals : ∀ p ∈ c.process.params ++ c.process.results, p.kind = .f32
  /-- There is a port. -/
  connectable : 0 < node.inputs.length + node.outputs.length

theorem madeOf_provided {c : Capability} (h : c.isUsable = true) (origin : Origin) : (provided origin c).MadeOf c := by
  have hnames : ∀ ps : List Param, ((ps.map (·.name)).map fun name => ({ name } : Port)).map (·.name)
      = ps.map (·.name) := by
    intro ps
    rw [List.map_map]
    exact List.map_id _
  obtain ⟨hsignals, hpos⟩ := signals_of_isUsable h
  refine ⟨hnames _, hnames _, hsignals, ?_⟩
  simpa [provided, ofNames] using hpos

/--
**A node that was built can be told by what it is.** From its own origin the same node is built again. No two kinds of
what is built in hold of it, and the one that holds tells how many ports it has. It keeps state exactly if it is a delay
or if a stateful capability was looked up for its origin. If it is of no kind, a capability was looked up, whose names
its ports bear in order; there is at least one port, and all of them are signals.
-/
theorem built_nodes_told_apart (h : build resolve origin = .ok node) :
    build resolve node.origin = .ok node
      ∧ (∀ k k', node.isOf k = true → node.isOf k' = true → k = k')
      ∧ (∀ k, node.isOf k = true → node.inputs.length = k.inputs ∧ node.outputs.length = k.outputs)
      ∧ (node.stateful = true ↔ node.isOf .delay = true
        ∨ builtin? origin = none ∧ ∃ init process, resolve origin = some (.stateful init process))
      ∧ ((∀ k, node.isOf k = false) → builtin? origin = none ∧ ∃ c, resolve origin = some c ∧ node.MadeOf c) := by
  refine ⟨(built_of_build h).build_again, ?_⟩
  rcases build_cases h with hbuiltin | ⟨hnone, c, hresolve, husable, rfl⟩
  · obtain ⟨k, hk⟩ := exists_onlyOf hbuiltin
    have honly : ∀ k', node.isOf k' = true → k' = k := fun k' => (hk.isOf_iff k').mp
    refine ⟨fun k' k'' h' h'' => (honly k' h').trans (honly k'' h'').symm, ?_, ?_, fun hno => ?_⟩
    · intro k' h'
      rw [honly k' h']
      exact ⟨hk.inputs, hk.outputs⟩
    · rw [hk.stateful, hk.isOf_iff, hbuiltin, @eq_comm _ k]
      simp
    · exact absurd ((hk.isOf_iff k).mpr rfl) (by rw [hno k]; simp)
  · have hno := isOf_provided hnone c
    refine ⟨fun k _ hk => ?_, fun k hk => ?_, ?_, fun _ => ⟨hnone, c, hresolve, madeOf_provided husable origin⟩⟩
    · exact absurd hk (by rw [hno k]; simp)
    · exact absurd hk (by rw [hno k]; simp)
    · have hstate : (provided origin c).stateful = c.isStateful := rfl
      rw [hstate, hno, hresolve]
      cases c with
      | function s => simp [Capability.isStateful]
      | stateful init process => simp [Capability.isStateful, hnone]

end Build

/-- The oscillator of the standard library. -/
def oscillator : Node :=
  provided ⟨standardPackage, "Oscillator"⟩
    (.stateful ⟨[⟨"c", .config⟩], []⟩ ⟨[⟨"freq", .f32⟩], [⟨"sin", .f32⟩, ⟨"cos", .f32⟩]⟩)

/-- A node of a package keeps state, and a number that was written with blanks is built again without them. -/
theorem oscillator_and_number_told_apart :
    (build Manifest.standard.resolve ⟨standardPackage, "Oscillator"⟩ = .ok oscillator
        ∧ build Manifest.standard.resolve oscillator.origin = .ok oscillator
        ∧ (∃ c, Manifest.standard.resolve ⟨standardPackage, "Oscillator"⟩ = some c ∧ oscillator.MadeOf c))
      ∧ build (fun _ => none) ⟨"", " 2.5 "⟩ = .ok (number "2.5")
      ∧ build (fun _ => none) (number "2.5").origin = .ok (number "2.5")
      ∧ ∀ k, (number "2.5").isOf k = true → k = .number := by
  have hoscillator : build Manifest.standard.resolve ⟨standardPackage, "Oscillator"⟩ = .ok oscillator := by
    decide
  have hnumber : build (fun _ => none) ⟨"", " 2.5 "⟩ = .ok (number "2.5") := by decide
  obtain ⟨hagain, -, -, -, hmade⟩ := built_nodes_told_apart hoscillator
  obtain ⟨hagain', hunique, -⟩ := built_nodes_told_apart hnumber
  have hno : ∀ k, oscillator.isOf k = false := by
    intro k
    cases k with
    | terminal d => cases d <;> decide
    | operator => decide
    | number => decide
    | delay => decide
  have hof : (number "2.5").isOf .number = true := by decide
  exact ⟨⟨hoscillator, hagain, (hmade hno).2⟩, hnumber, hagain', fun k hk => hunique k .number hk hof⟩

end Node

end SignalGraph
