import SignalGraph.Arrangement.Search
import SignalGraph.Proofs.Factory

/-!
# Names move nothing

What the parameters and results are called does not show in a drawing. The layers and their orders, the routes and the
crossings are those of the `anonymous` graph, in which terminals bear their marks alone and the graph has no name: nodes
are placed by their connections and by whether they are terminals or numbers, terminals are ordered by their places in
their sequences, and names are compared between nodes that are no terminals. A terminal is no number whatever it is
called, since its mark comes first.

A graph whose terminals were renamed is the same without their names. So it is drawn as it was before.
-/

namespace SignalGraph

/-! ## Nodes without names -/

namespace Node

/-- A terminal under its mark alone, with ports of no name. -/
def unnamed (node : Node) (d : Direction) : Node :=
  { node with
    origin.name := terminalMark d
    inputs := node.inputs.map fun p => { p with name := "" }
    outputs := node.outputs.map fun p => { p with name := "" } }

/-- The node without the names that a terminal can be given. -/
def anonymous (node : Node) : Node :=
  if node.isInputTerminal then node.unnamed .input
  else if node.isOutputTerminal then node.unnamed .output
  else node

section Anonymous

variable {node node' : Node}

theorem anonymous_of_isTerminalOf {d : Direction} (h : node.isTerminalOf d = true) :
    node.anonymous = node.unnamed d := by
  unfold anonymous
  cases d with
  | input => exact if_pos h
  | output =>
      have hin : ¬node.isInputTerminal = true := fun hin => absurd (direction_unique hin h) (by decide)
      rw [if_neg hin]
      exact if_pos h

theorem anonymous_of_not_isTerminal (h : node.isTerminal = false) : node.anonymous = node := by
  unfold isTerminal at h
  rw [Bool.or_eq_false_iff] at h
  unfold anonymous
  rw [if_neg (by rw [h.1]; simp), if_neg (by rw [h.2]; simp)]

/-- A node is a terminal of some direction, or it has no name to lose. -/
theorem anonymous_cases (node : Node) :
    (∃ d, node.isTerminalOf d = true ∧ node.anonymous = node.unnamed d) ∨ node.anonymous = node := by
  cases hterminal : node.isTerminal with
  | false => exact Or.inr (anonymous_of_not_isTerminal hterminal)
  | true =>
      refine Or.inl ?_
      unfold isTerminal at hterminal
      rcases Bool.or_eq_true_iff.mp hterminal with hin | hout
      · exact ⟨.input, hin, anonymous_of_isTerminalOf hin⟩
      · exact ⟨.output, hout, anonymous_of_isTerminalOf hout⟩

theorem samePlace_anonymous (node : Node) : SamePlace node.anonymous node := by
  have hlists : ∀ ps : List Port,
      (ps.map fun p => { p with name := "" }).map Port.connections = ps.map Port.connections := by
    intro ps
    rw [List.map_map]
    rfl
  rcases node.anonymous_cases with ⟨d, hd, heq⟩ | heq
  · rw [heq]
    exact ⟨isTerminalOf_of_mark hd rfl (String.append_empty).symm, hlists _, hlists _⟩
  · rw [heq]
    exact ⟨fun _ => rfl, rfl, rfl⟩

theorem isTerminal_of_samePlace (h : SamePlace node' node) : node'.isTerminal = node.isTerminal := by
  unfold isTerminal isInputTerminal isOutputTerminal
  rw [h.terminal, h.terminal]

/-- No name makes a terminal a number. -/
theorem isConstant_anonymous (node : Node) : node.anonymous.isConstant = node.isConstant := by
  rcases node.anonymous_cases with ⟨d, hd, -⟩ | heq
  · have hmark : node.anonymous.isTerminalOf d = true := ((samePlace_anonymous node).terminal d).trans hd
    rw [isConstant_of_isTerminalOf hd, isConstant_of_isTerminalOf hmark]
  · rw [heq]

/-- A terminal that was renamed is the same without its name. -/
theorem anonymous_renamedTerminal {name : String} (h : Graph.renamedTerminal? node name = some node') :
    node'.anonymous = node.anonymous := by
  have hblank := map_modify_of_absorb (fun p : Port => { p with name }) (fun p => { p with name := "" }) fun _ => rfl
  have hplace := renamedTerminal?_samePlace h
  unfold Graph.renamedTerminal? at h
  dsimp only at h
  split at h
  · rename_i hin
    have hin' : node'.isTerminalOf .input = true := (hplace.terminal .input).trans hin
    rw [anonymous_of_isTerminalOf hin, anonymous_of_isTerminalOf hin']
    injection h with h
    rw [← h]
    unfold unnamed modifyOutput
    dsimp only
    rw [hblank]
  · split at h
    · rename_i hout
      have hout' : node'.isTerminalOf .output = true := (hplace.terminal .output).trans hout
      rw [anonymous_of_isTerminalOf hout, anonymous_of_isTerminalOf hout']
      injection h with h
      rw [← h]
      unfold unnamed modifyInput
      dsimp only
      rw [hblank]
    · exact absurd h (by simp)

end Anonymous

theorem terminalName?_of_mark {node : Node} {d : Direction} {name : String} (hbuiltin : node.origin.isBuiltin = true)
    (hname : node.origin.name = terminalMark d ++ name) : node.terminalName? = some name := by
  unfold terminalName?
  rw [if_pos hbuiltin, hname]
  have hfound : Text.stripPrefix? (terminalMark d) (terminalMark d ++ name) = some name :=
    Text.stripPrefix?_eq_some_iff.mpr rfl
  cases d with
  | input =>
      rw [hfound]
      rfl
  | output =>
      -- the mark of an input is looked for first, and it is not there
      have hnone : Text.stripPrefix? (terminalMark .input) (terminalMark .output ++ name) = none := by
        rw [Option.eq_none_iff_forall_ne_some]
        intro t ht
        exact terminalMark_ne t name (Text.stripPrefix?_eq_some_iff.mp ht).symm
      rw [hnone, hfound]
      rfl

/-- Every terminal takes every name. -/
theorem exists_renamedTerminal {node : Node} (h : node.isTerminal = true) (name : String) :
    ∃ node', Graph.renamedTerminal? node name = some node' ∧ node'.terminalName? = some name := by
  unfold Graph.renamedTerminal?
  dsimp only
  split
  · rename_i hin
    exact ⟨_, rfl, terminalName?_of_mark (isTerminalOf_iff.mp hin).1 rfl⟩
  · rename_i hnot
    unfold isTerminal at h
    have hout : node.isOutputTerminal = true := (Bool.or_eq_true_iff.mp h).resolve_left hnot
    rw [if_pos hout]
    exact ⟨_, rfl, terminalName?_of_mark (isTerminalOf_iff.mp hout).1 rfl⟩

end Node

namespace Graph

/-! ## Graphs without names -/

/-- The graph without its name and those of its terminals. -/
def anonymous (g : Graph) : Graph := { g with name := "", arena := g.arena.mapValues fun _ => Node.anonymous }

section Anonymous

variable (g : Graph)

theorem node?_anonymous (n : NodeId) : g.anonymous.node? n = (g.node? n).map Node.anonymous :=
  Table.get?_mapValues g.arena _ n

/-- What does not show in a node without its name does not show in a graph without names. -/
theorem any_anonymous {is : Node → Bool} (h : ∀ node : Node, is node.anonymous = is node) (n : NodeId) :
    (g.anonymous.node? n).any is = (g.node? n).any is := by
  rw [node?_anonymous]
  cases g.node? n with
  | none => rfl
  | some node => exact h node

theorem isTerminal_anonymous (n : NodeId) :
    (g.anonymous.node? n).any Node.isTerminal = (g.node? n).any Node.isTerminal :=
  g.any_anonymous (fun node => Node.isTerminal_of_samePlace node.samePlace_anonymous) n

/-! ## Ranks without names -/

theorem predecessors_anonymous (n : NodeId) : g.anonymous.predecessors n = g.predecessors n := by
  have hlists : ∀ node : Node, node.anonymous.inputs.flatMap (·.connections) = node.inputs.flatMap (·.connections) := by
    intro node
    rw [List.flatMap_def, List.flatMap_def]
    exact congrArg List.flatten node.samePlace_anonymous.incoming
  unfold predecessors
  rw [node?_anonymous]
  cases g.node? n with
  | none => rfl
  | some node =>
      dsimp only [Option.map_some]
      rw [hlists]
      rfl

theorem isSink_anonymous (n : NodeId) : g.anonymous.isSink n = g.isSink n := by
  have hall : ∀ node : Node,
      (node.outputs.all fun p => !p.isConnected) = node.outgoing.all fun cs => !!cs.isEmpty := by
    intro node
    rw [Node.outgoing, List.all_map]
    rfl
  refine g.any_anonymous (fun node => ?_) n
  rw [hall, hall, node.samePlace_anonymous.outgoing]

theorem sinks_anonymous : g.anonymous.sinks = g.sinks :=
  List.filter_congr fun n _ => g.isSink_anonymous n

theorem ranks_anonymous : g.anonymous.ranks = g.ranks := by
  have hsize : g.anonymous.arena.size = g.arena.size := List.length_map _
  unfold ranks
  rw [sinks_anonymous, funext g.predecessors_anonymous, hsize]

theorem trailSinks_anonymous (r : Ranks) : g.anonymous.trailSinks r = g.trailSinks r := by
  have htrailing : ∀ rank n, g.anonymous.trailingRank r.first rank n = g.trailingRank r.first rank n := by
    intro rank n
    unfold trailingRank
    rw [predecessors_anonymous]
  unfold trailSinks
  rw [sinks_anonymous]
  simp only [htrailing]

theorem pinTerminals_anonymous (d : Direction) (rank fresh : Int) (t : Table NodeId Int) :
    g.anonymous.pinTerminals d rank fresh t = g.pinTerminals d rank fresh t := by
  have hshares : g.anonymous.sharesFirst d = g.sharesFirst d := by
    funext n
    unfold sharesFirst
    rw [g.any_anonymous Node.isConstant_anonymous]
  have hports : g.anonymous.terminals d = g.terminals d := by cases d <;> rfl
  unfold pinTerminals
  rw [hshares, hports]
  rfl

theorem finalRanks_anonymous : g.anonymous.finalRanks = g.finalRanks := by
  unfold finalRanks
  simp only [ranks_anonymous, trailSinks_anonymous, pinTerminals_anonymous]
  rfl

end Anonymous

end Graph

/-! ## The order within layers without names -/

namespace Surroundings

/-- The surroundings without the names of terminals. -/
def anonymous (s : Surroundings) : Surroundings := { s with graph := s.graph.anonymous }

theorem compareTerminals_anonymous (s : Surroundings) (a b : NodeId) :
    s.anonymous.compareTerminals a b = s.compareTerminals a b := by
  have hout : ∀ n,
      (s.anonymous.graph.node? n).any Node.isOutputTerminal = (s.graph.node? n).any Node.isOutputTerminal :=
    s.graph.any_anonymous fun node => node.samePlace_anonymous.terminal .output
  unfold compareTerminals
  dsimp only
  rw [hout, hout]
  rfl

/-- Names are compared between nodes that have none to lose. -/
theorem compareNodes_anonymous (s : Surroundings) {a b : NodeId} (ha : (s.graph.node? a).any Node.isTerminal = false)
    (hb : (s.graph.node? b).any Node.isTerminal = false) : s.anonymous.compareNodes a b = s.compareNodes a b := by
  have hnode : ∀ n, (s.graph.node? n).any Node.isTerminal = false → s.anonymous.graph.node? n = s.graph.node? n := by
    intro n hn
    refine (s.graph.node?_anonymous n).trans ?_
    cases hnode : s.graph.node? n with
    | none => rfl
    | some node =>
        rw [hnode] at hn
        rw [Option.map_some, Node.anonymous_of_not_isTerminal hn]
  unfold compareNodes
  rw [hnode a ha, hnode b hb]
  rfl

theorem sortLayer_anonymous (s : Surroundings) (layer : List NodeId) :
    s.anonymous.sortLayer layer = s.sortLayer layer := by
  have hsort : ∀ {cmp cmp' : NodeId → NodeId → Bool} {ns : List NodeId},
      (∀ a ∈ ns, ∀ b ∈ ns, cmp a b = cmp' a b) → ns.mergeSort cmp = ns.mergeSort cmp' := by
    intro cmp cmp' ns hsame
    have hmap := List.map_mergeSort (f := id) hsame
    rwa [List.map_id, List.map_id] at hmap
  have hterminal : ∀ n, (s.anonymous.graph.node? n).any Node.isTerminal = (s.graph.node? n).any Node.isTerminal :=
    s.graph.isTerminal_anonymous
  unfold sortLayer
  dsimp only
  simp only [hterminal]
  congr 1
  · exact hsort fun a _ b _ => by rw [compareTerminals_anonymous]
  · refine hsort fun a ha b hb => ?_
    -- the terminals are sorted apart, so no name of theirs comes here
    have hplain : ∀ n ∈ layer.filter (fun n => !(s.graph.node? n).any Node.isTerminal),
        (s.graph.node? n).any Node.isTerminal = false := by
      intro n hn
      simpa using (List.mem_filter.mp hn).2
    rw [s.compareNodes_anonymous (hplain a ha) (hplain b hb)]

theorem sortLayers_anonymous (s : Surroundings) (layers : List (List NodeId)) :
    s.anonymous.sortLayers layers = s.sortLayers layers := by
  induction layers generalizing s with
  | nil => rfl
  | cons layer layers ih =>
      unfold sortLayers
      dsimp only
      rw [s.sortLayer_anonymous layer]
      -- a layer that stands in the same order leaves the same places to those behind it
      exact congrArg _ (ih (s.settle (s.sortLayer layer)))

end Surroundings

/-! ## Drawings without names -/

theorem Hops.of_anonymous (g : Graph) (a : Arrangement) : Hops.of g.anonymous a = Hops.of g a := by
  have hcount : ∀ {ports : Node → List Port}, (∀ node : Node, (ports node.anonymous).length = (ports node).length) →
      Hops.portCount g.anonymous ports = Hops.portCount g ports := by
    intro ports hports
    funext s
    cases s with
    | placeholder k => rfl
    | node n =>
        unfold Hops.portCount
        dsimp only
        rw [g.node?_anonymous]
        cases g.node? n with
        | none => rfl
        | some node => exact hports node
  have hinputs : ∀ node : Node, node.anonymous.inputs.length = node.inputs.length := by
    intro node
    have hlists := congrArg List.length node.samePlace_anonymous.incoming
    rwa [Node.incoming, Node.incoming, List.length_map, List.length_map] at hlists
  have houtputs : ∀ node : Node, node.anonymous.outputs.length = node.outputs.length := by
    intro node
    have hlists := congrArg List.length node.samePlace_anonymous.outgoing
    rwa [Node.outgoing, Node.outgoing, List.length_map, List.length_map] at hlists
  unfold Hops.of
  rw [hcount hinputs, hcount houtputs]
  rfl

theorem arrangeLayers_anonymous (g : Graph) (l : Layering) (config : ArrangeConfig) :
    arrangeLayers g.anonymous l config = arrangeLayers g l config := by
  unfold arrangeLayers
  dsimp only
  rw [show Arrangement.ofLayering g.anonymous l = Arrangement.ofLayering g l from rfl, Hops.of_anonymous]
  rfl

namespace Graph

theorem assignLayers_anonymous (g : Graph) : g.anonymous.assignLayers = g.assignLayers := by
  have horder : ∀ t layers, g.anonymous.orderLayers t layers = g.orderLayers t layers :=
    fun t layers => Surroundings.sortLayers_anonymous ⟨g, t, g.terminalPlaces⟩ layers
  unfold assignLayers
  simp only [finalRanks_anonymous, horder]
  rfl

/-! ## Giving names -/

/-- A name that is given. -/
inductive Naming where
  /-- To a terminal. -/
  | terminal (n : NodeId) (name : String)
  /-- To the graph. -/
  | graph (name : String)

/-- Give a name, or leave the graph as it is if there is no such terminal. -/
def call (g : Graph) : Naming → Graph
  | .terminal n name => (g.perform (.rename n name)).2
  | .graph name => { g with name }

/-- Give names one after the other. -/
def callAll (g : Graph) (namings : List Naming) : Graph := namings.foldl call g

/-- `g'` has the structure of `g`, and it is drawn in the same way. -/
structure DrawnAlike (g g' : Graph) : Prop where
  layers : g'.assignLayers = g.assignLayers
  /-- Layers, placeholders, routes and the numbers of crossings are the same. -/
  arrangement : ∀ config, g'.arrange config = g.arrange config
  inPorts : g'.inPorts = g.inPorts
  body : g'.body = g.body
  outPorts : g'.outPorts = g.outPorts
  connections : g'.connections = g.connections
  /-- A node has the marks that it had. -/
  marks : ∀ n, (g'.node? n).map Node.isTerminalOf = (g.node? n).map Node.isTerminalOf
  /-- Its inputs list the same connections. -/
  inputs : ∀ n, (g'.node? n).map Node.incoming = (g.node? n).map Node.incoming
  /-- Its outputs list the same connections. -/
  outputs : ∀ n, (g'.node? n).map Node.outgoing = (g.node? n).map Node.outgoing

/-- Graphs that are the same without names are drawn alike. -/
theorem drawnAlike_of_anonymous {g g' : Graph} (h : g'.anonymous = g.anonymous) : DrawnAlike g g' := by
  have hlayers : g'.assignLayers = g.assignLayers := by
    rw [← g'.assignLayers_anonymous, h, g.assignLayers_anonymous]
  have hview : ∀ {α : Type} {view : Node → α}, (∀ node : Node, view node.anonymous = view node) →
      ∀ n, (g'.node? n).map view = (g.node? n).map view := by
    intro α view hsame n
    have hnodes : (g'.node? n).map Node.anonymous = (g.node? n).map Node.anonymous := by
      rw [← node?_anonymous, h, node?_anonymous]
    have hviews := congrArg (Option.map view) hnodes
    rw [Option.map_map, Option.map_map] at hviews
    rwa [show view ∘ Node.anonymous = view from funext hsame] at hviews
  refine {
    layers := hlayers
    arrangement := fun config => ?_
    inPorts := show g'.anonymous.inPorts = g.anonymous.inPorts from congrArg _ h
    body := show g'.anonymous.body = g.anonymous.body from congrArg _ h
    outPorts := show g'.anonymous.outPorts = g.anonymous.outPorts from congrArg _ h
    connections := show g'.anonymous.connections = g.anonymous.connections from congrArg _ h
    marks := hview fun node => funext node.samePlace_anonymous.terminal
    inputs := hview fun node => node.samePlace_anonymous.incoming
    outputs := hview fun node => node.samePlace_anonymous.outgoing }
  unfold arrange
  rw [hlayers, ← arrangeLayers_anonymous g', h, arrangeLayers_anonymous]

theorem anonymous_renameTerminal {g g' : Graph} {n : NodeId} {name : String} (h : g.renameTerminal n name = .ok g') :
    g'.anonymous = g.anonymous := by
  obtain ⟨node, node', hnode, hren, rfl⟩ := renameTerminal_eq_ok_iff.mp h
  unfold anonymous
  rw [Table.mapValues_set hnode (Node.anonymous_renamedTerminal hren)]

theorem anonymous_call (g : Graph) (naming : Naming) : (g.call naming).anonymous = g.anonymous := by
  cases naming with
  | graph name => rfl
  | terminal n name =>
      unfold call perform
      dsimp only
      cases hren : g.renameTerminal n name with
      | ok g' => exact anonymous_renameTerminal hren
      | error e => rfl

theorem anonymous_callAll (g : Graph) (namings : List Naming) : (g.callAll namings).anonymous = g.anonymous := by
  induction namings generalizing g with
  | nil => rfl
  | cons naming namings ih => exact (ih (g.call naming)).trans (g.anonymous_call naming)

/-- A terminal takes the name that it is given. -/
theorem exists_node?_call {g : Graph} {n : NodeId} {node : Node} (hn : g.node? n = some node)
    (hterminal : node.isTerminal = true) (name : String) :
    ∃ node', (g.call (.terminal n name)).node? n = some node' ∧ node'.terminalName? = some name := by
  obtain ⟨node', hren, hname⟩ := Node.exists_renamedTerminal hterminal name
  refine ⟨node', ?_, hname⟩
  unfold call perform
  dsimp only
  rw [renameTerminal_eq_ok_iff.mpr ⟨node, node', hn, hren, rfl⟩]
  exact Table.get?_set_self _ _ _

/--
**Names move nothing.** Whatever names are given to the terminals of a graph and to the graph itself, one after the
other, also names that others bear, numbers, operators and no names at all: the layers stay, and so does every
arrangement with its placeholders, routes and crossings, whatever its settings. The sequences and the connections are
the same, and each node has the marks that it had and lists the same connections. Still the names are given: a terminal
that is called something bears that name.
-/
theorem names_move_nothing (g : Graph) (namings : List Naming) :
    DrawnAlike g (g.callAll namings)
      ∧ ∀ n node name, (g.callAll namings).node? n = some node → node.isTerminal = true →
        ∃ node', (g.callAll (namings ++ [.terminal n name])).node? n = some node'
          ∧ node'.terminalName? = some name := by
  refine ⟨drawnAlike_of_anonymous (g.anonymous_callAll namings), fun n node name hn hterminal => ?_⟩
  unfold callAll at hn ⊢
  rw [List.foldl_append]
  exact exists_node?_call hn hterminal name

/-- An input that is led to an output. -/
def wireEdits : List Edit := [.insert .input 0 "x", .insert .output 0 "y", .connect ⟨⟨0⟩, 0⟩ ⟨⟨1⟩, 0⟩]

/-- The input can be called by a number, and the graph need not have a name. -/
theorem numbered_input_called :
    let g := (empty "wire").run wireEdits
    DrawnAlike g (g.callAll [.graph "", .terminal ⟨0⟩ "2.5"])
      ∧ ∃ node, (g.callAll [.graph "", .terminal ⟨0⟩ "2.5"]).node? ⟨0⟩ = some node
        ∧ node.terminalName? = some "2.5" := by
  have hterminal : ((((empty "wire").run wireEdits).callAll [.graph ""]).node? ⟨0⟩).map Node.isTerminal = some true := by
    cbv
  obtain ⟨node, hnode, hmark⟩ := Option.map_eq_some_iff.mp hterminal
  obtain ⟨-, hcalled⟩ := names_move_nothing ((empty "wire").run wireEdits) [.graph ""]
  obtain ⟨halike, -⟩ := names_move_nothing ((empty "wire").run wireEdits) [.graph "", .terminal ⟨0⟩ "2.5"]
  exact ⟨halike, hcalled ⟨0⟩ node "2.5" hnode hmark⟩

end Graph

end SignalGraph
