import SignalGraph.Proofs.Graph.WellFormed
import SignalGraph.Record.Basic

/-!
# Graphs under other numbers

Identities mean nothing outside of a graph, and the order in which its connections were made does not either.
`Renumbered` says that two graphs are the same up to both. A record keeps neither: it names nodes by their
places in the three sequences and lists connections by the input port at which they end, so renumbered graphs
have one record (`Renumbered.toRecord`).
-/

namespace SignalGraph

/-- The port of that index at the node under its other number. -/
def OutPort.renumber (ρ : NodeId → NodeId) (s : OutPort) : OutPort := ⟨ρ s.node, s.index⟩

/-- The port of that index at the node under its other number. -/
def InPort.renumber (ρ : NodeId → NodeId) (d : InPort) : InPort := ⟨ρ d.node, d.index⟩

theorem InPort.eq_of_renumber_eq {ρ : NodeId → NodeId} {d d' : InPort} (hρ : ρ d.node = ρ d'.node → d.node = d'.node)
    (h : d.renumber ρ = d'.renumber ρ) : d = d' := by
  obtain ⟨n, i⟩ := d
  obtain ⟨n', i'⟩ := d'
  injection h with hnode hindex
  rw [show n = n' from hρ hnode, show i = i' from hindex]

/-- The same part on the line of a node under another number. -/
def DelayLink.renumber (ρ : NodeId → NodeId) : DelayLink → DelayLink
  | write => write
  | read w => read (ρ w)

/-- The node, with the number of the owner of its line changed. -/
def Node.renumber (ρ : NodeId → NodeId) (n : Node) : Node := { n with delay := n.delay.map (DelayLink.renumber ρ) }

theorem Node.renumber_id (node : Node) : node.renumber id = node := by
  obtain ⟨origin, stateful, inputs, outputs, delay⟩ := node
  cases delay with
  | none => rfl
  | some link => cases link <;> rfl

namespace Graph

/-- `g'` has the nodes of `g` under other numbers, connections left aside. -/
structure SameNodes (ρ : NodeId → NodeId) (g g' : Graph) : Prop where
  /-- The graphs have one name. -/
  name : g'.name = g.name
  /-- No two nodes get the same number. -/
  injective : ∀ m ∈ g.allNodes, ∀ n ∈ g.allNodes, ρ m = ρ n → m = n
  /-- The input terminals, in their order. -/
  inPorts : g'.inPorts = g.inPorts.map ρ
  /-- The body, in its order. -/
  body : g'.body = g.body.map ρ
  /-- The output terminals, in their order. -/
  outPorts : g'.outPorts = g.outPorts.map ρ
  /-- Origin, state, names of ports and part in a delay line are those of the node before. -/
  node? : ∀ n node, g.node? n = some node →
    ∃ node', g'.node? (ρ n) = some node' ∧ node'.bare = node.bare.renumber ρ

/-- `g'` is `g` with other numbers. -/
structure Renumbered (ρ : NodeId → NodeId) (g g' : Graph) : Prop extends SameNodes ρ g g' where
  /-- The connections lead between the same ports. -/
  connects : ∀ s d, g'.Connects s d ↔ ∃ s₀ d₀, g.Connects s₀ d₀ ∧ s₀.renumber ρ = s ∧ d₀.renumber ρ = d

section SameNodes

variable {ρ : NodeId → NodeId} {g g' : Graph}

theorem SameNodes.allNodes (h : SameNodes ρ g g') : g'.allNodes = g.allNodes.map ρ := by
  unfold Graph.allNodes
  rw [h.inPorts, h.body, h.outPorts, List.map_append, List.map_append]

/-- A node has as many ports as under its other number. -/
theorem SameNodes.lengths (h : SameNodes ρ g g') {n : NodeId} {node node' : Node} (hn : g.node? n = some node)
    (hn' : g'.node? (ρ n) = some node') :
    node'.inputs.length = node.inputs.length ∧ node'.outputs.length = node.outputs.length := by
  obtain ⟨found, hfound, heq⟩ := h.node? n node hn
  rw [hn'] at hfound
  injection hfound with hfound
  subst hfound
  have hin := congrArg (fun m : Node => m.inputs.length) heq
  have hout := congrArg (fun m : Node => m.outputs.length) heq
  simp only [Node.bare, Node.renumber, List.length_map] at hin hout
  exact ⟨hin, hout⟩

/-! ## Places -/

theorem idxOf?_map_of_injective {xs : List NodeId} {n : NodeId} (h : ∀ m ∈ xs, ρ m = ρ n → m = n) :
    (xs.map ρ).idxOf? (ρ n) = xs.idxOf? n := by
  induction xs with
  | nil => rfl
  | cons x xs ih =>
      have hx := h x List.mem_cons_self
      have hhead : (ρ x == ρ n) = (x == n) := by
        rw [Bool.eq_iff_iff, beq_iff_eq, beq_iff_eq]
        exact ⟨hx, congrArg ρ⟩
      rw [List.map_cons, List.idxOf?_cons, List.idxOf?_cons, hhead, ih fun m hm => h m (List.mem_cons_of_mem _ hm)]

theorem SameNodes.place? (h : SameNodes ρ g g') {n : NodeId} (hn : n ∈ g.allNodes) :
    g'.place? (ρ n) = g.place? n := by
  unfold Graph.place?
  rw [h.allNodes, idxOf?_map_of_injective fun m hm => h.injective m hm n hn]

/-- The entry of a node does not depend on its number. -/
theorem SameNodes.nodeRecord (h : SameNodes ρ g g') (hg : g.WellFormed) {n : NodeId} {node node' : Node}
    (hn : g.node? n = some node) (hn' : node'.bare = node.bare.renumber ρ) (i : Nat) :
    g'.nodeRecord i node' = g.nodeRecord i node := by
  have horigin : node'.bare.origin = (node.bare.renumber ρ).origin := by rw [hn']
  have hdelay : node'.bare.delay = (node.bare.renumber ρ).delay := by rw [hn']
  change node'.origin = node.origin at horigin
  change node'.delay = node.delay.map (DelayLink.renumber ρ) at hdelay
  unfold Graph.nodeRecord
  rw [horigin, hdelay]
  cases hlink : node.delay with
  | none => rfl
  | some link =>
      cases link with
      | write => rfl
      | read w =>
          obtain ⟨writer, hw, -⟩ := hg.delays n node w hn hlink
          have hplace := h.place? (hg.mem_allNodes.mpr ⟨writer, hw⟩)
          simp only [Option.map_some, DelayLink.renumber, hplace]

end SameNodes

/-! ## Renumbered graphs have one record -/

section Renumbered

variable {ρ : NodeId → NodeId} {g g' : Graph}

theorem WellFormed.mem_of_connects (h : g.WellFormed) {s : OutPort} {d : InPort} (hc : g.Connects s d) :
    s.node ∈ g.allNodes ∧ d.node ∈ g.allNodes := by
  obtain ⟨c, hc⟩ := hc
  have hfeeds : g.Feeds s.node d.node := ⟨c, ⟨s, d⟩, hc, rfl, rfl⟩
  exact ⟨h.mem_allNodes.mpr (h.feeds_src_present hfeeds), h.mem_allNodes.mpr (h.feeds_dst_present hfeeds)⟩

theorem Renumbered.sourceOf? (h : Renumbered ρ g g') (hg : g.WellFormed) (hg' : g'.WellFormed) {n : NodeId}
    (hn : n ∈ g.allNodes) (i : Nat) : g'.sourceOf? ⟨ρ n, i⟩ = (g.sourceOf? ⟨n, i⟩).map (OutPort.renumber ρ) := by
  cases hs : g.sourceOf? ⟨n, i⟩ with
  | some s =>
      rw [Option.map_some, hg'.sourceOf?_eq_some_iff, h.connects]
      exact ⟨s, ⟨n, i⟩, hg.sourceOf?_eq_some_iff.mp hs, rfl, rfl⟩
  | none =>
      rw [Option.map_none, hg'.sourceOf?_eq_none_iff]
      intro s hc
      obtain ⟨s₀, d₀, hc₀, -, hd⟩ := (h.connects _ _).mp hc
      have hdst : d₀ = ⟨n, i⟩ := InPort.eq_of_renumber_eq (h.injective _ (hg.mem_of_connects hc₀).2 n hn) hd
      rw [hdst] at hc₀
      exact hg.sourceOf?_eq_none_iff.mp hs s₀ hc₀

theorem Renumbered.connectionRecords (h : Renumbered ρ g g') (hg : g.WellFormed) (hg' : g'.WellFormed) {n : NodeId}
    {node node' : Node} (hn : g.node? n = some node) (hn' : g'.node? (ρ n) = some node') (i : Nat) :
    g'.connectionRecords i (ρ n) node' = g.connectionRecords i n node := by
  unfold Graph.connectionRecords
  rw [(h.lengths hn hn').1]
  refine List.filterMap_congr ?_
  intro port _
  rw [h.sourceOf? hg hg' (hg.mem_allNodes.mpr ⟨node, hn⟩)]
  cases hs : g.sourceOf? ⟨n, port⟩ with
  | none => rfl
  | some s =>
      have hmem := (hg.mem_of_connects (hg.sourceOf?_eq_some_iff.mp hs)).1
      simp only [Option.map_some, bind, Option.bind_some, OutPort.renumber, h.place? hmem]

/-- What the record holds of a node at a place. -/
def row? (g : Graph) (e : NodeId × Nat) : Option (NodeRecord × List ConnectionRecord) :=
  (g.node? e.1).map fun node => (g.nodeRecord e.2 node, g.connectionRecords e.2 e.1 node)

/-- What the record holds, node by node. -/
def rows (g : Graph) : List (NodeRecord × List ConnectionRecord) := g.allNodes.zipIdx.filterMap g.row?

theorem toRecord_eq_rows (g : Graph) :
    g.toRecord = { name := g.name, nodes := g.rows.map Prod.fst, connections := g.rows.flatMap Prod.snd } := by
  have hrows : g.rows =
      (g.allNodes.zipIdx.filterMap fun e => (g.node? e.1).map fun node => (e.1, e.2, node)).map
        fun e => (g.nodeRecord e.2.1 e.2.2, g.connectionRecords e.2.1 e.1 e.2.2) := by
    unfold rows
    rw [List.map_filterMap]
    refine List.filterMap_congr ?_
    intro e _
    unfold row?
    rw [Option.map_map]
    rfl
  unfold toRecord
  rw [hrows, List.map_map, List.flatMap_map]
  rfl

theorem Renumbered.row? (h : Renumbered ρ g g') (hg : g.WellFormed) (hg' : g'.WellFormed) {n : NodeId}
    (hn : n ∈ g.allNodes) (i : Nat) : g'.row? (ρ n, i) = g.row? (n, i) := by
  obtain ⟨node, hnode⟩ := hg.mem_allNodes.mp hn
  obtain ⟨node', hnode', heq⟩ := h.node? n node hnode
  unfold Graph.row?
  dsimp only
  rw [hnode, hnode', Option.map_some, Option.map_some, h.nodeRecord hg hnode heq,
    h.connectionRecords hg hg' hnode hnode']

/-- A graph under other numbers has the record of the graph. -/
theorem Renumbered.toRecord (h : Renumbered ρ g g') (hg : g.WellFormed) (hg' : g'.WellFormed) :
    g'.toRecord = g.toRecord := by
  have hrows : g'.rows = g.rows := by
    unfold rows
    rw [h.allNodes, List.zipIdx_map, List.filterMap_map]
    refine List.filterMap_congr ?_
    rintro ⟨n, i⟩ he
    exact h.row? hg hg' (List.fst_mem_of_mem_zipIdx he) i
  rw [toRecord_eq_rows, toRecord_eq_rows, hrows, h.name]

end Renumbered

end Graph

end SignalGraph
