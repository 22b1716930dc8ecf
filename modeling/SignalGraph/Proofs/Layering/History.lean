import SignalGraph.Proofs.Layering.Canonical
import SignalGraph.Proofs.Record.Rebuilt

/-!
# What the order of connecting changes

Two histories that make the same connections in different orders end in graphs with the same layers, and so does
reading a graph back from its file. Within a layer, nodes may stand in another order: they are compared by the layers
that their outputs feed, connection by connection, in the order in which the connections were made
(`connecting_order_matters`). Nothing else of the history is seen.
-/

namespace SignalGraph

namespace Graph

variable {g g' : Graph}

/-- The graphs have the same nodes and connections, whatever the order in which the connections were made. -/
structure Reconnected (g g' : Graph) : Prop where
  name : g'.name = g.name
  inPorts : g'.inPorts = g.inPorts
  body : g'.body = g.body
  outPorts : g'.outPorts = g.outPorts
  /-- The nodes are the same but for the connections that their ports list. -/
  node? : ∀ n, (g'.node? n).map Node.bare = (g.node? n).map Node.bare
  connects : ∀ s d, g'.Connects s d ↔ g.Connects s d

theorem Reconnected.renumbered (h : Reconnected g g') : Renumbered id g g' where
  name := h.name
  injective := fun _ _ _ _ heq => heq
  inPorts := h.inPorts.trans (List.map_id _).symm
  body := h.body.trans (List.map_id _).symm
  outPorts := h.outPorts.trans (List.map_id _).symm
  node? := by
    intro n node hn
    have hsame := h.node? n
    rw [hn] at hsame
    obtain ⟨node', hnode', heq⟩ := Option.map_eq_some_iff.mp hsame
    exact ⟨node', hnode', heq.trans (Node.renumber_id _).symm⟩
  connects := by
    intro s d
    rw [h.connects]
    constructor
    · exact fun hc => ⟨s, d, hc, rfl, rfl⟩
    · rintro ⟨_, _, hc, rfl, rfl⟩
      exact hc

/--
**The layers follow from the structure.** Two histories of edits that give the same nodes and the same connections
place every node in the same layer, and so does reading a graph back from its file. The layers are the same, place by
place, if every output feeds layers in the same order.
-/
theorem layers_of_structure (hg : g.Attained) :
    (∀ g', g'.Attained → Reconnected g g' → SameLayers id g g')
      ∧ ∀ resolve, g.EditedBy resolve → g.Fits →
        ∃ g', decode g.encode resolve = .ok g' ∧ SameLayers g.placed g g' := by
  have hwf := hg.wellFormed
  constructor
  · intro g' hg' hsame
    exact hsame.renumbered.sameLayers hwf hg'.wellFormed
  · intro resolve hbuilds hfits
    obtain ⟨g', hload, hwf', hsame⟩ := hwf.toGraph_toRecord hbuilds.rebuilds.2 hfits.ports
    exact ⟨g', hwf.decode_of_toGraph hfits hload, hsame.sameLayers hwf hwf'⟩

/-! ## Outputs that feed two layers -/

/-- Five operators, connected in some order. -/
def fanHistory (cs : List Connection) : List Edit :=
  List.replicate 5 (.add (.operator "+")) ++ cs.map fun e => .connect e.src e.dst

def fan (cs : List Connection) : Graph := (empty "fan").run (fanHistory cs)

/-- The first operator feeds the last layer before the middle one, the second one after it. -/
def fanConnections : List Connection := [⟨⟨⟨0⟩, 0⟩, ⟨⟨3⟩, 0⟩⟩, ⟨⟨⟨0⟩, 0⟩, ⟨⟨2⟩, 0⟩⟩, ⟨⟨⟨1⟩, 0⟩, ⟨⟨2⟩, 1⟩⟩,
  ⟨⟨⟨1⟩, 0⟩, ⟨⟨4⟩, 0⟩⟩, ⟨⟨⟨2⟩, 0⟩, ⟨⟨3⟩, 1⟩⟩, ⟨⟨⟨2⟩, 0⟩, ⟨⟨4⟩, 1⟩⟩]

/-- The same connections in the order of a record, by the inputs that they lead to. -/
def savedConnections : List Connection := [⟨⟨⟨0⟩, 0⟩, ⟨⟨2⟩, 0⟩⟩, ⟨⟨⟨1⟩, 0⟩, ⟨⟨2⟩, 1⟩⟩, ⟨⟨⟨0⟩, 0⟩, ⟨⟨3⟩, 0⟩⟩,
  ⟨⟨⟨2⟩, 0⟩, ⟨⟨3⟩, 1⟩⟩, ⟨⟨⟨1⟩, 0⟩, ⟨⟨4⟩, 0⟩⟩, ⟨⟨⟨2⟩, 0⟩, ⟨⟨4⟩, 1⟩⟩]

/-- The same connections from the last operator to the first, but at each output as they were made at first. -/
def lateConnections : List Connection := [⟨⟨⟨2⟩, 0⟩, ⟨⟨3⟩, 1⟩⟩, ⟨⟨⟨2⟩, 0⟩, ⟨⟨4⟩, 1⟩⟩, ⟨⟨⟨1⟩, 0⟩, ⟨⟨2⟩, 1⟩⟩,
  ⟨⟨⟨1⟩, 0⟩, ⟨⟨4⟩, 0⟩⟩, ⟨⟨⟨0⟩, 0⟩, ⟨⟨3⟩, 0⟩⟩, ⟨⟨⟨0⟩, 0⟩, ⟨⟨2⟩, 0⟩⟩]

theorem fan_reachable (cs : List Connection) (hcs : cs.length < 2 ^ 16) :
    (fan cs).Reachable (Edit.Builds fun _ => none) := by
  refine ⟨"fan", fanHistory cs, ?_, ?_, rfl⟩
  · intro e he
    rcases List.mem_append.mp he with he | he
    · rw [List.eq_of_mem_replicate he]
      exact Or.inl ⟨⟨"", "+"⟩, rfl⟩
    · obtain ⟨ends, -, rfl⟩ := List.mem_map.mp he
      trivial
  · have hlen : (fanHistory cs).length = 5 + cs.length := by
      rw [fanHistory, List.length_append, List.length_replicate, List.length_map]
    refine roomFor_of_length ?_ ?_ <;>
      · rw [hlen]
        simp only [empty]
        change 0 + (5 + cs.length) < 2 ^ 32
        omega

/-- The graph with nothing connected. -/
def bare (g : Graph) : Graph :=
  { g with arena := g.arena.mapValues fun _ node => node.bare, connections := ∅, nextConnection := 0 }

/-- Graphs that differ in the connections that ports list and in the order of the table of connections. -/
theorem reconnected_of_bare (hbare : g'.bare = g.bare)
    (hconnections : g'.connections.values.Perm g.connections.values) : Reconnected g g' where
  name := (congrArg Graph.name hbare :)
  inPorts := (congrArg Graph.inPorts hbare :)
  body := (congrArg Graph.body hbare :)
  outPorts := (congrArg Graph.outPorts hbare :)
  node? := by
    intro n
    have hsame := congrArg (fun g : Graph => g.arena.get? n) hbare
    unfold bare at hsame
    dsimp only at hsame
    rwa [Table.get?_mapValues, Table.get?_mapValues] at hsame
  connects := by
    intro s d
    exact Table.mem_values_iff.symm.trans (hconnections.mem_iff.trans Table.mem_values_iff)

theorem fan_connections : (fan fanConnections).connections.values = fanConnections := by cbv

theorem fan_saved : Reconnected (fan fanConnections) (fan savedConnections) := by
  refine reconnected_of_bare (by cbv) ?_
  have hsaved : (fan savedConnections).connections.values = savedConnections := by cbv
  rw [hsaved, fan_connections]
  decide

theorem fan_late : Reconnected (fan fanConnections) (fan lateConnections) := by
  refine reconnected_of_bare (by cbv) ?_
  have hlate : (fan lateConnections).connections.values = lateConnections := by cbv
  rw [hlate, fan_connections]
  decide

theorem fan_fits : (fan fanConnections).Fits :=
  fits_of_tables (by decide +kernel) (by decide +kernel) (by decide +kernel)

/-- The layer of each operator. -/
def fanLayers : Table NodeId Nat := .ofList [(⟨3⟩, 2), (⟨0⟩, 0), (⟨2⟩, 1), (⟨1⟩, 0), (⟨4⟩, 2)]

theorem fan_assignLayers : (fan fanConnections).assignLayers
    = { layers := [[⟨1⟩, ⟨0⟩], [⟨2⟩], [⟨4⟩, ⟨3⟩]], nodeLayers := fanLayers } := by
  cbv

theorem fan_saved_assignLayers : (fan savedConnections).assignLayers
    = { layers := [[⟨0⟩, ⟨1⟩], [⟨2⟩], [⟨3⟩, ⟨4⟩]], nodeLayers := fanLayers } := by
  cbv

theorem fan_late_assignLayers : (fan lateConnections).assignLayers
    = { layers := [[⟨1⟩, ⟨0⟩], [⟨2⟩], [⟨4⟩, ⟨3⟩]], nodeLayers := fanLayers } := by
  cbv

/-- Connected from the last to the first, the operators stand as they stood. Read back, they are in their layers. -/
theorem late_layers :
    (fan fanConnections).Reachable Edit.Clean ∧ (fan lateConnections).Reachable Edit.Clean
      ∧ Reconnected (fan fanConnections) (fan lateConnections)
      ∧ (fan lateConnections).assignLayers.layers = [[⟨1⟩, ⟨0⟩], [⟨2⟩], [⟨4⟩, ⟨3⟩]]
      ∧ (∃ g', decode (fan fanConnections).encode (fun _ => none) = .ok g'
        ∧ SameLayers (fan fanConnections).placed (fan fanConnections) g') := by
  have hbuilds := fan_reachable fanConnections (by decide)
  have hclean : ∀ cs : List Connection, cs.length < 2 ^ 16 → (fan cs).Reachable Edit.Clean :=
    fun cs hcs => (fan_reachable cs hcs).mono fun _ he => he.clean
  have hfan := hclean fanConnections (by decide)
  have hlate := hclean lateConnections (by decide)
  obtain ⟨hother, hreload⟩ := layers_of_structure hfan.attained
  obtain ⟨-, -, hsame⟩ := hother _ hlate.attained fan_late
  have hfanOut : (fan lateConnections).allNodes.map (fan lateConnections).fanOut
      = (fan fanConnections).allNodes.map (fan fanConnections).fanOut := by
    unfold fanOut
    rw [fan_assignLayers, fan_late_assignLayers]
    cbv
  have hlateNodes : (fan lateConnections).allNodes = (fan fanConnections).allNodes := by cbv
  rw [hlateNodes] at hfanOut
  refine ⟨hfan, hlate, fan_late, ?_, hreload _ hbuilds.editedBy fan_fits⟩
  rw [hsame fun n hn => List.map_inj_left.mp hfanOut n hn, fan_assignLayers]
  rfl

/--
A graph whose connections are made again in the order of its record, as when it is read back from its file, has the
same layers, but two of them in another order.
-/
theorem connecting_order_matters :
    (fan fanConnections).Reachable (Edit.Builds fun _ => none)
      ∧ (fan savedConnections).Reachable (Edit.Builds fun _ => none)
      ∧ Reconnected (fan fanConnections) (fan savedConnections)
      ∧ decode (fan fanConnections).encode (fun _ => none) = .ok (fan savedConnections)
      ∧ (fan fanConnections).assignLayers.layers = [[⟨1⟩, ⟨0⟩], [⟨2⟩], [⟨4⟩, ⟨3⟩]]
      ∧ (fan savedConnections).assignLayers.layers = [[⟨0⟩, ⟨1⟩], [⟨2⟩], [⟨3⟩, ⟨4⟩]]
      ∧ (fan savedConnections).assignLayers.layers
        ≠ (fan fanConnections).assignLayers.layers.map (·.map (fan fanConnections).placed) := by
  have hreach := fan_reachable fanConnections (by decide)
  have hfirst : (fan fanConnections).assignLayers.layers = [[⟨1⟩, ⟨0⟩], [⟨2⟩], [⟨4⟩, ⟨3⟩]] :=
    congrArg Layering.layers fan_assignLayers
  have hsaved : (fan savedConnections).assignLayers.layers = [[⟨0⟩, ⟨1⟩], [⟨2⟩], [⟨3⟩, ⟨4⟩]] :=
    congrArg Layering.layers fan_saved_assignLayers
  have hload : (fan fanConnections).toRecord.toGraph (fun _ => none) = .ok (fan savedConnections) := by cbv
  have hplaced : (fan fanConnections).placed ⟨1⟩ = ⟨1⟩ := by cbv
  refine ⟨hreach, fan_reachable savedConnections (by decide), fan_saved, ?_, hfirst, hsaved, ?_⟩
  · exact hreach.editedBy.rebuilds.1.decode_of_toGraph fan_fits hload
  · rw [hfirst, hsaved]
    simp [hplaced]

end Graph

end SignalGraph
