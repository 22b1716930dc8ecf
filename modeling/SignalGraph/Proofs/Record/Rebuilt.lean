import SignalGraph.Proofs.Record.RoundTrip

/-!
# Graphs that are read again

A graph whose nodes are what their origins build is read back from its record, and what comes back is such a graph
again, so that it can be written and read without end. Bytes and text differ only in how the record is written down.
-/

namespace SignalGraph

variable {resolve : Origin → Option Capability}

namespace Graph

variable {g g' : Graph}

/-- The invariant holds, and the nodes are what their origins build, or readers of delay lines. -/
structure BuiltFrom (resolve : Origin → Option Capability) (g : Graph) : Prop where
  wellFormed : g.WellFormed
  rebuilt : g.AllBare (Node.Rebuilds resolve)

theorem EditedBy.builtFrom (hg : g.EditedBy resolve) : g.BuiltFrom resolve where
  wellFormed := hg.rebuilds.1
  rebuilt := hg.rebuilds.2

theorem WellFormed.toRecord_countable (hwf : g.WellFormed) : g.toRecord.Countable where
  nodes := hwf.toRecord_lengths.1
  connections := hwf.toRecord_lengths.2

/-- The graph comes back from its record, with the places of its nodes as numbers, and has the same record. -/
theorem BuiltFrom.toGraph (hg : g.BuiltFrom resolve) (hports : g.PortsFit) :
    ∃ g', g.toRecord.toGraph resolve = .ok g' ∧ g'.BuiltFrom resolve ∧ g'.toRecord = g.toRecord
      ∧ Renumbered g.placed g g' := by
  obtain ⟨g', hload, hwf', hsame⟩ := hg.wellFormed.toGraph_toRecord hg.rebuilt hports
  obtain ⟨-, hbuilt⟩ := hg.wellFormed.toRecord_countable.accepted hload
  exact ⟨g', hload, ⟨hwf', hbuilt⟩, hsame.toRecord hg.wellFormed hwf', hsame⟩

/-- Reading the file of a graph is building the graph of its record. -/
theorem WellFormed.decode_encode (hwf : g.WellFormed) (hfits : g.Fits) (resolve : Origin → Option Capability) :
    decode g.encode resolve = (g.toRecord.toGraph resolve).mapError .record := by
  have hread := GraphRecord.decode_encode (hwf.toRecord_fits hfits) []
  rw [List.append_nil] at hread
  unfold decode encode
  rw [hread]

theorem WellFormed.decode_of_toGraph (hwf : g.WellFormed) (hfits : g.Fits) {resolve : Origin → Option Capability}
    (hload : g.toRecord.toGraph resolve = .ok g') : decode g.encode resolve = .ok g' := by
  rw [hwf.decode_encode hfits, hload]
  rfl

end Graph

end SignalGraph
