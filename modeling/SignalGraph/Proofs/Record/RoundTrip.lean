import SignalGraph.Proofs.Bytes
import SignalGraph.Proofs.Record.Accepted
import SignalGraph.Proofs.Record.Rewiring

/-!
# Saving and loading

A graph of factory nodes is read back from its own file: no node is refused, because each is built from its
origin again, and no connection is, whatever the order of the table. The graph that comes back is the one that
was saved, with the places of its nodes in the table as their numbers, and it is saved to the same bytes.
-/

namespace SignalGraph

variable {resolve : Origin → Option Capability}

namespace Graph

variable {g : Graph}

/-! ## What a file has room for -/

/-- A file has room for the ports of what packages provide, unless a signature has more than `2 ^ 32` ports. -/
theorem EditedBy.portsFit (hg : g.EditedBy resolve)
    (hsignatures : ∀ origin c, resolve origin = some c →
      c.process.params.length ≤ 2 ^ 32 ∧ c.process.results.length ≤ 2 ^ 32) : g.PortsFit := by
  obtain ⟨hwf, hbuilt⟩ := hg.rebuilds
  rintro s d ⟨c, hc⟩
  obtain ⟨source, hsource, hs⟩ := exists_outgoing?_iff.mp (hwf.src_listed c _ hc)
  obtain ⟨target, htarget, hd⟩ := exists_incoming?_iff.mp (hwf.dst_listed c _ hc)
  have hout := ((hbuilt _ source hsource).ports_le (by decide) hsignatures).2
  have hin := ((hbuilt _ target htarget).ports_le (by decide) hsignatures).1
  exact ⟨Nat.lt_of_lt_of_le hs hout, Nat.lt_of_lt_of_le hd hin⟩

/--
Lengths and numbers that have room in a file. A text takes eight bytes for its length and a port four bytes for
its number. The numbers of nodes and of connections have room in every graph that edits can make.
-/
structure Fits (g : Graph) : Prop where
  /-- The name of the graph. -/
  name : Bytes.FitsText g.name
  /-- The origins of the nodes. -/
  origins : ∀ n node, g.node? n = some node → Bytes.FitsText node.origin.pkg ∧ Bytes.FitsText node.origin.name
  /-- The ports that are connected. -/
  ports : g.PortsFit

/-- What has room is seen in the tables. -/
theorem fits_of_tables (hname : Bytes.FitsText g.name)
    (horigins : ∀ o ∈ g.arena.values.map Node.origin, Bytes.FitsText o.pkg ∧ Bytes.FitsText o.name)
    (hports : ∀ ends ∈ g.connections.values, ends.src.index < 2 ^ 32 ∧ ends.dst.index < 2 ^ 32) : g.Fits where
  name := hname
  origins := fun n node hn => horigins node.origin (List.mem_map_of_mem (Table.mem_values_iff.mpr ⟨n, hn⟩))
  ports := by
    rintro s d ⟨c, hc⟩
    exact hports ⟨s, d⟩ (Table.mem_values_iff.mpr ⟨c, hc⟩)

theorem WellFormed.toRecord_fits (hwf : g.WellFormed) (h : g.Fits) : g.toRecord.Fits where
  name := h.name
  origins := by
    intro e he
    rw [toRecord_eq_rows] at he
    obtain ⟨row, hrow, rfl⟩ := List.mem_map.mp he
    obtain ⟨⟨n, i⟩, -, hrow⟩ := List.mem_filterMap.mp hrow
    obtain ⟨node, hn, rfl⟩ := Option.map_eq_some_iff.mp hrow
    exact h.origins n node hn
  nodes := Nat.lt_trans hwf.toRecord_lengths.1 (by decide)
  connections := Nat.lt_trans hwf.toRecord_lengths.2 (by decide)

/--
**Saving and loading is an isomorphism.** Every graph of factory nodes is read back from its file, by the factory that
made the nodes, whether it was new or read by this factory at first, and however it was edited. The nodes get the
places in the table as numbers, in the order of the three sequences; all else is as it was, and saving the new graph
gives the same file.
-/
theorem decode_encode_renumbered (hg : g.EditedBy resolve) (hfits : g.Fits) :
    ∃ g', decode g.encode resolve = .ok g' ∧ g'.WellFormed ∧ g'.encode = g.encode
      ∧ g'.allNodes = g.allNodes.map g.placed ∧ Renumbered g.placed g g' := by
  obtain ⟨hwf, hbuilt⟩ := hg.rebuilds
  obtain ⟨g', hload, hwf', hsame⟩ := hwf.toGraph_toRecord hbuilt hfits.ports
  have hread : GraphRecord.decode g.toRecord.encode = .ok (g.toRecord, []) := by
    have hback := GraphRecord.decode_encode (hwf.toRecord_fits hfits) []
    rwa [List.append_nil] at hback
  refine ⟨g', ?_, hwf', ?_, hsame.allNodes, hsame⟩
  · unfold decode encode
    rw [hread]
    dsimp only
    rw [hload]
    rfl
  · unfold encode
    rw [hsame.toRecord hwf hwf']

/-- A delay line with a reader, after a terminal was removed and with the input inserted last. -/
def reordered : Graph where
  name := "reordered"
  arena := .ofList [
    (⟨1⟩, { Node.delayWrite with inputs := [⟨"time", []⟩, ⟨"value", [⟨1⟩]⟩] }),
    (⟨2⟩, { Node.delayRead ⟨1⟩ with outputs := [⟨"", [⟨0⟩]⟩] }),
    (⟨3⟩, { Node.terminal .output "y" with inputs := [⟨"y", [⟨0⟩]⟩] }),
    (⟨4⟩, { Node.terminal .input "x" with outputs := [⟨"x", [⟨1⟩]⟩] })]
  inPorts := [⟨4⟩]
  body := [⟨1⟩, ⟨2⟩]
  outPorts := [⟨3⟩]
  connections := .ofList [(⟨0⟩, ⟨⟨⟨2⟩, 0⟩, ⟨⟨3⟩, 0⟩⟩), (⟨1⟩, ⟨⟨⟨4⟩, 0⟩, ⟨⟨1⟩, 1⟩⟩)]
  nextNode := 5
  nextConnection := 2

theorem reordered_reachable : reordered.Reachable (Edit.Builds fun _ => none) := by
  refine ⟨"reordered", [.insert .output 0 "z", .add .delayWrite, .addRead ⟨1⟩, .insert .output 0 "y",
    .connect ⟨⟨2⟩, 0⟩ ⟨⟨3⟩, 0⟩, .insert .input 0 "x", .connect ⟨⟨4⟩, 0⟩ ⟨⟨1⟩, 1⟩, .remove ⟨0⟩], ?_, ?_, ?_⟩
  · intro e he
    simp only [List.mem_cons, List.not_mem_nil, or_false] at he
    rcases he with rfl | rfl | rfl | rfl | rfl | rfl | rfl | rfl
    case inr.inl => exact Or.inl ⟨delayOrigin, rfl⟩
    all_goals trivial
  · exact roomFor_of_length (by simp [empty]) (by simp [empty])
  · cbv

theorem reordered_fits : reordered.Fits :=
  fits_of_tables (by decide) (by decide) (by decide)

/-- The nodes 4, 1, 2, 3 come back as 0, 1, 2, 3. -/
theorem reordered_decodes : ∃ g', decode reordered.encode (fun _ => none) = .ok g' ∧ g'.encode = reordered.encode
    ∧ g'.inPorts = [⟨0⟩] ∧ g'.body = [⟨1⟩, ⟨2⟩] ∧ g'.outPorts = [⟨3⟩] := by
  obtain ⟨g', hload, -, hsave, -, hsame⟩ := decode_encode_renumbered reordered_reachable.editedBy reordered_fits
  exact ⟨g', hload, hsave, hsame.inPorts.trans (by decide), hsame.body.trans (by decide),
    hsame.outPorts.trans (by decide)⟩

end Graph

end SignalGraph
