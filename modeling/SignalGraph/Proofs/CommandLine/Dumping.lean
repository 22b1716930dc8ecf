import SignalGraph.CommandLine.Run
import SignalGraph.Proofs.Files.Store
import SignalGraph.Proofs.Record.Text

/-!
# Exporting and importing

A graph that is exported as text and imported again is saved to the bytes of its own file.
-/

namespace SignalGraph

open FileTree

namespace CommandLine

/-- The path of the file of a target. -/
def Target.pathIn (s : GraphStore) : Target → String
  | name n => s.pathFor n
  | path p => p

variable {s : GraphStore} {t : FileTree} {g : Graph}

theorem load_target {bs : List UInt8} (target : Target) (hread : t.read (target.pathIn s) = .ok bs)
    (hdecode : Graph.decode bs s.manifest.resolve = .ok g) : onTree (target.load s) t = (.ok g, t) := by
  unfold Target.load
  cases target with
  | name n =>
      have hload : onTree (s.load n) t = _ := GraphStore.load_of_read hread
      rw [hdecode] at hload
      rw [onTree_adapt]
      dsimp only
      rw [hload]
      rfl
  | path p =>
      have hload : onTree (s.loadPath p) t = _ := GraphStore.loadPath_of_read hread
      rw [hdecode] at hload
      rw [onTree_adapt]
      dsimp only
      rw [hload]
      rfl

/-- The text of the graph of a file is printed. -/
theorem runDump_of_read {bs : List UInt8} (target : Target) (hread : t.read (target.pathIn s) = .ok bs)
    (hdecode : Graph.decode bs s.manifest.resolve = .ok g) :
    onTree (runDump s target) t = (.ok (g.renderRecord ++ "\n"), t) := by
  unfold runDump
  rw [onTree_seq, load_target target hread hdecode]
  rfl

/-- The graph of a text is saved. -/
theorem runLoad_of_read {file text : String} (hread : t.read file = .ok (Bytes.ofText text))
    (hparse : Graph.parseRecord text s.manifest.resolve = .ok g) :
    ∃ message : String → String, onTree (runLoad s file) t =
      (((onTree (s.save g) t).1.mapError .store).map message, (onTree (s.save g) t).2) := by
  have htext : (Files.readText file : StateM FileTree (Except FileError String)).run t = (.ok text, t) := by
    show ((t.read file).bind _, t) = _
    rw [hread]
    simp [Except.bind, Bytes.toText?_ofText]
  unfold runLoad
  rw [onTree_bind, htext]
  dsimp only
  rw [hparse]
  dsimp only
  rw [onTree_seq, onTree_adapt]
  refine ⟨fun path => "Imported " ++ g.name ++ " (" ++ toString g.arena.size ++ " nodes, " ++
    toString g.connections.size ++ " connections) to " ++ path ++ "\n", ?_⟩
  rcases onTree (s.save g) t with ⟨answer, t'⟩
  cases answer <;> rfl

end CommandLine

namespace Graph

variable {g : Graph} {resolve : Origin → Option Capability}

/--
**Text and bytes lead to one graph.** What is read of the text of a graph is what is read of its file, by every factory.
The factory that made the nodes reads the graph of which both are the record, under new numbers. So a graph that is
exported from a store and imported into one is saved to the bytes of its own file, whenever it can be saved.
-/
theorem text_agrees_with_file (hg : g.EditedBy resolve) (hfits : g.Fits) :
    (∀ factory, parseRecord g.renderRecord factory = decode g.encode factory)
    ∧ (∃ g', parseRecord g.renderRecord resolve = .ok g' ∧ g'.WellFormed ∧ g'.encode = g.encode
      ∧ Renumbered g.placed g g')
    ∧ ∀ (s : GraphStore) (t : FileTree), s.manifest.resolve = resolve →
      (∀ target, t.read (CommandLine.Target.pathIn s target) = .ok g.encode →
        onTree (CommandLine.runDump s target) t = (.ok (g.renderRecord ++ "\n"), t))
      ∧ ∀ file, t.read file = .ok (Bytes.ofText (g.renderRecord ++ "\n")) →
        (onTree (CommandLine.runLoad s file) t).1.isOk = (onTree (s.save g) t).1.isOk
        ∧ ((onTree (s.save g) t).1.isOk = true →
          (onTree (CommandLine.runLoad s file) t).2.read (s.pathFor g.name) = .ok g.encode) := by
  have htext : ∀ (trailing : String), (∀ c ∈ trailing.toList, ObjectText.isSpace c = true) → ∀ factory,
      parseRecord (g.renderRecord ++ trailing) factory = decode g.encode factory := by
    intro trailing hblank factory
    rw [parseRecord_renderRecord g factory hblank, hg.builtFrom.wellFormed.decode_encode hfits]
  have hplain : ∀ factory, parseRecord g.renderRecord factory = decode g.encode factory := by
    intro factory
    have hempty := htext "" (by simp) factory
    rwa [String.append_empty] at hempty
  obtain ⟨g', hload, hbuilt, hrecord, hsame⟩ := hg.builtFrom.toGraph hfits.ports
  have hdecode := hg.builtFrom.wellFormed.decode_of_toGraph hfits hload
  have hencode : g'.encode = g.encode := by
    unfold encode
    rw [hrecord]
  have hsave : ∀ s : GraphStore, (s.save g' : ExceptT StoreError (StateM FileTree) String) = s.save g := by
    intro s
    unfold GraphStore.save Graph.fileName
    rw [hencode, hsame.name]
  refine ⟨hplain, ⟨g', (hplain resolve).trans hdecode, hbuilt.wellFormed, hencode, hsame⟩, ?_⟩
  rintro s t rfl
  constructor
  · intro target hread
    rw [CommandLine.runDump_of_read target hread hdecode]
    unfold renderRecord
    rw [hrecord]
  · intro file hread
    have hend : ∀ c ∈ ("\n" : String).toList, ObjectText.isSpace c = true := by
      simp [ObjectText.isSpace]
    have hparse := (htext "\n" hend s.manifest.resolve).trans hdecode
    obtain ⟨message, hrun⟩ := CommandLine.runLoad_of_read hread hparse
    rw [hrun, hsave s]
    refine ⟨?_, GraphStore.read_of_save⟩
    cases (onTree (s.save g) t).1 <;> rfl

/-- A graph and a terminal whose names have to be quoted. -/
def spelled : Graph := (empty "\"fuzz\"\n\\é").run [.insert .input 0 "\t\x00"]

theorem spelled_reachable : spelled.Reachable (Edit.Builds fun _ => none) := by
  refine ⟨_, _, ?_, roomFor_of_length (by simp [empty]) (by simp [empty]), rfl⟩
  intro e he
  rw [List.mem_singleton.mp he]
  trivial

theorem spelled_fits : spelled.Fits :=
  fits_of_tables (by decide) (by decide) (by decide)

/-- The escapes are undone. -/
theorem spelled_parses : ∃ g', parseRecord spelled.renderRecord (fun _ => none) = .ok g' ∧ g'.encode = spelled.encode := by
  obtain ⟨-, ⟨g', hparse, -, hencode, -⟩, -⟩ := text_agrees_with_file spelled_reachable.editedBy spelled_fits
  exact ⟨g', hparse, hencode⟩

end Graph

end SignalGraph
