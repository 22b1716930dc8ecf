import SignalGraph.Proofs.Files.Ways
import SignalGraph.Proofs.Record.Rebuilt
import SignalGraph.Store

/-!
# A store is a map of graphs by name

A graph is found again under every name that is its own in lower case.
-/

namespace SignalGraph

open FileTree

/-! ## Graphs that a store can keep -/

/--
The nodes of the graph are what their origins build, and its texts and ports have room in a file. Edits that add
factory nodes make such graphs, from new ones and from loaded ones.
-/
structure Graph.Storable (resolve : Origin → Option Capability) (g : Graph) : Prop extends g.BuiltFrom resolve where
  fits : g.Fits

/-- The file of a graph is read as a graph of that name, which has the same file. -/
theorem Graph.Storable.decode_encode {resolve : Origin → Option Capability} {g : Graph} (hg : g.Storable resolve) :
    ∃ g', decode g.encode resolve = .ok g' ∧ g'.encode = g.encode ∧ g'.name = g.name := by
  obtain ⟨g', hload, -, hrecord, hsame⟩ := hg.toGraph hg.fits.ports
  refine ⟨g', hg.wellFormed.decode_of_toGraph hg.fits hload, ?_, hsame.name⟩
  unfold encode
  rw [hrecord]

namespace GraphStore

variable {s : GraphStore} {t t' : FileTree}

/-! ## Calls -/

theorem writeInto_cases (directory name : String) (bs : List UInt8) (t : FileTree) :
    (∃ e, onTree (writeInto directory name bs) t = (.error e, (t.makeDirectories directory).2)) ∨
      ∃ t', onTree (writeInto directory name bs) t = (.ok (joinPath directory name), t')
        ∧ (t.makeDirectories directory).2.write (joinPath directory name) bs = .ok t' := by
  unfold writeInto
  dsimp only
  rw [onTree_bind, run_makeDirectories]
  split
  · exact Or.inl ⟨_, rfl⟩
  · rw [onTree_bind, run_write]
    cases hwrite : (t.makeDirectories directory).2.write (joinPath directory name) bs with
    | error e => exact Or.inl ⟨_, rfl⟩
    | ok t' => exact Or.inr ⟨t', rfl, rfl⟩

theorem writeInto_ok {directory name : String} {bs : List UInt8} {t₁ : FileTree}
    (hmade : t.makeDirectories directory = (.ok (), t₁)) (hwrite : t₁.write (joinPath directory name) bs = .ok t') :
    onTree (writeInto directory name bs) t = (.ok (joinPath directory name), t') := by
  unfold writeInto
  dsimp only
  rw [onTree_bind, run_makeDirectories, hmade]
  dsimp only
  rw [onTree_bind, run_write, hwrite]
  rfl

/-- What has been written is read. -/
theorem read_of_writeInto {directory name : String} {bs : List UInt8}
    (hok : (onTree (writeInto directory name bs) t).1.isOk = true) :
    (onTree (writeInto directory name bs) t).2.read (joinPath directory name) = .ok bs := by
  rcases writeInto_cases directory name bs t with ⟨e, herror⟩ | ⟨t', hdone, hwrite⟩
  · rw [herror] at hok
    exact absurd hok (by simp [Except.isOk, Except.toBool])
  · rw [hdone]
    exact (write_eq_ok hwrite).2

/-- A graph that has been saved has its file. -/
theorem read_of_save {g : Graph} (hok : (onTree (s.save g) t).1.isOk = true) :
    (onTree (s.save g) t).2.read (s.pathFor g.name) = .ok g.encode := read_of_writeInto hok

theorem loadPath_of_read {path : String} {bs : List UInt8} (h : t.read path = .ok bs) :
    onTree (s.loadPath path) t = ((Graph.decode bs s.manifest.resolve).mapError .read, t) := by
  unfold loadPath
  dsimp only
  rw [onTree_bind, run_read, h]
  dsimp only
  cases Graph.decode bs s.manifest.resolve <;> rfl

theorem load_of_read {name : String} {bs : List UInt8} (h : t.read (s.pathFor name) = .ok bs) :
    onTree (s.load name) t = ((Graph.decode bs s.manifest.resolve).mapError .read, t) := by
  unfold load
  rw [onTree_bind, run_isPresent, isPresent_of_read h, if_pos rfl]
  exact loadPath_of_read h

theorem load_of_absent {name : String} (h : t.isPresent (s.pathFor name) = false) :
    onTree (s.load name) t = (.ok (.empty name), t) := by
  unfold load
  rw [onTree_bind, run_isPresent, h]
  rfl

end GraphStore

/-! ## Names of files -/

/-- The name is one part of a path in lower case. -/
def IsPlainName (name : String) : Prop := '/' ∉ (Text.lowercase name).toList

instance (name : String) : Decidable (IsPlainName name) := inferInstanceAs (Decidable ('/' ∉ _))

theorem isFileName_append {base extension : String} (hbase : '/' ∉ base.toList) (hextension : '/' ∉ extension.toList)
    (hlong : 2 < extension.toList.length) : IsFileName (base ++ extension) := by
  have hlength : 2 < (base ++ extension).toList.length := by
    rw [String.toList_append, List.length_append]
    omega
  refine ⟨?_, ?_, ?_, ?_⟩
  · intro h
    rw [h] at hlength
    exact absurd hlength (by decide)
  · intro h
    rw [h] at hlength
    exact absurd hlength (by decide)
  · intro h
    rw [h] at hlength
    exact absurd hlength (by decide)
  · rw [String.toList_append, List.mem_append, not_or]
    exact ⟨hbase, hextension⟩

theorem IsPlainName.graphFile {name : String} (h : IsPlainName name) : IsFileName (Graph.fileNameOf name) :=
  isFileName_append h (by decide) (by decide)

theorem IsPlainName.sourceFile {g : Graph} (h : IsPlainName g.name) : IsFileName g.sourceFileName :=
  isFileName_append h (by decide) (by decide)

theorem fileNameOf_inj {name name' : String} :
    Graph.fileNameOf name = Graph.fileNameOf name' ↔ Text.lowercase name = Text.lowercase name' := by
  unfold Graph.fileNameOf
  rw [← String.toList_inj, String.toList_append, String.toList_append, List.append_left_inj, String.toList_inj]

/-- No source is written over a graph. -/
theorem sourceFileName_ne (g : Graph) (name : String) : g.sourceFileName ≠ Graph.fileNameOf name := by
  intro h
  have hlast := congrArg (fun file : String => file.toList.getLast?) h
  unfold Graph.sourceFileName Graph.fileNameOf at hlast
  simp [String.toList_append] at hlast

namespace GraphStore

variable {s : GraphStore} {t t' : FileTree}

/-! ## Where graphs are -/

/-- The place of the graph of a name. -/
def placeFor (s : GraphStore) (name : String) : List String := placeOf s.graphDir ++ [Graph.fileNameOf name]

theorem placeOf_pathFor {name : String} (h : IsPlainName name) : placeOf (s.pathFor name) = s.placeFor name :=
  placeOf_joinPath h.graphFile

/--
Neither directory is reached through the place of a graph. It is so if no way leads into the directory of the graphs
and out again, and if the directory of the sources is that directory or lies outside.
-/
def Apart (s : GraphStore) : Prop :=
  ∀ directory ∈ [s.graphDir, s.sourceDir], ∀ path ∈ directory :: holders directory, ∀ name, placeOf path ≠ s.placeFor name

theorem apart_of_outside (hgraphs : IsStraight s.graphDir) (hsources : IsStraight s.sourceDir)
    (houtside : s.sourceDir = s.graphDir ∨ ¬ placeOf s.graphDir <+: placeOf s.sourceDir) : s.Apart := by
  have hnot : ∀ path name, placeOf path <+: placeOf s.graphDir → placeOf path ≠ s.placeFor name := by
    intro path name hprefix hplace
    have hlength := hprefix.length_le
    rw [hplace, placeFor, List.length_append, List.length_singleton] at hlength
    omega
  intro directory hdirectory path hpath name
  rcases List.mem_cons.mp hdirectory with rfl | hdirectory
  · exact hnot path name (hgraphs.prefix_placeOf path hpath)
  · rw [List.mem_singleton.mp hdirectory] at hpath
    rcases houtside with hsame | hout
    · exact hnot path name (hgraphs.prefix_placeOf path (hsame ▸ hpath))
    · intro hplace
      have hprefix := hsources.prefix_placeOf path hpath
      rw [hplace, placeFor] at hprefix
      exact hout ((List.prefix_append _ _).trans hprefix)

/-- There is nothing at the places of graphs. -/
def Fresh (s : GraphStore) (t : FileTree) : Prop := ∀ name, t.entryAt? (s.placeFor name) = none

/-- What is at the places of some graphs is as it was. -/
structure LeavesGraphs (s : GraphStore) (names : String → Prop) (t t' : FileTree) : Prop where
  keeps : KeepsDirectories t t'
  same : ∀ name, names name → t'.entryAt? (s.placeFor name) = t.entryAt? (s.placeFor name)

theorem LeavesGraphs.mono {names names' : String → Prop} (h : s.LeavesGraphs names t t')
    (hsub : ∀ name, names' name → names name) : s.LeavesGraphs names' t t' :=
  ⟨h.keeps, fun name hname => h.same name (hsub name hname)⟩

/-- Making one of the directories leaves all places of graphs. -/
theorem Apart.makeDirectories (hapart : s.Apart) {directory : String} (hdirectory : directory ∈ [s.graphDir, s.sourceDir])
    (t : FileTree) (name : String) :
    (t.makeDirectories directory).2.entryAt? (s.placeFor name) = t.entryAt? (s.placeFor name) := by
  refine (makeDirectories_makes t directory).entryAt?_eq ?_
  intro hmem
  obtain ⟨path, hpath, hplace⟩ := List.mem_map.mp hmem
  exact hapart directory hdirectory path hpath name hplace

/-- Of the places of graphs, a file that is written into one of the directories changes its own at most. -/
theorem Apart.writeInto (hapart : s.Apart) {directory : String} (hdirectory : directory ∈ [s.graphDir, s.sourceDir])
    (file : String) (bs : List UInt8) (t : FileTree) :
    s.LeavesGraphs (fun name => (onTree (writeInto directory file bs) t).1.isOk = true →
      placeOf (joinPath directory file) ≠ s.placeFor name) t (onTree (writeInto directory file bs) t).2 := by
  have hkeeps := (makeDirectories_makes t directory).keepsDirectories
  have hsame := hapart.makeDirectories hdirectory t
  rcases writeInto_cases directory file bs t with ⟨e, herror⟩ | ⟨t', hok, hwrite⟩
  · rw [herror]
    exact ⟨hkeeps, fun name _ => hsame name⟩
  · rw [hok]
    obtain ⟨hputs, -⟩ := write_eq_ok hwrite
    refine ⟨fun p hp => hputs.keepsDirectories p (hkeeps p hp), ?_⟩
    intro name hname
    exact (hputs.other _ (hname rfl).symm).trans (hsame name)

/-- A graph that is saved changes what is under its own name at most, and nothing if it cannot be saved. -/
theorem Apart.save (hapart : s.Apart) {g : Graph} (hname : IsPlainName g.name) (t : FileTree) :
    s.LeavesGraphs (fun name => (onTree (s.save g) t).1.isOk = true → Text.lowercase name ≠ Text.lowercase g.name) t
      (onTree (s.save g) t).2 := by
  refine (hapart.writeInto List.mem_cons_self g.fileName g.encode t).mono ?_
  intro name hother hok hplace
  have hfile : s.placeFor g.name = s.placeFor name := (placeOf_pathFor hname).symm.trans hplace
  have hsame := List.append_cancel_left hfile
  injection hsame with hsame
  exact hother hok (fileNameOf_inj.mp hsame).symm

/-- A source that is saved changes no graph. -/
theorem Apart.saveSource (hapart : s.Apart) {g : Graph} (hname : IsPlainName g.name) (source : String) (t : FileTree) :
    s.LeavesGraphs (fun _ => True) t (onTree (s.saveSource g source) t).2 := by
  have hmem : s.sourceDir ∈ [s.graphDir, s.sourceDir] := by
    simp
  refine (hapart.writeInto hmem g.sourceFileName (Bytes.ofText source) t).mono ?_
  intro name _ _ hplace
  rw [placeOf_joinPath hname.sourceFile] at hplace
  obtain ⟨-, hfile⟩ := List.append_inj' hplace rfl
  injection hfile with hfile
  exact sourceFileName_ne g name hfile

/-! ## The map that a store keeps -/

/-- Calls of a store. -/
inductive Call where
  | save (g : Graph)
  | saveSource (g : Graph) (source : String)
  | load (name : String)

/-- Graphs by names in lower case. -/
abbrev Shelf := Table String Graph

/-- The tree that a call leaves. -/
def Call.tree (s : GraphStore) (t : FileTree) : Call → FileTree
  | save g => (onTree (s.save g) t).2
  | saveSource g source => (onTree (s.saveSource g source) t).2
  | load name => (onTree (s.load name) t).2

/-- What a call does to the map: a graph that could be saved takes the place of the one of its name. -/
def Call.shelf (s : GraphStore) (t : FileTree) (shelf : Shelf) : Call → Shelf
  | save g => if (onTree (s.save g) t).1.isOk then shelf.set (Text.lowercase g.name) g else shelf
  | saveSource _ _ => shelf
  | load _ => shelf

/-- The tree and the map after some calls. -/
def run (s : GraphStore) (calls : List Call) (t : FileTree) (shelf : Shelf) : FileTree × Shelf :=
  calls.foldl (fun (t, shelf) c => (c.tree s t, c.shelf s t shelf)) (t, shelf)

/-- The names are plain, and a graph that is saved can be read again. -/
def Call.Allowed (s : GraphStore) : Call → Prop
  | save g => IsPlainName g.name ∧ g.Storable s.manifest.resolve
  | saveSource g _ => IsPlainName g.name
  | load name => IsPlainName name

/-- The files of the graphs are those of the map, and where the map has no graph there is nothing. -/
structure Holds (s : GraphStore) (t : FileTree) (shelf : Shelf) : Prop where
  kept : ∀ name g, shelf.get? (Text.lowercase name) = some g → IsPlainName name →
    g.Storable s.manifest.resolve ∧ t.read (s.pathFor name) = .ok g.encode
  free : ∀ name, shelf.get? (Text.lowercase name) = none → t.entryAt? (s.placeFor name) = none

theorem Fresh.holds (h : s.Fresh t) : s.Holds t ∅ where
  kept name g hg := absurd hg (by simp)
  free name _ := h name

/-- What leaves the graphs of the map leaves the map. -/
theorem Holds.leaves {shelf : Shelf} (h : s.Holds t shelf) (hleaves : s.LeavesGraphs (fun _ => True) t t') :
    s.Holds t' shelf where
  kept name g hg hname := by
    obtain ⟨hstorable, hread⟩ := h.kept name g hg hname
    refine ⟨hstorable, hleaves.keeps.read hread ?_⟩
    rw [placeOf_pathFor hname]
    exact hleaves.same name trivial
  free name hnone := (hleaves.same name trivial).trans (h.free name hnone)

theorem Call.get?_shelf_save (s : GraphStore) (t : FileTree) (shelf : Shelf) (g : Graph) (key : String) :
    ((save g).shelf s t shelf).get? key =
      if (onTree (s.save g) t).1.isOk = true ∧ key = Text.lowercase g.name then some g else shelf.get? key := by
  unfold Call.shelf
  dsimp only
  split
  · rename_i hok
    rw [Table.get?_set]
    simp [hok]
  · rename_i hfailed
    rw [if_neg fun h => hfailed h.1]

theorem Holds.save {shelf : Shelf} (h : s.Holds t shelf) (hapart : s.Apart) {g : Graph} (hname : IsPlainName g.name)
    (hg : g.Storable s.manifest.resolve) : s.Holds ((Call.save g).tree s t) ((Call.save g).shelf s t shelf) := by
  have hleaves := hapart.save hname t
  constructor
  · intro name found hfound hplain
    rw [Call.get?_shelf_save] at hfound
    split at hfound
    · rename_i hnew
      injection hfound with hfound
      have hpath : s.pathFor name = s.pathFor g.name := by
        unfold pathFor
        rw [fileNameOf_inj.mpr hnew.2]
      exact ⟨hfound ▸ hg, hfound ▸ hpath ▸ read_of_save hnew.1⟩
    · rename_i hold
      obtain ⟨hstorable, hbefore⟩ := h.kept name found hfound hplain
      refine ⟨hstorable, hleaves.keeps.read hbefore ?_⟩
      rw [placeOf_pathFor hplain]
      exact hleaves.same name (not_and.mp hold)
  · intro name hnone
    rw [Call.get?_shelf_save] at hnone
    split at hnone
    · exact absurd hnone (by simp)
    · rename_i hold
      exact (hleaves.same name (not_and.mp hold)).trans (h.free name hnone)

/-- What a load answers is what the map has. -/
theorem Holds.load {shelf : Shelf} (h : s.Holds t shelf) {name : String} (hname : IsPlainName name) :
    onTree (s.load name) t = (match shelf.get? (Text.lowercase name) with
      | some g => (Graph.decode g.encode s.manifest.resolve).mapError .read
      | none => .ok (.empty name), t) := by
  cases hg : shelf.get? (Text.lowercase name) with
  | some g => exact load_of_read (h.kept name g hg hname).2
  | none => exact load_of_absent (isPresent_eq_false hname.graphFile (h.free name hg))

/-- A graph is saved where its directory can be made and its path is not too long. -/
theorem Holds.save_ok {shelf : Shelf} (h : s.Holds t shelf) (hapart : s.Apart) {g : Graph} (hname : IsPlainName g.name)
    (hmade : (t.makeDirectories s.graphDir).1 = .ok ()) (hshort : g.fileName.utf8ByteSize ≤ maxNameBytes)
    (hpath : checkPath (s.pathFor g.name) = .ok ()) : (onTree (s.save g) t).1 = .ok (s.pathFor g.name) := by
  obtain ⟨t₁, hrun⟩ : ∃ t₁, t.makeDirectories s.graphDir = (.ok (), t₁) := ⟨_, Prod.ext hmade rfl⟩
  have hfree : t₁.entryAt? (s.placeFor g.name) ≠ some .directory := by
    have hleft := hapart.makeDirectories List.mem_cons_self t g.name
    rw [hrun] at hleft
    rw [hleft]
    cases hg : shelf.get? (Text.lowercase g.name) with
    | none => simp [h.free g.name hg]
    | some found =>
        obtain ⟨e, -, -, -, -, hentry⟩ := read_eq_ok_iff.mp (h.kept g.name found hg hname).2
        rw [placeOf_pathFor hname] at hentry
        simp [hentry]
  obtain ⟨t₂, hwrite⟩ := exists_write hname.graphFile hpath hshort (foldlM_enter_of_makeDirectories hrun) hfree g.encode
  exact congrArg Prod.fst (writeInto_ok hrun hwrite)

theorem Holds.step {shelf : Shelf} (h : s.Holds t shelf) (hapart : s.Apart) {c : Call} (hc : c.Allowed s) :
    s.Holds (c.tree s t) (c.shelf s t shelf) := by
  cases c with
  | save g => exact h.save hapart hc.1 hc.2
  | saveSource g source => exact h.leaves (hapart.saveSource hc source t)
  | load name =>
      have hsame : (Call.load name).tree s t = t := congrArg Prod.snd (h.load hc)
      exact hsame.symm ▸ h

theorem Holds.run {shelf : Shelf} (h : s.Holds t shelf) (hapart : s.Apart) {calls : List Call}
    (hcalls : ∀ c ∈ calls, c.Allowed s) : s.Holds (s.run calls t shelf).1 (s.run calls t shelf).2 := by
  induction calls generalizing t shelf with
  | nil => exact h
  | cons c calls ih =>
      exact ih (h.step hapart (hcalls c List.mem_cons_self)) fun d hd => hcalls d (List.mem_cons_of_mem _ hd)

/--
**A store is a map of graphs by names in lower case.** After any calls on a tree without graphs, a name that has been
saved last under any case loads a graph that has the file and the name of the one that was saved, and a name that has
not been saved loads a new graph. Saving a source changes the answer to no load, and a graph is saved wherever its
directory can be made and its path is not too long.
-/
theorem loads_latest_save (hapart : s.Apart) (hfresh : s.Fresh t) {calls : List Call}
    (hcalls : ∀ c ∈ calls, c.Allowed s) {shelf : Shelf} (hrun : s.run calls t ∅ = (t', shelf)) {name : String}
    (hname : IsPlainName name) :
    (∃ g', onTree (s.load name) t' = (.ok g', t') ∧ match shelf.get? (Text.lowercase name) with
      | some g => g'.encode = g.encode ∧ g'.name = g.name
      | none => g' = .empty name)
    ∧ (∀ g source, IsPlainName g.name →
      (onTree (s.load name) (onTree (s.saveSource g source) t').2).1 = (onTree (s.load name) t').1)
    ∧ ∀ g, IsPlainName g.name → (t'.makeDirectories s.graphDir).1 = .ok () → g.fileName.utf8ByteSize ≤ maxNameBytes →
      checkPath (s.pathFor g.name) = .ok () → (onTree (s.save g) t').1 = .ok (s.pathFor g.name) := by
  have hholds : s.Holds t' shelf := by
    have hall := hfresh.holds.run hapart hcalls
    rwa [hrun] at hall
  have hload := hholds.load hname
  refine ⟨?_, ?_, fun g hplain => hholds.save_ok hapart hplain⟩
  · cases hg : shelf.get? (Text.lowercase name) with
    | some g =>
        obtain ⟨g', hdecode, hencode, hsame⟩ := (hholds.kept name g hg hname).1.decode_encode
        rw [hg] at hload
        dsimp only at hload
        rw [hdecode] at hload
        exact ⟨g', hload, hencode, hsame⟩
    | none =>
        rw [hg] at hload
        exact ⟨.empty name, hload, rfl⟩
  · intro g source hplain
    rw [hload, (hholds.leaves (hapart.saveSource hplain source t')).load hname]

/-- Graphs and sources in one directory. -/
def workshop : GraphStore := ⟨"graphs", "graphs", .empty⟩

/-- A graph and its source are saved, and a name is looked for that nothing has. -/
def visits : List Call := [.save .reordered, .saveSource .reordered "fn reordered() {}", .load "Other"]

/-- The graph is found in any case, with its own name. -/
theorem reordered_found : ∃ g', (onTree (workshop.load "ReOrdered") (workshop.run visits {} ∅).1).1 = .ok g'
    ∧ g'.encode = Graph.reordered.encode ∧ g'.name = "reordered" := by
  have hapart : workshop.Apart := by
    refine apart_of_outside ?_ ?_ (Or.inl rfl) <;> exact ⟨fun h => absurd h (by decide), trivial⟩
  have hfresh : workshop.Fresh {} := by
    intro name
    have habove : isAbove (workshop.placeFor name) = false := rfl
    rw [entryAt?, if_neg (by rw [habove]; simp)]
    rfl
  have hstorable : Graph.reordered.Storable workshop.manifest.resolve :=
    ⟨Graph.reordered_reachable.editedBy.builtFrom, Graph.reordered_fits⟩
  have hcalls : ∀ c ∈ visits, c.Allowed workshop := by
    intro c hc
    simp only [visits, List.mem_cons, List.not_mem_nil, or_false] at hc
    rcases hc with rfl | rfl | rfl
    · exact ⟨by decide, hstorable⟩
    · exact (by decide : IsPlainName "reordered")
    · exact (by decide : IsPlainName "Other")
  have hrun : workshop.run visits {} ∅ = ((workshop.run visits {} ∅).1, (workshop.run visits {} ∅).2) := rfl
  have hshelf : (workshop.run visits {} ∅).2.get? (Text.lowercase "ReOrdered") = some Graph.reordered := by
    decide +kernel
  obtain ⟨⟨g', hload, hfound⟩, -⟩ :=
    loads_latest_save hapart hfresh hcalls hrun (by decide : IsPlainName "ReOrdered")
  rw [hshelf] at hfound
  exact ⟨g', congrArg Prod.fst hload, hfound⟩

end GraphStore

end SignalGraph
