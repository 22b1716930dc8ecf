import SignalGraph.Proofs.Factory
import SignalGraph.Proofs.Record.Loading

/-!
# Graphs that come out of records

A reader accepts many records that no writer would write, but the graph that it makes is one that edits could
have made: the invariant holds, and every node is what its origin builds or a reader of a delay line. A reader
of a line is added without the line and linked to its owner when all nodes are there; until then it is no
factory node, and the links that are still to come name it (`Awaits`).
-/

namespace SignalGraph

variable {resolve : Origin → Option Capability}

/-- A node has the ports of a reader, and it owns no line. -/
def Node.IsReader (node : Node) : Prop :=
  ∃ link, node.bare = { Node.delayRead default with delay := link } ∧ link ≠ some .write

/-- A reader with a line is a reader of that line. -/
theorem Node.IsReader.linked {node : Node} (h : node.IsReader) (w : NodeId) :
    ({ node with delay := some (.read w) } : Node).bare = .delayRead w := by
  obtain ⟨link, hbare, -⟩ := h
  show ({ node.bare with delay := some (.read w) } : Node) = _
  rw [hbare]
  rfl

theorem Node.isReader_of_bare_eq {node : Node} {w : NodeId} (h : node.bare = .delayRead w) : node.IsReader :=
  ⟨some (.read w), h, by simp⟩

theorem Node.unlinked_isReader {node : Node} (h : node = (Node.delayRead default).unlinked) : node.IsReader := by
  rw [h]
  exact ⟨none, (Node.unlinked_unconnected (Node.delayRead_unconnected default)).bare_eq, by simp⟩

namespace Graph

/-- All nodes are factory nodes, but for the readers that still wait for their lines. -/
structure Awaits (resolve : Origin → Option Capability) (waiting : NodeId → Prop) (g : Graph) : Prop where
  /-- The invariant holds throughout. -/
  wellFormed : g.WellFormed
  /-- What is no factory node waits for a line. -/
  settled : ∀ n node, g.node? n = some node → node.bare.Rebuilds resolve ∨ waiting n
  /-- Nothing waits but readers. -/
  reader : ∀ n node, g.node? n = some node → waiting n → node.IsReader

/-- A node that is added is a factory node, or a reader that waits like those before it. -/
theorem Awaits.addNode {waiting waiting' : NodeId → Prop} {g g' : Graph} {n : NodeId} {node : Node}
    (ha : g.Awaits resolve waiting) (hadds : AddsNode g n node g') (hwf : g'.WellFormed)
    (hnew : node.bare.Rebuilds resolve ∧ ¬ waiting' n ∨ node.IsReader ∧ waiting' n)
    (hothers : ∀ m, m ≠ n → (waiting' m ↔ waiting m)) : g'.Awaits resolve waiting' where
  wellFormed := hwf
  settled := by
    intro m found hm
    rw [hadds.node?] at hm
    split at hm
    · rename_i heq
      injection hm with hm
      subst heq hm
      exact hnew.imp And.left And.right
    · rename_i hne
      exact (ha.settled m found hm).imp_right (hothers m hne).mpr
  reader := by
    intro m found hm hwait
    rw [hadds.node?] at hm
    split at hm
    · rename_i heq
      injection hm with hm
      subst heq hm
      exact (hnew.resolve_left fun hbuilt => hbuilt.2 hwait).1
    · rename_i hne
      exact ha.reader m found hm ((hothers m hne).mp hwait)

/-! ## The nodes of a record -/

/-- An entry gives a factory node, or a reader without a line and the place of the owner of that line. -/
theorem buildEntry_cases {count i : Nat} {e : NodeRecord} {node : Node} {writer? : Option Nat}
    (h : GraphRecord.buildEntry resolve count i e = .ok (node, writer?)) :
    (node.Rebuilds resolve ∧ writer? = none)
      ∨ ∃ w, node = (Node.delayRead default).unlinked ∧ writer? = some w := by
  obtain ⟨built, hbuilt, h⟩ := Except.bind_eq_ok_iff.mp h
  have hnode : built.Rebuilds resolve :=
    Or.inl (Node.built_of_build (Except.mapError_eq_ok_iff.mp hbuilt)).build_again
  split at h
  · injection h with h
    injection h with hn hw
    exact Or.inl ⟨hn ▸ hnode, hw.symm⟩
  · dsimp only at h
    split at h
    · exact absurd h (by simp [throw, throwThe, MonadExceptOf.throw])
    · split at h
      · exact absurd h (by simp [throw, throwThe, MonadExceptOf.throw])
      · split at h
        · injection h with h
          injection h with hn hw
          exact Or.inl ⟨hn ▸ hnode, hw.symm⟩
        · injection h with h
          injection h with hn hw
          exact Or.inr ⟨_, hn.symm, hw.symm⟩

/-- The readers that the links of a draft name. -/
def Linking (ids : List NodeId) (links : List (Nat × Nat)) (n : NodeId) : Prop :=
  ∃ link ∈ links, ids[link.1]? = some n

/-- What holds of a draft with some of the nodes. -/
structure Drafting (resolve : Origin → Option Capability) (count : Nat) (d : GraphRecord.Draft) : Prop where
  /-- The nodes that wait are those that the links name. -/
  awaits : d.graph.Awaits resolve (Linking d.ids d.reads)
  /-- Every entry has a node. -/
  length : d.ids.length = count
  /-- The nodes are in the graph. -/
  present : ∀ n ∈ d.ids, ∃ node, d.graph.node? n = some node
  /-- Links start at entries. -/
  reads_lt : ∀ link ∈ d.reads, link.1 < count
  /-- As many numbers are taken as there are entries. -/
  nextNode : d.graph.nextNode.toNat = count
  /-- Nothing is connected yet. -/
  nextConnection : d.graph.nextConnection = 0

/-- A node that is new is named by the link that comes with it, and other nodes as before. -/
theorem linking_append {ids : List NodeId} {links : List (Nat × Nat)} {n m : NodeId} {writer? : Option Nat}
    (hlt : ∀ link ∈ links, link.1 < ids.length) :
    Linking (ids ++ [n]) (links ++ (writer?.map (ids.length, ·)).toList) m ↔
      Linking ids links m ∨ writer?.isSome = true ∧ m = n := by
  have hold : ∀ link ∈ links, (ids ++ [n])[link.1]? = ids[link.1]? :=
    fun link hlink => List.getElem?_append_left (hlt link hlink)
  have hnew : (ids ++ [n])[ids.length]? = some n := List.getElem?_concat_length
  constructor
  · rintro ⟨link, hlink, hget⟩
    rcases List.mem_append.mp hlink with hlink | hlink
    · exact Or.inl ⟨link, hlink, by rw [← hold link hlink, hget]⟩
    · cases writer? with
      | none => exact absurd hlink (by simp)
      | some w =>
          rw [Option.map_some, Option.toList_some, List.mem_singleton] at hlink
          rw [hlink, hnew] at hget
          injection hget with hget
          exact Or.inr ⟨rfl, hget.symm⟩
  · rintro (⟨link, hlink, hget⟩ | ⟨hsome, rfl⟩)
    · exact ⟨link, List.mem_append_left _ hlink, by rw [hold link hlink, hget]⟩
    · obtain ⟨w, rfl⟩ := Option.isSome_iff_exists.mp hsome
      exact ⟨(ids.length, w), by simp, hnew⟩

section AddEntry

variable {count : Nat} {d d' : GraphRecord.Draft}

theorem Drafting.not_linking (hd : Drafting resolve count d) {n : NodeId} (hn : d.graph.node? n = none) :
    ¬ Linking d.ids d.reads n := by
  rintro ⟨link, -, hget⟩
  obtain ⟨node, hnode⟩ := hd.present n (List.mem_of_getElem? hget)
  rw [hn] at hnode
  exact absurd hnode (by simp)

theorem Drafting.addEntry {total : Nat} {e : NodeRecord} (hd : Drafting resolve count d) (hroom : count + 1 < 2 ^ 32)
    (h : GraphRecord.addEntry resolve total d (e, count) = .ok d') : Drafting resolve (count + 1) d' := by
  obtain ⟨node, writer?, n, g', hentry, hnode, rfl⟩ := addEntry_eq_ok_iff.mp h
  have hwf := hd.awaits.wellFormed
  have hnodeRoom : d.graph.NodeRoom := by
    unfold NodeRoom
    rw [hd.nextNode]
    exact hroom
  have hcases := buildEntry_cases hentry
  have hfree : node.Unconnected := by
    rcases hcases with ⟨hbuilt, -⟩ | ⟨w, rfl, -⟩
    · exact hbuilt.unconnected
    · exact Node.unlinked_unconnected (Node.delayRead_unconnected default)
  have hwf' := hwf.addNode hnodeRoom hfree hnode
  obtain ⟨-, rfl, rfl⟩ := addNode_eq_ok_iff.mp hnode
  have hadds := addsNode_enlist hwf.toNumbered node
  have hlinking : ∀ m, Linking (d.ids ++ [⟨d.graph.nextNode⟩]) (d.reads ++ (writer?.map (count, ·)).toList) m ↔
      Linking d.ids d.reads m ∨ writer?.isSome = true ∧ m = ⟨d.graph.nextNode⟩ := by
    intro m
    rw [← hd.length]
    exact linking_append (by rw [hd.length]; exact hd.reads_lt)
  exact {
    awaits := by
      refine hd.awaits.addNode hadds hwf' ?_ fun m hne => (hlinking m).trans (or_iff_left fun hnew => hne hnew.2)
      rcases hcases with ⟨hbuilt, hnone⟩ | ⟨w, hreader, hsome⟩
      · refine Or.inl ⟨hfree.bare_eq.symm ▸ hbuilt, ?_⟩
        rw [hlinking, hnone]
        rintro (hold | ⟨hsome, -⟩)
        · exact hd.not_linking hadds.fresh hold
        · exact absurd hsome (by simp)
      · exact Or.inr ⟨Node.unlinked_isReader hreader, (hlinking _).mpr (Or.inr ⟨by rw [hsome]; rfl, rfl⟩)⟩
    length := by
      dsimp only
      rw [List.length_append, hd.length]
      rfl
    present := by
      intro m hm
      rcases List.mem_append.mp hm with hm | hm
      · obtain ⟨old, hold⟩ := hd.present m hm
        exact ⟨old, hadds.node?_of_some hold⟩
      · rw [List.mem_singleton.mp hm]
        exact ⟨node, hadds.node?_self⟩
    reads_lt := by
      intro link hlink
      rcases List.mem_append.mp hlink with hlink | hlink
      · exact Nat.lt_succ_of_lt (hd.reads_lt link hlink)
      · cases writer? with
        | none => exact absurd hlink (by simp)
        | some w =>
            rw [Option.map_some, Option.toList_some, List.mem_singleton] at hlink
            rw [hlink]
            exact Nat.lt_succ_self count
    nextNode := by
      dsimp only
      rw [nextNode_enlist]
      exact (toNat_add_one hnodeRoom).trans (by rw [hd.nextNode])
    nextConnection := by
      dsimp only
      rw [nextConnection_enlist]
      exact hd.nextConnection }

end AddEntry

/-- The first pass leaves the readers waiting that its links name. -/
theorem drafting_nodes {entries : List NodeRecord} {name : String} {total : Nat} {d : GraphRecord.Draft}
    (hroom : entries.length < 2 ^ 32)
    (h : entries.zipIdx.foldlM (GraphRecord.addEntry resolve total) { graph := .empty name } = .ok d) :
    Drafting resolve entries.length d := by
  have hnone : ∀ n node, (empty name).node? n ≠ some node := by simp [empty, Graph.node?]
  have hstart : Drafting resolve 0 { graph := .empty name } := {
    awaits := {
      wellFormed := empty_wellFormed name
      settled := fun n node hn => absurd hn (hnone n node)
      reader := fun n node hn => absurd hn (hnone n node) }
    length := rfl
    present := fun n hn => absurd hn List.not_mem_nil
    reads_lt := fun link hlink => absurd hlink List.not_mem_nil
    nextNode := rfl
    nextConnection := rfl }
  rw [← List.length_zipIdx (l := entries) (i := 0)]
  refine foldlM_induction (P := fun done d => Drafting resolve done.length d) ?_ hstart h
  rintro done ⟨e, i⟩ todo d d' hall hd hstep
  -- the place of an entry is the number of entries before it
  have hget : entries.zipIdx[done.length]? = some (e, i) := by
    rw [hall]
    simp
  obtain ⟨hi, hlt⟩ : i = done.length ∧ done.length < entries.length := by
    rw [List.getElem?_zipIdx] at hget
    obtain ⟨e', he', heq⟩ := Option.map_eq_some_iff.mp hget
    injection heq with _ heq
    exact ⟨by omega, (List.getElem?_eq_some_iff.mp he').1⟩
  rw [List.length_append, List.length_singleton]
  subst hi
  exact hd.addEntry (by omega) hstep

/-! ## The lines of a record -/

theorem linkDelayRead_eq_ok {g g' : Graph} {r w : NodeId} (h : g.linkDelayRead r w = .ok g') :
    (∃ node, g.node? r = some node ∧ PutsNode g r node { node with delay := some (.read w) } g')
      ∧ ∃ owner, g.node? w = some owner ∧ owner.isDelayWrite = true := by
  have hparts := h
  unfold linkDelayRead at hparts
  obtain ⟨⟨⟩, howner, hreader⟩ := Except.bind_eq_ok_iff.mp hparts
  have howner := expectDelayWrite_eq_ok_iff.mp howner
  refine ⟨?_, howner⟩
  split at hreader
  · rename_i hmem
    obtain ⟨node, hnode⟩ := Table.mem_keys_iff.mp (Table.contains_iff.mp hmem)
    obtain ⟨g₁, hlink, -, hputs⟩ := putsNode_linkDelayRead hnode howner
    rw [h] at hlink
    injection hlink with hlink
    exact ⟨node, hnode, hlink ▸ hputs⟩
  · exact absurd hreader (by simp)

theorem linkRead_eq_ok_iff {ids : List NodeId} {g g' : Graph} {link : Nat × Nat} :
    GraphRecord.linkRead ids g link = .ok g' ↔
      ∃ r w, ids[link.1]? = some r ∧ ids[link.2]? = some w ∧ g.linkDelayRead r w = .ok g' := by
  unfold GraphRecord.linkRead
  cases ids[link.1]? with
  | none => simp
  | some r =>
      cases ids[link.2]? with
      | none => simp
      | some w => simp [Except.mapError_eq_ok_iff]

/-- A reader that is given its line waits no longer. -/
theorem Awaits.linkRead {ids : List NodeId} {link : Nat × Nat} {links : List (Nat × Nat)} {g g' : Graph}
    (ha : g.Awaits resolve (Linking ids (link :: links))) (h : GraphRecord.linkRead ids g link = .ok g') :
    g'.Awaits resolve (Linking ids links) ∧ g'.nextConnection = g.nextConnection := by
  obtain ⟨r, w, hr, -, h⟩ := linkRead_eq_ok_iff.mp h
  obtain ⟨⟨node, hnode, hputs⟩, howner⟩ := linkDelayRead_eq_ok h
  have hreader := ha.reader r node hnode ⟨link, List.mem_cons_self, hr⟩
  have hlinked := hreader.linked w
  have hnot : node.delay ≠ some .write := by
    obtain ⟨line, hbare, hne⟩ := hreader
    have hline : node.delay = line := congrArg Node.delay hbare
    exact hline ▸ hne
  refine ⟨⟨ha.wellFormed.putsReader hputs hnot howner, ?_, ?_⟩, hputs.nextConnection⟩
  · intro m found hm
    rw [hputs.node?] at hm
    split at hm
    · injection hm with hm
      exact Or.inl (Or.inr ⟨w, hm ▸ hlinked⟩)
    · rename_i hne
      refine (ha.settled m found hm).imp_right ?_
      rintro ⟨other, hin, hget⟩
      rcases List.mem_cons.mp hin with rfl | hin
      · rw [hr] at hget
        injection hget with hget
        exact absurd hget.symm hne
      · exact ⟨other, hin, hget⟩
  · rintro m found hm ⟨other, hin, hget⟩
    rw [hputs.node?] at hm
    split at hm
    · injection hm with hm
      exact Node.isReader_of_bare_eq (hm ▸ hlinked)
    · exact ha.reader m found hm ⟨other, List.mem_cons_of_mem _ hin, hget⟩

/-- The second pass leaves nothing waiting. -/
theorem Awaits.linkAll {ids : List NodeId} {links : List (Nat × Nat)} {g g' : Graph}
    (ha : g.Awaits resolve (Linking ids links)) (h : links.foldlM (GraphRecord.linkRead ids) g = .ok g') :
    g'.WellFormed ∧ g'.AllBare (Node.Rebuilds resolve) ∧ g'.nextConnection = g.nextConnection := by
  induction links generalizing g with
  | nil =>
      injection h with h
      subst h
      refine ⟨ha.wellFormed, ?_, rfl⟩
      intro n node hn
      refine (ha.settled n node hn).resolve_right ?_
      rintro ⟨link, hlink, -⟩
      exact absurd hlink List.not_mem_nil
  | cons link links ih =>
      rw [List.foldlM_cons] at h
      obtain ⟨mid, hmid, h⟩ := Except.bind_eq_ok_iff.mp h
      obtain ⟨hlinked, hnext⟩ := ha.linkRead hmid
      obtain ⟨hwf, hbuilt, hend⟩ := ih hlinked h
      exact ⟨hwf, hbuilt, hend.trans hnext⟩

/-! ## The connections of a record -/

/-- The third pass keeps the invariant and the nodes. -/
theorem WellFormed.addConnections {ids : List NodeId} {rows : List ConnectionRecord} {p : Node → Prop} {g g' : Graph}
    (hwf : g.WellFormed) (hp : g.AllBare p) (hroom : g.nextConnection.toNat + rows.length < 2 ^ 32)
    (h : rows.foldlM (GraphRecord.addConnection ids) g = .ok g') : g'.WellFormed ∧ g'.AllBare p := by
  induction rows generalizing g with
  | nil =>
      injection h with h
      exact h ▸ ⟨hwf, hp⟩
  | cons row rows ih =>
      rw [List.foldlM_cons] at h
      obtain ⟨mid, hmid, h⟩ := Except.bind_eq_ok_iff.mp h
      obtain ⟨src, dst, c, -, -, hconn⟩ := addConnection_eq_ok_iff.mp hmid
      rw [List.length_cons] at hroom
      have hone : g.ConnectionRoom := by
        unfold ConnectionRoom
        omega
      have hnext : mid.nextConnection = g.nextConnection + 1 := by
        obtain ⟨-, -, -, -, rfl⟩ := connect_eq_ok_iff.mp hconn
        rfl
      refine ih (hwf.connect hone hconn) ?_ ?_ h
      · exact hp.relists (joins_connect hwf.toNumbered hconn).toRelists
      · rw [hnext, toNat_add_one hone]
        omega

end Graph

/-! ## The whole record -/

/-- The tables of a record are no longer than the counters of a graph can count. -/
structure GraphRecord.Countable (r : GraphRecord) : Prop where
  nodes : r.nodes.length < 2 ^ 32
  connections : r.connections.length < 2 ^ 32

/-- A graph that is read from a record keeps the invariant, and its nodes are factory nodes. -/
theorem GraphRecord.Countable.accepted {r : GraphRecord} {g : Graph} (hr : r.Countable)
    (h : r.toGraph resolve = .ok g) : g.WellFormed ∧ g.AllBare (Node.Rebuilds resolve) := by
  obtain ⟨d, hdraft, h⟩ := Except.bind_eq_ok_iff.mp h
  obtain ⟨linked, hlinks, h⟩ := Except.bind_eq_ok_iff.mp h
  obtain ⟨wired, hrows, h⟩ := Except.bind_eq_ok_iff.mp h
  obtain ⟨-, -, h⟩ := Except.bind_eq_ok_iff.mp h
  injection h with h
  have hd := Graph.drafting_nodes hr.nodes hdraft
  obtain ⟨hwf, hbuilt, hnext⟩ := hd.awaits.linkAll hlinks
  refine h ▸ hwf.addConnections hbuilt ?_ hrows
  rw [hnext, hd.nextConnection]
  exact (Nat.zero_add _).symm ▸ hr.connections

/-! ## The graphs of an editor -/

namespace Graph

/-- The graphs that an editor starts from: new ones, and those that are read from records. -/
inductive Opened : Graph → Prop where
  | new (name : String) : Opened (empty name)
  | read {r : GraphRecord} {resolve : Origin → Option Capability} {g : Graph} (hr : r.Countable)
      (h : r.toGraph resolve = .ok g) : Opened g

/-- The graphs that an editor ends with, after any edits that add factory nodes. -/
def Edited (g : Graph) : Prop :=
  ∃ start es, Opened start ∧ (∀ e ∈ es, ∃ resolve, e.Builds resolve) ∧ start.RoomFor es ∧ g = start.run es

theorem Reachable.edited {g : Graph} (hg : g.Reachable fun e => ∃ resolve, e.Builds resolve) : g.Edited := by
  obtain ⟨name, es, hes, hroom, heq⟩ := hg
  exact ⟨empty name, es, .new name, hes, hroom, heq⟩

/-- A graph that is read counts as one that is edited, without edits. -/
theorem Opened.edited {g : Graph} (hg : g.Opened) : g.Edited :=
  ⟨g, [], hg, fun _ he => absurd he List.not_mem_nil, ⟨g.nextNode.toNat_lt, g.nextConnection.toNat_lt⟩, rfl⟩

theorem Opened.rebuilt {g : Graph} (hg : g.Opened) :
    g.WellFormed ∧ g.AllBare fun node => ∃ resolve, node.Rebuilds resolve := by
  cases hg with
  | new name => exact ⟨empty_wellFormed name, allBare_empty _ name⟩
  | read hr h =>
      obtain ⟨hwf, hbuilt⟩ := hr.accepted h
      exact ⟨hwf, fun n node hn => ⟨_, hbuilt n node hn⟩⟩

/-- The graphs that edits of an opened graph lead to, whatever nodes they add. -/
def Attained (g : Graph) : Prop :=
  ∃ start es, Opened start ∧ (∀ e ∈ es, e.Clean) ∧ start.RoomFor es ∧ g = start.run es

theorem Attained.wellFormed {g : Graph} (hg : g.Attained) : g.WellFormed := by
  obtain ⟨start, es, hstart, hes, hroom, rfl⟩ := hg
  exact hstart.rebuilt.1.run hes hroom

theorem Reachable.attained {g : Graph} (hg : g.Reachable Edit.Clean) : g.Attained := by
  obtain ⟨name, es, hes, hroom, heq⟩ := hg
  exact ⟨empty name, es, .new name, hes, hroom, heq⟩

theorem Edited.rebuilt {g : Graph} (hg : g.Edited) :
    g.WellFormed ∧ g.AllBare fun node => ∃ resolve, node.Rebuilds resolve := by
  obtain ⟨start, es, hstart, hes, hroom, rfl⟩ := hg
  obtain ⟨hwf, hbuilt⟩ := hstart.rebuilt
  exact hbuilt.run_rebuilt hwf hes hroom

/-! ## The graphs of one factory -/

/-- The graphs that an editor with one factory starts from: new ones, and those that the factory reads from records. -/
inductive OpenedBy (resolve : Origin → Option Capability) : Graph → Prop where
  | new (name : String) : OpenedBy resolve (empty name)
  | read {r : GraphRecord} {g : Graph} (hr : r.Countable) (h : r.toGraph resolve = .ok g) : OpenedBy resolve g

/-- The graphs that an editor with one factory ends with, after any edits that add nodes of this factory. -/
def EditedBy (resolve : Origin → Option Capability) (g : Graph) : Prop :=
  ∃ start es, OpenedBy resolve start ∧ (∀ e ∈ es, e.Builds resolve) ∧ start.RoomFor es ∧ g = start.run es

theorem Reachable.editedBy {g : Graph} (hg : g.Reachable (Edit.Builds resolve)) : g.EditedBy resolve := by
  obtain ⟨name, es, hes, hroom, heq⟩ := hg
  exact ⟨empty name, es, .new name, hes, hroom, heq⟩

theorem OpenedBy.rebuilds {g : Graph} (hg : g.OpenedBy resolve) : g.WellFormed ∧ g.AllBare (Node.Rebuilds resolve) := by
  cases hg with
  | new name => exact ⟨empty_wellFormed name, allBare_empty _ name⟩
  | read hr h => exact hr.accepted h

theorem EditedBy.rebuilds {g : Graph} (hg : g.EditedBy resolve) : g.WellFormed ∧ g.AllBare (Node.Rebuilds resolve) := by
  obtain ⟨start, es, hstart, hes, hroom, rfl⟩ := hg
  obtain ⟨hwf, hbuilt⟩ := hstart.rebuilds
  exact hbuilt.run_rebuilds hwf hes hroom

end Graph

end SignalGraph
