import SignalGraph.Proofs.Record.Outcome
import SignalGraph.Proofs.Record.Rebuilt

/-!
# Records in normal form

Many records are read as the same graph, and one of them is what is written for the graph: the normal form. Its node
table lists input terminals first and output terminals last, and keeps the order within each group (`ordered`); all
indices follow. Numbers stand without blanks, an owner of a line names its own place, and the connections are in the
order of the inputs at which they end.

That a graph which is read is written in normal form is seen table by table, from what the graph has of the record
(`Graph.ReadFrom`). The node table of the graph is `ordered`, so the place of a node in it is the new place of its
entry; the connection table is a permutation of the rows, and no two rows have the same key.
-/

namespace SignalGraph

variable {resolve : Origin → Option Capability}

/-- The place of the owner of the line of the entry at a place: the entry itself, unless it names another one. -/
def NodeRecord.ownerPlace (e : NodeRecord) (place : Nat) : Nat :=
  if e.delayWrite = 0 then place else e.delayWrite.toNat - 1

/-- Rows in the order of the inputs at which they end. -/
def ConnectionRecord.Le (a b : ConnectionRecord) : Prop :=
  a.dstNode < b.dstNode ∨ a.dstNode = b.dstNode ∧ a.dstPort ≤ b.dstPort

instance : DecidableRel ConnectionRecord.Le := fun _ _ => inferInstanceAs (Decidable (_ ∨ _ ∧ _))

namespace GraphRecord

/-- The entries with their places: input terminals, what is no terminal, output terminals. -/
def ordered (r : GraphRecord) : List (NodeRecord × Nat) :=
  r.nodes.zipIdx.filter (·.1.isTerminalOf .input)
    ++ r.nodes.zipIdx.filter (fun s => !(s.1.isTerminalOf .input || s.1.isTerminalOf .output))
    ++ r.nodes.zipIdx.filter (·.1.isTerminalOf .output)

/-- Where the entry at a place goes. -/
def newPlace (r : GraphRecord) (place : Nat) : Nat := (r.ordered.map Prod.snd).idxOf place

/-- The entry that stands for the one at a place. A delay names the owner of its line, which may be itself. -/
def normalEntry (r : GraphRecord) (s : NodeRecord × Nat) : NodeRecord :=
  { s.1.trimmed with
    delayWrite := if s.1.delayWrite = 0 ∧ s.1.origin ≠ delayOrigin then 0
      else UInt32.ofNat (r.newPlace (s.1.ownerPlace s.2)) + 1 }

/-- The row between the new places of its ends. -/
def normalRow (r : GraphRecord) (c : ConnectionRecord) : ConnectionRecord :=
  { c with
    srcNode := UInt32.ofNat (r.newPlace c.srcNode.toNat)
    dstNode := UInt32.ofNat (r.newPlace c.dstNode.toNat) }

/-- The record that is written for the graph of a record. -/
def normalForm (r : GraphRecord) : GraphRecord where
  name := r.name
  nodes := r.ordered.map r.normalEntry
  connections := (r.connections.map r.normalRow).insertionSort ConnectionRecord.Le

end GraphRecord

/-! ## The delay line of an entry -/

namespace NodeRecord

variable {e : NodeRecord} {i : Nat}

theorem line?_of_other (h : e.origin ≠ delayOrigin) : e.line? i = none := if_neg h

theorem line?_of_reads (h : e.origin = delayOrigin) (hreads : e.Reads i) :
    e.line? i = some (.read ⟨UInt32.ofNat (e.ownerPlace i)⟩) := by
  unfold line? ownerPlace
  rw [if_pos h, if_pos hreads, if_neg hreads.1]

theorem line?_of_not_reads (h : e.origin = delayOrigin) (hreads : ¬e.Reads i) : e.line? i = some .write := by
  unfold line?
  rw [if_pos h, if_neg hreads]

/-- An owner names no place or its own. -/
theorem ownerPlace_of_not_reads (hreads : ¬e.Reads i) : e.ownerPlace i = i := by
  unfold ownerPlace
  split
  · rfl
  · rename_i hne
    have hplace : e.delayWrite.toNat = i + 1 := by
      by_contra hother
      exact hreads ⟨hne, hother⟩
    omega

theorem ownerPlace_lt {count : Nat} (hreads : e.Reads i) (hle : e.delayWrite.toNat ≤ count) :
    e.ownerPlace i < count := by
  have hpos : e.delayWrite.toNat ≠ 0 := fun hzero => hreads.1 (UInt32.toNat_inj.mp hzero)
  unfold ownerPlace
  rw [if_neg hreads.1]
  omega

end NodeRecord

theorem GraphRecord.delayWrite_normalEntry {r : GraphRecord} {e : NodeRecord} {i : Nat} (h : e.origin = delayOrigin) :
    (r.normalEntry (e, i)).delayWrite = UInt32.ofNat (r.newPlace (e.ownerPlace i)) + 1 :=
  if_neg fun hboth => hboth.2 h

theorem GraphRecord.delayWrite_normalEntry_of_other {r : GraphRecord} {e : NodeRecord} {i : Nat}
    (hzero : e.delayWrite = 0) (h : e.origin ≠ delayOrigin) : (r.normalEntry (e, i)).delayWrite = 0 := if_pos ⟨hzero, h⟩

/-! ## The order of the entries -/

/-- A name has the mark of one direction at most. -/
theorem NodeRecord.not_isTerminalOf_output {e : NodeRecord} (h : e.isTerminalOf .input = true) :
    e.isTerminalOf .output = false :=
  Node.not_isOutputTerminal (n := .ofNames e.origin [] []) h

namespace GraphRecord

variable {r : GraphRecord}

theorem ordered_perm (r : GraphRecord) : r.ordered.Perm r.nodes.zipIdx := by
  have hrest : r.nodes.zipIdx.filter (fun s => !(s.1.isTerminalOf .input || s.1.isTerminalOf .output))
      = (r.nodes.zipIdx.filter fun s => !s.1.isTerminalOf .input).filter fun s => !s.1.isTerminalOf .output := by
    rw [List.filter_filter]
    refine List.filter_congr fun s _ => ?_
    rw [Bool.not_or, Bool.and_comm]
  have hout : r.nodes.zipIdx.filter (·.1.isTerminalOf .output)
      = (r.nodes.zipIdx.filter fun s => !s.1.isTerminalOf .input).filter (·.1.isTerminalOf .output) := by
    rw [List.filter_filter]
    refine List.filter_congr fun s _ => ?_
    cases hin : s.1.isTerminalOf .input with
    | true => simp [NodeRecord.not_isTerminalOf_output hin]
    | false => simp
  unfold ordered
  rw [hrest, hout, List.append_assoc]
  have hsplit := List.perm_append_comm.trans (List.filter_append_perm (fun s : NodeRecord × Nat =>
    s.1.isTerminalOf .output) (r.nodes.zipIdx.filter fun s => !s.1.isTerminalOf .input))
  exact (hsplit.append_left _).trans (List.filter_append_perm _ _)

theorem mem_ordered_iff {s : NodeRecord × Nat} : s ∈ r.ordered ↔ r.nodes[s.2]? = some s.1 := by
  rw [r.ordered_perm.mem_iff, List.mem_zipIdx_iff_getElem?]

/-- Every place of the table is in the order once. -/
theorem places_perm (r : GraphRecord) : (r.ordered.map Prod.snd).Perm (List.range r.nodes.length) := by
  have hplaces := r.ordered_perm.map Prod.snd
  rwa [List.zipIdx_map_snd, ← List.range_eq_range'] at hplaces

theorem getElem?_newPlace {i : Nat} (hi : i < r.nodes.length) : (r.ordered.map Prod.snd)[r.newPlace i]? = some i :=
  List.getElem?_idxOf (r.places_perm.mem_iff.mpr (List.mem_range.mpr hi))

end GraphRecord

namespace Graph

variable {r : GraphRecord} {g : Graph}

/-! ## The node table -/

theorem ReadFrom.allNodes (h : ReadFrom r g) : g.allNodes = r.ordered.map seatNumber := by
  unfold Graph.allNodes GraphRecord.ordered
  rw [h.enlisted.inPorts, h.enlisted.body, h.enlisted.outPorts, List.map_append, List.map_append]

theorem ReadFrom.mem_allNodes (h : ReadFrom r g) {i : Nat} (hi : i < r.nodes.length) :
    (⟨UInt32.ofNat i⟩ : NodeId) ∈ g.allNodes := by
  rw [h.allNodes]
  exact List.mem_map.mpr ⟨(r.nodes[i], i), GraphRecord.mem_ordered_iff.mpr (List.getElem?_eq_getElem hi), rfl⟩

/-- A node is listed at the new place of its entry. -/
theorem ReadFrom.idxOf_allNodes (h : ReadFrom r g) (hwf : g.WellFormed) {i : Nat} (hi : i < r.nodes.length) :
    g.allNodes.idxOf ⟨UInt32.ofNat i⟩ = r.newPlace i := by
  have hget : g.allNodes[r.newPlace i]? = some ⟨UInt32.ofNat i⟩ := by
    have hplace := GraphRecord.getElem?_newPlace hi
    rw [List.getElem?_map] at hplace
    obtain ⟨s, hs, rfl⟩ := Option.map_eq_some_iff.mp hplace
    rw [h.allNodes, List.getElem?_map, hs]
    rfl
  obtain ⟨hlt, heq⟩ := List.getElem?_eq_some_iff.mp hget
  rw [← heq]
  exact hwf.nodup.idxOf_getElem _ hlt

theorem ReadFrom.placed (h : ReadFrom r g) (hwf : g.WellFormed) {i : Nat} (hi : i < r.nodes.length) :
    g.placed ⟨UInt32.ofNat i⟩ = ⟨UInt32.ofNat (r.newPlace i)⟩ := by
  unfold Graph.placed
  rw [h.idxOf_allNodes hwf hi]

/-- The entry of a node in the record that is written. -/
theorem ReadFrom.nodeRecord (h : ReadFrom r g) (hwf : g.WellFormed) (hs : r.Sound resolve) {e : NodeRecord} {i : Nat}
    (he : r.nodes[i]? = some e) {node : Node} (horigin : node.origin = e.trimmed.origin)
    (hdelay : node.delay = e.line? i) : g.nodeRecord (r.newPlace i) node = r.normalEntry (e, i) := by
  have hbound := hs.delay e (List.mem_of_getElem? he)
  have hline : (g.nodeRecord (r.newPlace i) node).delayWrite = (r.normalEntry (e, i)).delayWrite := by
    unfold Graph.nodeRecord
    dsimp only
    rw [hdelay]
    by_cases hkind : e.origin = delayOrigin
    · rw [GraphRecord.delayWrite_normalEntry hkind]
      by_cases hreads : e.Reads i
      · have howner := NodeRecord.ownerPlace_lt hreads (hbound hreads.1).1
        rw [NodeRecord.line?_of_reads hkind hreads]
        dsimp only
        rw [place?_of_mem (h.mem_allNodes howner), h.placed hwf howner]
        rfl
      · rw [NodeRecord.line?_of_not_reads hkind hreads, NodeRecord.ownerPlace_of_not_reads hreads]
    · have hzero : e.delayWrite = 0 := by
        by_contra hne
        exact hkind (hbound hne).2
      rw [NodeRecord.line?_of_other hkind, GraphRecord.delayWrite_normalEntry_of_other hzero hkind]
  have hpkg : node.origin.pkg = e.trimmed.pkg := congrArg Origin.pkg horigin
  have hname : node.origin.name = e.trimmed.name := congrArg Origin.name horigin
  show (⟨node.origin.pkg, node.origin.name, _⟩ : NodeRecord) = ⟨e.trimmed.pkg, e.trimmed.name, _⟩
  rw [hpkg, hname]
  exact congrArg (NodeRecord.mk e.trimmed.pkg e.trimmed.name) hline

theorem ReadFrom.toRecord_nodes (h : ReadFrom r g) (hwf : g.WellFormed) (hs : r.Sound resolve) :
    g.toRecord.nodes = r.ordered.map r.normalEntry := by
  have hentries : List.Forall₂ (fun n e => ∀ s ∈ r.ordered, seatNumber s = n → r.normalEntry s = e.1) g.allNodes
      g.toRecord.nodes.zipIdx := by
    refine hwf.toRecord_nodes.imp ?_
    rintro _ _ ⟨node, hn, rfl⟩ ⟨e, i⟩ hmem rfl
    have he := GraphRecord.mem_ordered_iff.mp hmem
    obtain ⟨node', hn', horigin, hdelay⟩ := h.node? i e he
    obtain rfl := Option.some.inj (hn.symm.trans hn')
    unfold seatNumber
    dsimp only
    rw [h.idxOf_allNodes hwf (List.getElem?_eq_some_iff.mp he).1, h.nodeRecord hwf hs he horigin hdelay]
  rw [h.allNodes, List.forall₂_map_left_iff] at hentries
  have hsame := (List.forall₂_and_left _ _).mpr ⟨fun s hs => hs, hentries⟩
  rw [← List.zipIdx_map_fst 0 g.toRecord.nodes, eq_comm, ← List.forall₂_eq_eq_eq, List.forall₂_map_left_iff,
    List.forall₂_map_right_iff]
  exact hsame.imp fun s e hse => hse.2 s hse.1 rfl

/-! ## The connection table -/

end Graph

theorem ConnectionRecord.le_iff {a b : ConnectionRecord} : a.Le b ↔
    a.dstNode.toNat < b.dstNode.toNat ∨ a.dstNode.toNat = b.dstNode.toNat ∧ a.dstPort.toNat ≤ b.dstPort.toNat := by
  unfold Le
  rw [UInt32.lt_iff_toNat_lt, UInt32.le_iff_toNat_le, UInt32.toNat_inj]

instance : IsTrans ConnectionRecord ConnectionRecord.Le where
  trans a b c hab hbc := by
    rw [ConnectionRecord.le_iff] at hab hbc ⊢
    omega

instance : Std.Total ConnectionRecord.Le where
  total a b := by
    rw [ConnectionRecord.le_iff, ConnectionRecord.le_iff]
    omega

/-- A row that ends at an input before another one is not behind it. -/
theorem ConnectionRecord.le_of_before {a b : ConnectionRecord}
    (h : a.dstNode < b.dstNode ∨ a.dstNode = b.dstNode ∧ a.dstPort < b.dstPort) : a.Le b ∧ ¬b.Le a := by
  rw [UInt32.lt_iff_toNat_lt, UInt32.lt_iff_toNat_lt, ← UInt32.toNat_inj] at h
  rw [le_iff, le_iff]
  omega

namespace Graph

variable {r : GraphRecord} {g : Graph}

theorem ReadFrom.portsFit (h : ReadFrom r g) : g.PortsFit := by
  intro s d hc
  obtain ⟨row, -, rfl, rfl⟩ := (h.connects s d).mp hc
  exact ⟨row.srcPort.toNat_lt, row.dstPort.toNat_lt⟩

/-- The row of a connection in the record that is written. -/
theorem ReadFrom.connectionRecord (h : ReadFrom r g) (hwf : g.WellFormed) (hs : r.Sound resolve) {c : ConnectionRecord}
    (hc : c ∈ r.connections) : g.connectionRecord ⟨c.src, c.dst⟩ = r.normalRow c := by
  obtain ⟨e, -, he, -⟩ := hs.source c hc
  obtain ⟨e', -, he', -⟩ := hs.target c hc
  have hsrc := h.placed hwf (List.getElem?_eq_some_iff.mp he).1
  have hdst := h.placed hwf (List.getElem?_eq_some_iff.mp he').1
  rw [UInt32.ofNat_toNat] at hsrc hdst
  unfold Graph.connectionRecord GraphRecord.normalRow ConnectionRecord.src ConnectionRecord.dst
  dsimp only
  rw [hsrc, hdst, UInt32.ofNat_toNat, UInt32.ofNat_toNat]

/-- The record that is written has the rows of the one that was read. -/
theorem ReadFrom.toRecord_connections_perm (h : ReadFrom r g) (hwf : g.WellFormed) (hs : r.Sound resolve) :
    g.toRecord.connections.Perm (r.connections.map r.normalRow) := by
  have hrows : (r.connections.map fun c => (⟨c.src, c.dst⟩ : Connection)).Nodup := by
    refine List.Nodup.of_map Connection.dst ?_
    rw [List.map_map]
    exact (GraphRecord.nodup_dst_iff _).mpr hs.fan_in
  have hperm : g.replay.Perm (r.connections.map fun c => ⟨c.src, c.dst⟩) := by
    refine (List.perm_ext_iff_of_nodup (List.Nodup.of_map _ hwf.replay_dst_nodup) hrows).mpr ?_
    rintro ⟨s, d⟩
    rw [hwf.mem_replay, h.connects, List.mem_map]
    refine exists_congr fun c => and_congr_right fun _ => ?_
    rw [Connection.mk.injEq]
  have hnormal : (r.connections.map fun c => (⟨c.src, c.dst⟩ : Connection)).map g.connectionRecord
      = r.connections.map r.normalRow := by
    rw [List.map_map]
    exact List.map_congr_left fun c hc => h.connectionRecord hwf hs hc
  rw [hwf.toRecord_connections, ← hnormal]
  exact hperm.map _

/-- Later nodes of the table have greater places. -/
theorem WellFormed.placed_ascending (hwf : g.WellFormed) :
    g.allNodes.Pairwise fun m n => (g.placed m).val < (g.placed n).val := by
  rw [List.pairwise_iff_getElem]
  intro i j hi hj hij
  rw [UInt32.lt_iff_toNat_lt, hwf.placed_toNat (List.getElem_mem hi), hwf.placed_toNat (List.getElem_mem hj),
    hwf.nodup.idxOf_getElem, hwf.nodup.idxOf_getElem]
  exact hij

/-- The table that is written is in order, and no two of its rows end at one input. -/
theorem WellFormed.toRecord_connections_ascending (hwf : g.WellFormed) (hports : g.PortsFit) :
    g.toRecord.connections.Pairwise fun a b => a.Le b ∧ ¬b.Le a := by
  rw [hwf.toRecord_connections, List.pairwise_map]
  unfold replay
  rw [List.pairwise_flatMap]
  constructor
  · intro n hn
    -- the inputs of one node, in their order
    unfold entering
    split
    · rw [List.pairwise_filterMap]
      refine List.pairwise_lt_range.imp ?_
      intro i j hij x hx y hy
      obtain ⟨s, hs, rfl⟩ := Option.map_eq_some_iff.mp hx
      obtain ⟨t, ht, rfl⟩ := Option.map_eq_some_iff.mp hy
      have hj := (hports _ _ (hwf.sourceOf?_eq_some_iff.mp ht)).2
      refine ConnectionRecord.le_of_before (Or.inr ⟨rfl, ?_⟩)
      unfold Graph.connectionRecord
      dsimp only at hj ⊢
      rw [UInt32.lt_iff_toNat_lt, UInt32.toNat_ofNat_of_lt' (Nat.lt_trans hij hj), UInt32.toNat_ofNat_of_lt' hj]
      exact hij
    · exact List.Pairwise.nil
  · refine hwf.placed_ascending.imp ?_
    intro m n hlt x hx y hy
    refine ConnectionRecord.le_of_before (Or.inl ?_)
    unfold Graph.connectionRecord
    dsimp only
    rw [(hwf.mem_entering.mp hx).2, (hwf.mem_entering.mp hy).2]
    exact hlt

theorem ReadFrom.toRecord_connections (h : ReadFrom r g) (hwf : g.WellFormed) (hs : r.Sound resolve) :
    g.toRecord.connections = (r.connections.map r.normalRow).insertionSort ConnectionRecord.Le := by
  have hascending := hwf.toRecord_connections_ascending h.portsFit
  have hperm := (h.toRecord_connections_perm hwf hs).trans (List.perm_insertionSort ConnectionRecord.Le _).symm
  have hsorted := List.pairwise_insertionSort ConnectionRecord.Le (r.connections.map r.normalRow)
  -- no two rows are equal in the order, so there is one order only
  have hantisymm := List.Pairwise.forall_of_forall_of_flip (R := fun a b => a.Le b → b.Le a → a = b)
    (fun _ _ _ _ => rfl) (hascending.imp fun hab _ hba => absurd hba hab.2)
    (hascending.imp fun hab hba _ => absurd hba hab.2)
  refine List.Perm.eq_of_pairwise ?_ (hascending.imp And.left) hsorted hperm
  intro a b ha hb
  exact hantisymm ha (hperm.mem_iff.mpr hb)

/-- A graph that is read is written in normal form. -/
theorem ReadFrom.toRecord (h : ReadFrom r g) (hwf : g.WellFormed) (hs : r.Sound resolve) :
    g.toRecord = r.normalForm := by
  have hnodes := h.toRecord_nodes hwf hs
  have hconnections := h.toRecord_connections hwf hs
  show (⟨g.name, g.toRecord.nodes, g.toRecord.connections⟩ : GraphRecord) = _
  rw [h.enlisted.name, hnodes, hconnections]
  rfl

end Graph

namespace GraphRecord

theorem normalForm_lengths (r : GraphRecord) : r.normalForm.nodes.length = r.nodes.length
    ∧ r.normalForm.connections.length = r.connections.length := by
  constructor
  · show (r.ordered.map r.normalEntry).length = _
    rw [List.length_map, r.ordered_perm.length_eq, List.length_zipIdx]
  · show ((r.connections.map r.normalRow).insertionSort ConnectionRecord.Le).length = _
    rw [List.length_insertionSort, List.length_map]

/--
**Loading brings a record into normal form, once.** Whatever record is read, its normal form is written for the graph:
input terminals come first and output terminals last, in the order that they had; the places in both tables follow;
numbers lose the blanks around them, an owner of a line that named no place names its own, and the connections are in
the order of the inputs at which they end. That record is read again by the same factory and written again as it is,
and it has the name of the first record and as many nodes and connections.
-/
theorem loading_normalises {r : GraphRecord} (hr : r.Countable) {g : Graph} (h : r.toGraph resolve = .ok g) :
    g.toRecord = r.normalForm
      ∧ (∃ g', r.normalForm.toGraph resolve = .ok g' ∧ g'.toRecord = r.normalForm)
      ∧ r.normalForm.name = r.name
      ∧ r.normalForm.nodes.length = r.nodes.length
      ∧ r.normalForm.connections.length = r.connections.length := by
  obtain ⟨hwf, hbuilt⟩ := hr.accepted h
  have hs := (sound_records_read r hr resolve).1.mp ⟨g, h⟩
  have hread := hr.readFrom h
  have hnormal := hread.toRecord hwf hs
  obtain ⟨g', hload, -, hsame, -⟩ := (⟨hwf, hbuilt⟩ : g.BuiltFrom resolve).toGraph hread.portsFit
  rw [hnormal] at hload hsame
  exact ⟨hnormal, ⟨g', hload, hsame⟩, rfl, r.normalForm_lengths⟩

/-- A delay line between terminals, with the result first, the parameters last and the reader before the owner. -/
def shuffled : GraphRecord where
  name := "shuffled"
  nodes := [⟨"", "out-y", 0⟩, ⟨"dsp", "Delay", 3⟩, ⟨"dsp", "Delay", 0⟩, ⟨"", "in-x", 0⟩, ⟨"", "in-t", 0⟩]
  connections := [⟨3, 0, 2, 1⟩, ⟨4, 0, 1, 0⟩, ⟨4, 0, 2, 0⟩, ⟨1, 0, 0, 0⟩]

/-- What is written for it. -/
def settled : GraphRecord where
  name := "shuffled"
  nodes := [⟨"", "in-x", 0⟩, ⟨"", "in-t", 0⟩, ⟨"dsp", "Delay", 4⟩, ⟨"dsp", "Delay", 4⟩, ⟨"", "out-y", 0⟩]
  connections := [⟨1, 0, 2, 0⟩, ⟨1, 0, 3, 0⟩, ⟨0, 0, 3, 1⟩, ⟨2, 0, 4, 0⟩]

theorem shuffled_settles : ∃ g, shuffled.toGraph (fun _ => none) = .ok g ∧ g.toRecord = settled
    ∧ ∃ g', settled.toGraph (fun _ => none) = .ok g' ∧ g'.toRecord = settled := by
  have hread : (shuffled.toGraph fun _ => none).isOk = true := by cbv
  have hnormal : shuffled.normalForm = settled := by decide
  obtain ⟨g, hg⟩ := Except.exists_of_isOk hread
  obtain ⟨hwritten, hagain, -⟩ := loading_normalises ⟨by decide, by decide⟩ hg
  rw [hnormal] at hwritten hagain
  exact ⟨g, hg, hwritten, hagain⟩

/-- Only numbers lose their blanks: those of a terminal belong to its name. -/
example : (⟨"blank", [⟨"", " 0.5 ", 0⟩, ⟨"", "in- x ", 0⟩], []⟩ : GraphRecord).normalForm
    = ⟨"blank", [⟨"", "in- x ", 0⟩, ⟨"", "0.5", 0⟩], []⟩ := by decide

end GraphRecord

end SignalGraph
