import SignalGraph.Proofs.Record.Verdict

/-!
# What is read from a record

The graph that is read from a record can be told from the tables (`ReadFrom`). The number of a node is the place of its
entry. The first pass builds the node of an entry, which has the origin of the entry but for the blanks around a number,
and puts it at the end of one of the three sequences; so each sequence has the order of the table (`Enlisted`). The
second pass gives each reader the line that its entry names (`Lined`), and the third pass makes the connections of the
rows. Neither changes the sequences.
-/

namespace SignalGraph

variable {resolve : Origin → Option Capability}

/-! ## What an entry stands for -/

/-- Trimming leaves the mark of a terminal alone, which has no blanks. -/
theorem trim_terminalMark (d : Direction) (name : String) :
    ∃ rest, Text.trim Text.isBlank (terminalMark d ++ name) = terminalMark d ++ rest := by
  have hfront : ∀ cs : List Char,
      ((terminalMark d).toList ++ cs).dropWhile Text.isBlank = (terminalMark d).toList ++ cs := by
    intro cs
    cases d <;> rfl
  have hback : (terminalMark d).toList.reverse.dropWhile Text.isBlank = (terminalMark d).toList.reverse := by
    cases d <;> rfl
  refine ⟨String.ofList (name.toList.reverse.dropWhile Text.isBlank).reverse, String.toList_injective ?_⟩
  unfold Text.trim
  rw [String.toList_append, hfront, List.reverse_append, List.dropWhile_append, String.toList_ofList,
    String.toList_append, String.toList_ofList]
  split
  · rename_i hempty
    rw [hback, List.isEmpty_iff.mp hempty, List.reverse_reverse, List.reverse_nil, List.append_nil]
  · rw [List.reverse_append, List.reverse_reverse]

theorem trim_operator {op : String} (h : op ∈ operators) : Text.trim Text.isBlank op = op := by
  unfold operators at h
  simp only [List.mem_cons, List.not_mem_nil, or_false] at h
  rcases h with rfl | rfl | rfl | rfl <;> rfl

namespace NodeRecord

/-- Whether the entry stands for a terminal of a direction. -/
def isTerminalOf (e : NodeRecord) (d : Direction) : Bool :=
  e.origin.isBuiltin && Text.startsWith (terminalMark d) e.name

/-- Whether the entry stands for a number. -/
def isConstant (e : NodeRecord) : Bool :=
  e.origin.isBuiltin && (Node.parseConstant? (Text.trim Text.isBlank e.name)).isSome

/-- The entry without the blanks around a number. -/
def trimmed (e : NodeRecord) : NodeRecord :=
  if e.isConstant then { e with name := Text.trim Text.isBlank e.name } else e

/-- The part on a delay line that the entry at a place asks for, where nodes have their places as numbers. -/
def line? (e : NodeRecord) (place : Nat) : Option DelayLink :=
  if e.origin = delayOrigin then
    some (if e.Reads place then .read ⟨UInt32.ofNat (e.delayWrite.toNat - 1)⟩ else .write)
  else none

variable {e : NodeRecord} {built : Node}

/-- A number has no mark. -/
theorem isTerminalOf_of_isConstant (h : e.isConstant = true) (d : Direction) : e.isTerminalOf d = false := by
  unfold isConstant at h
  rw [Bool.and_eq_true] at h
  rw [Bool.eq_false_iff]
  intro hterm
  unfold isTerminalOf at hterm
  rw [Bool.and_eq_true] at hterm
  obtain ⟨name, hname⟩ := Option.isSome_iff_exists.mp hterm.2
  obtain ⟨rest, hrest⟩ := trim_terminalMark d name
  have hvalue := h.2
  rw [Text.stripPrefix?_eq_some_iff.mp hname, hrest, Node.parseConstant?_terminalMark] at hvalue
  exact absurd hvalue (by simp)

/-- The number of an entry is built without any package. -/
theorem builtin?_isSome_of_isConstant (h : e.isConstant = true) : (Node.builtin? e.origin).isSome = true := by
  have hmark := isTerminalOf_of_isConstant h
  unfold isConstant at h
  rw [Bool.and_eq_true] at h
  obtain ⟨hbuiltin, hvalue⟩ := h
  have hpkg : e.pkg = "" := Origin.isBuiltin_iff.mp hbuiltin
  have horigin : e.origin = ⟨"", e.name⟩ := congrArg (Origin.mk · e.name) hpkg
  have hunmarked : ∀ d name, e.name ≠ terminalMark d ++ name := by
    intro d name heq
    have hnot := hmark d
    unfold isTerminalOf Text.startsWith at hnot
    rw [hbuiltin, heq, Text.stripPrefix?_eq_some_iff.mpr rfl] at hnot
    exact absurd hnot (by simp)
  rw [horigin, Node.builtin?_unmarked hunmarked]
  unfold Node.operator? Node.constant?
  dsimp only
  split
  · rfl
  · rfl

theorem trimmed_of_not_isConstant (h : e.isConstant = false) : e.trimmed = e := by
  unfold trimmed
  rw [h, if_neg Bool.false_ne_true]

/-- The blanks around a number are all that building a node takes away. -/
theorem origin_of_build (h : Node.build resolve e.origin = .ok built) : built.origin = e.trimmed.origin := by
  have hplain : e.isConstant = false → built.origin = e.origin → built.origin = e.trimmed.origin := by
    intro hconst horigin
    rw [trimmed_of_not_isConstant hconst, horigin]
  have hvalueless : ∀ text, e.origin = ⟨"", text⟩ →
      Node.parseConstant? (Text.trim Text.isBlank text) = none → e.isConstant = false := by
    intro text horigin hnone
    have hname : e.name = text := congrArg Origin.name horigin
    unfold isConstant
    rw [hname, hnone, Option.isSome_none, Bool.and_false]
  have hcases := Node.built_of_build h
  generalize ho : e.origin = origin at hcases
  cases hcases with
  | delay =>
      refine hplain ?_ ho.symm
      unfold isConstant
      rw [ho]
      rfl
  | terminal d name =>
      obtain ⟨rest, hrest⟩ := trim_terminalMark d name
      refine hplain (hvalueless _ ho ?_) (Eq.trans ?_ ho.symm)
      · rw [hrest]
        exact Node.parseConstant?_terminalMark d rest
      · cases d <;> rfl
  | operator hop =>
      refine hplain (hvalueless _ ho ?_) ho.symm
      rw [trim_operator hop]
      exact Node.parseConstant?_operator hop
  | number hvalue =>
      have hname : e.name = _ := congrArg Origin.name ho
      have hconst : e.isConstant = true := by
        unfold isConstant
        rw [ho, hname, hvalue]
        rfl
      unfold trimmed
      rw [if_pos hconst, hname]
      exact congrArg (Origin.mk · _) (congrArg Origin.pkg ho).symm
  | provided hnone _ _ =>
      refine hplain ?_ ho.symm
      rw [Bool.eq_false_iff]
      intro hconst
      have hsome := builtin?_isSome_of_isConstant hconst
      rw [ho, hnone] at hsome
      exact absurd hsome (by simp)

theorem isTerminalOf_of_build (h : Node.build resolve e.origin = .ok built) (d : Direction) :
    built.isTerminalOf d = e.isTerminalOf d := by
  have hself : built.isTerminalOf d = e.trimmed.isTerminalOf d := by
    unfold Node.isTerminalOf isTerminalOf
    rw [origin_of_build h]
    rfl
  rw [hself]
  cases hconst : e.isConstant with
  | false => rw [trimmed_of_not_isConstant hconst]
  | true =>
      -- neither the text of a number nor that text without blanks has a mark
      have hagain : e.trimmed.isConstant = true := by
        unfold trimmed
        rw [if_pos hconst]
        unfold isConstant at hconst ⊢
        dsimp only
        rw [Text.trim_trim]
        exact hconst
      rw [isTerminalOf_of_isConstant hconst, isTerminalOf_of_isConstant hagain]

end NodeRecord

/-! ## The sequences -/

/-- The number of the node of an entry that is listed with its place. -/
def seatNumber (s : NodeRecord × Nat) : NodeId := ⟨UInt32.ofNat s.2⟩

namespace Graph

/-- The sequences hold the nodes of some entries, each in the order of the table. -/
structure Enlisted (name : String) (seats : List (NodeRecord × Nat)) (g : Graph) : Prop where
  name : g.name = name
  inPorts : g.inPorts = (seats.filter (·.1.isTerminalOf .input)).map seatNumber
  body : g.body = (seats.filter fun s => !(s.1.isTerminalOf .input || s.1.isTerminalOf .output)).map seatNumber
  outPorts : g.outPorts = (seats.filter (·.1.isTerminalOf .output)).map seatNumber

/-- Two graphs have one name and the same sequences. -/
structure SameSequences (g g' : Graph) : Prop where
  name : g'.name = g.name
  inPorts : g'.inPorts = g.inPorts
  body : g'.body = g.body
  outPorts : g'.outPorts = g.outPorts

variable {g g' : Graph} {name : String} {seats : List (NodeRecord × Nat)}

theorem SameSequences.refl (g : Graph) : SameSequences g g := ⟨rfl, rfl, rfl, rfl⟩

theorem SameSequences.trans {g'' : Graph} (h : SameSequences g g') (h' : SameSequences g' g'') : SameSequences g g'' :=
  ⟨h'.name.trans h.name, h'.inPorts.trans h.inPorts, h'.body.trans h.body, h'.outPorts.trans h.outPorts⟩

theorem Enlisted.same (h : Enlisted name seats g) (hsame : SameSequences g g') : Enlisted name seats g' :=
  ⟨hsame.name.trans h.name, hsame.inPorts.trans h.inPorts, hsame.body.trans h.body, hsame.outPorts.trans h.outPorts⟩

/-- A node that is added goes to the sequence that its entry asks for. -/
theorem Enlisted.enlist (h : Enlisted name seats g) {s : NodeRecord × Nat} {node : Node}
    (hnode : ∀ d, node.isTerminalOf d = s.1.isTerminalOf d) (arena : Table NodeId Node) (next : UInt32) :
    Enlisted name (seats ++ [s])
      (({ g with arena := arena, nextNode := next } : Graph).enlist (seatNumber s) node) := by
  have hconcat : ∀ p : NodeRecord × Nat → Bool, ((seats ++ [s]).filter p).map seatNumber
      = (seats.filter p).map seatNumber ++ if p s then [seatNumber s] else [] := by
    intro p
    rw [List.filter_append, List.map_append]
    cases hp : p s <;> simp [hp]
  have hin : node.isInputTerminal = s.1.isTerminalOf .input := hnode .input
  have hout : node.isOutputTerminal = s.1.isTerminalOf .output := hnode .output
  exact {
    name := (name_enlist _ _ _).trans h.name
    inPorts := by rw [inPorts_enlist, hconcat, ← h.inPorts, hin]
    body := by
      rw [body_enlist, hconcat, ← h.body]
      unfold Node.isTerminal
      rw [hin, hout]
    outPorts := by rw [outPorts_enlist, hconcat, ← h.outPorts, hout] }

theorem Enlisted.addEntry {total : Nat} {d d' : GraphRecord.Draft} {s : NodeRecord × Nat}
    (h : Enlisted name seats d.graph) (hnext : seatNumber s = ⟨d.graph.nextNode⟩)
    (hadd : GraphRecord.addEntry resolve total d s = .ok d') : Enlisted name (seats ++ [s]) d'.graph := by
  obtain ⟨node, owner?, n, g', hentry, hnode, rfl⟩ := addEntry_eq_ok_iff.mp hadd
  obtain ⟨-, rfl, rfl⟩ := addNode_eq_ok_iff.mp hnode
  obtain ⟨built, hbuild, hbound, hx⟩ := buildEntry_eq_ok_iff.mp hentry
  rw [← hnext]
  refine h.enlist ?_ _ _
  intro dir
  rw [← NodeRecord.isTerminalOf_of_build hbuild]
  split at hx
  · -- a reader and the owner of a line have one origin
    rename_i hreads
    obtain ⟨rfl, -⟩ := Prod.mk.inj hx
    rw [(hbound hreads.1).2] at hbuild
    rw [Node.eq_delayWrite_of_build hbuild]
    exact Node.isTerminalOf_congr rfl dir
  · obtain ⟨rfl, -⟩ := Prod.mk.inj hx
    rfl

theorem enlisted_of_draft {entries : List NodeRecord} {total : Nat} (hroom : entries.length < 2 ^ 32)
    {d : GraphRecord.Draft}
    (h : entries.zipIdx.foldlM (GraphRecord.addEntry resolve total) { graph := .empty name } = .ok d) :
    Enlisted name entries.zipIdx d.graph := by
  refine (foldlM_induction
    (P := fun done d => Seated resolve total (done.map Prod.fst) d ∧ Enlisted name done d.graph)
    ?_ ⟨empty_seated resolve total name, rfl, rfl, rfl, rfl⟩ h).2
  rintro done ⟨e, i⟩ todo d d' hall ⟨hseated, henlisted⟩ hadd
  have hplace := (place_of_split hall).1
  refine ⟨seated_step hroom done (e, i) todo d d' hall hseated hadd, henlisted.addEntry ?_ hadd⟩
  unfold seatNumber
  dsimp only
  rw [hplace, ← hseated.nextNode, UInt32.ofNat_toNat]

/-! ## Delay lines -/

/-- The nodes have the origins of their entries and their parts on delay lines, but for readers that wait for theirs. -/
def Lined (entries : List NodeRecord) (done : List (Nat × Nat)) (g : Graph) : Prop :=
  ∀ i e, entries[i]? = some e → ∃ node, g.node? ⟨UInt32.ofNat i⟩ = some node ∧ node.origin = e.trimmed.origin
    ∧ node.delay = if e.Reads i ∧ i ∉ done.map Prod.fst then none else e.line? i

section Lined

variable {entries : List NodeRecord} {d : GraphRecord.Draft}

theorem Seated.lined {total : Nat} (hd : Seated resolve total entries d) : Lined entries [] d.graph := by
  intro i e he
  obtain ⟨built, hbuild, hbound, hnode⟩ := hd.entry he
  refine ⟨_, hnode, ?_⟩
  have horigin := NodeRecord.origin_of_build hbuild
  have hdelay := Node.isDelay_iff_of_build hbuild
  unfold NodeRecord.node
  by_cases hreads : e.Reads i
  · rw [(hbound hreads.1).2] at hbuild
    rw [if_pos hreads, if_pos ⟨hreads, by simp⟩, ← horigin, Node.eq_delayWrite_of_build hbuild]
    exact ⟨rfl, rfl⟩
  · rw [if_neg hreads, if_neg fun h => hreads h.1]
    refine ⟨horigin, ?_⟩
    unfold NodeRecord.line?
    rw [if_neg hreads]
    -- of what is built, only the owner of a line has a part on one
    rcases (Node.built_of_build hbuild).delay_cases with hnone | rfl
    · have hother : e.origin ≠ delayOrigin := fun heq => absurd (hdelay.mpr heq) (by simp [Node.isDelay, hnone])
      rw [hnone, if_neg hother]
    · rw [if_pos (hdelay.mp rfl)]
      rfl

/-- A link gives its reader the line that the entry of the reader names. -/
theorem Lined.linkRead {done : List (Nat × Nat)} {link : Nat × Nat} (h : Lined entries done g)
    (hroom : entries.length < 2 ^ 32) (hd : Seated resolve entries.length entries d) (hlink : link ∈ d.reads)
    (hlinked : GraphRecord.linkRead d.ids g link = .ok g') : Lined entries (done ++ [link]) g' := by
  obtain ⟨hreader, howner, -⟩ := hd.link_places hlink
  obtain ⟨reader, hreaderEntry, hreads, hplace⟩ := hd.mem_reads_iff.mp hlink
  obtain ⟨r, w, hr, hw, hlinked⟩ := linkRead_eq_ok_iff.mp hlinked
  rw [hd.getElem?_ids hreader] at hr
  rw [hd.getElem?_ids howner] at hw
  injection hr with hr
  injection hw with hw
  subst hr hw
  obtain ⟨⟨old, hold, hputs⟩, -⟩ := linkDelayRead_eq_ok hlinked
  intro i e he
  obtain ⟨node, hnode, horigin, hdelay⟩ := h i e he
  have hi := (List.getElem?_eq_some_iff.mp he).1
  rw [hputs.node?]
  by_cases hself : i = link.1
  · subst hself
    rw [hreaderEntry] at he
    injection he with he
    subst he
    rw [hold] at hnode
    injection hnode with hnode
    subst hnode
    have hline : reader.line? link.1 = some (.read ⟨UInt32.ofNat link.2⟩) := by
      obtain ⟨built, -, hbound, -⟩ := hd.entry hreaderEntry
      unfold NodeRecord.line?
      rw [if_pos (hbound hreads.1).2, if_pos hreads, hplace]
    rw [if_pos rfl, if_neg (by simp), hline]
    exact ⟨_, rfl, horigin, rfl⟩
  · have hother : (⟨UInt32.ofNat i⟩ : NodeId) ≠ ⟨UInt32.ofNat link.1⟩ := by
      intro heq
      injection heq with heq
      have hnat := congrArg UInt32.toNat heq
      rw [UInt32.toNat_ofNat_of_lt' (Nat.lt_trans hi hroom), UInt32.toNat_ofNat_of_lt' (Nat.lt_trans hreader hroom)]
        at hnat
      exact hself hnat
    have hmem : i ∉ (done ++ [link]).map Prod.fst ↔ i ∉ done.map Prod.fst := by
      rw [List.map_append, List.mem_append, List.map_singleton, List.mem_singleton, or_iff_left hself]
    rw [if_neg hother]
    simp only [hmem]
    exact ⟨node, hnode, horigin, hdelay⟩

theorem sameSequences_linkRead {ids : List NodeId} {link : Nat × Nat}
    (h : GraphRecord.linkRead ids g link = .ok g') : SameSequences g g' := by
  obtain ⟨r, w, -, -, hlinked⟩ := linkRead_eq_ok_iff.mp h
  obtain ⟨⟨node, hnode, -⟩, howner⟩ := linkDelayRead_eq_ok hlinked
  obtain ⟨g₁, hagain, hname, hputs⟩ := putsNode_linkDelayRead hnode howner
  rw [hlinked] at hagain
  injection hagain with hagain
  subst hagain
  exact ⟨hname, hputs.inPorts, hputs.body, hputs.outPorts⟩

/-- After the second pass every reader has its line. -/
theorem Seated.linked (hd : Seated resolve entries.length entries d) (hroom : entries.length < 2 ^ 32)
    (h : d.reads.foldlM (GraphRecord.linkRead d.ids) d.graph = .ok g) : SameSequences d.graph g
      ∧ ∀ i e, entries[i]? = some e → ∃ node, g.node? ⟨UInt32.ofNat i⟩ = some node
        ∧ node.origin = e.trimmed.origin ∧ node.delay = e.line? i := by
  obtain ⟨hsame, hlined⟩ := foldlM_induction (P := fun done g => SameSequences d.graph g ∧ Lined entries done g)
    (fun done link todo g g' hall hg hlinked => ⟨hg.1.trans (sameSequences_linkRead hlinked),
      hg.2.linkRead hroom hd (by rw [hall]; simp) hlinked⟩) ⟨SameSequences.refl _, hd.lined⟩ h
  refine ⟨hsame, fun i e he => ?_⟩
  obtain ⟨node, hnode, horigin, hdelay⟩ := hlined i e he
  have hgiven : ¬(e.Reads i ∧ i ∉ d.reads.map Prod.fst) := by
    rintro ⟨hreads, hnot⟩
    have hlink : (i, e.delayWrite.toNat - 1) ∈ d.reads := hd.mem_reads_iff.mpr ⟨e, he, hreads, rfl⟩
    exact hnot (List.mem_map_of_mem (f := Prod.fst) hlink)
  rw [if_neg hgiven] at hdelay
  exact ⟨node, hnode, horigin, hdelay⟩

end Lined

/-! ## All passes -/

/-- A graph has what the tables of a record list, with the places of the entries as the numbers of the nodes. -/
structure ReadFrom (r : GraphRecord) (g : Graph) : Prop where
  enlisted : Enlisted r.name r.nodes.zipIdx g
  /-- Every entry has a node of its origin, with the part on a delay line that it asks for. -/
  node? : ∀ i e, r.nodes[i]? = some e → ∃ node, g.node? ⟨UInt32.ofNat i⟩ = some node
    ∧ node.origin = e.trimmed.origin ∧ node.delay = e.line? i
  /-- The connections are those of the rows. -/
  connects : ∀ s d, g.Connects s d ↔ ∃ row ∈ r.connections, row.src = s ∧ row.dst = d

theorem sameSequences_addConnection {ids : List NodeId} {row : ConnectionRecord}
    (h : GraphRecord.addConnection ids g row = .ok g') : SameSequences g g' := by
  obtain ⟨src, dst, c, -, -, hconn⟩ := addConnection_eq_ok_iff.mp h
  obtain ⟨-, -, -, -, rfl⟩ := connect_eq_ok_iff.mp hconn
  exact ⟨rfl, rfl, rfl, rfl⟩

theorem bare_addConnection {ids : List NodeId} {row : ConnectionRecord} (hg : g.Numbered)
    (h : GraphRecord.addConnection ids g row = .ok g') (n : NodeId) :
    (g'.node? n).map Node.bare = (g.node? n).map Node.bare := by
  obtain ⟨src, dst, c, -, -, hconn⟩ := addConnection_eq_ok_iff.mp h
  exact (joins_connect hg hconn).bare n

end Graph

/-- What is read from a record has what the tables of the record list. -/
theorem GraphRecord.Countable.readFrom {r : GraphRecord} {g : Graph} (hr : r.Countable)
    (h : r.toGraph resolve = .ok g) : Graph.ReadFrom r g := by
  rw [hr.toGraph_eq_assemble] at h
  obtain ⟨d, linked, hdraft, hlinks, hrows⟩ := GraphRecord.assemble_eq_ok_iff.mp h
  have hd := Graph.seated_of_draft hr.nodes hdraft
  obtain ⟨hsequences, hnodes⟩ := hd.linked hr.nodes hlinks
  have hstart := GraphRecord.tabled_linked hd hlinks
  rw [hd.ids] at hrows
  obtain ⟨htabled, hsame, hbare⟩ := foldlM_induction
    (P := fun done g => Graph.Tabled linked done g ∧ Graph.SameSequences linked g
      ∧ ∀ n, (g.node? n).map Node.bare = (linked.node? n).map Node.bare)
    (fun done row todo g g' hall hg hadd => ⟨Graph.tabled_step hr.connections done row todo g g' hall hg.1 hadd,
      hg.2.1.trans (Graph.sameSequences_addConnection hadd),
      fun n => (Graph.bare_addConnection hg.1.wellFormed.toNumbered hadd n).trans (hg.2.2 n)⟩)
    ⟨hstart, Graph.SameSequences.refl _, fun _ => rfl⟩ hrows
  refine ⟨((Graph.enlisted_of_draft hr.nodes hdraft).same hsequences).same hsame, ?_, htabled.connects⟩
  intro i e he
  obtain ⟨node, hnode, horigin, hdelay⟩ := hnodes i e he
  have hview := hbare ⟨UInt32.ofNat i⟩
  rw [hnode, Option.map_some, Option.map_eq_some_iff] at hview
  obtain ⟨node', hnode', heq⟩ := hview
  have horigin' : node'.bare.origin = node.bare.origin := by rw [heq]
  have hdelay' : node'.bare.delay = node.bare.delay := by rw [heq]
  exact ⟨node', hnode', horigin'.trans horigin, hdelay'.trans hdelay⟩

end SignalGraph
