import SignalGraph.Proofs.Graph.Connectable
import SignalGraph.Proofs.Record.Accepted
import SignalGraph.Proofs.Record.Rewiring

/-!
# What each pass over a record takes

A record is read in three passes. For each of them it is said here what it takes to come to its end, whatever the
record. The first pass gives every entry a node with its place as its number (`Seated`). The later passes ask no more of
a node than whether it owns a delay line and how many ports it has, and change neither (`SameOutline`): so whether a
reader gets its line and whether a port is there can be told from the entries alone.

While the connections are made, those of the graph are the rows of the table up to that point (`Tabled`). A row can be
made if both of its ports are there, no row before it leads to the same input, and there is no way back along the rows
before it.
-/

namespace SignalGraph

variable {resolve : Origin → Option Capability}

/-! ## Entries and rows -/

/-- What the node of an entry is built from. -/
def NodeRecord.origin (e : NodeRecord) : Origin := ⟨e.pkg, e.name⟩

/-- The entry at a place asks for the delay line of another place. -/
def NodeRecord.Reads (e : NodeRecord) (place : Nat) : Prop := e.delayWrite ≠ 0 ∧ e.delayWrite.toNat ≠ place + 1

instance (e : NodeRecord) (place : Nat) : Decidable (e.Reads place) := inferInstanceAs (Decidable (_ ∧ _))

/-- The output that a row starts at, where nodes have their places as numbers. -/
def ConnectionRecord.src (c : ConnectionRecord) : OutPort := ⟨⟨c.srcNode⟩, c.srcPort.toNat⟩

/-- The input that a row leads to. -/
def ConnectionRecord.dst (c : ConnectionRecord) : InPort := ⟨⟨c.dstNode⟩, c.dstPort.toNat⟩

/-- A row leads from one place to another. -/
def GraphRecord.Feeds (rows : List ConnectionRecord) (a b : UInt32) : Prop := ∃ c ∈ rows, c.srcNode = a ∧ c.dstNode = b

theorem GraphRecord.Feeds.mono {rows rows' : List ConnectionRecord} (hsub : ∀ c ∈ rows, c ∈ rows') {a b : UInt32}
    (h : GraphRecord.Feeds rows a b) : GraphRecord.Feeds rows' a b := by
  obtain ⟨c, hc, hends⟩ := h
  exact ⟨c, hsub c hc, hends⟩

/-! ## The first pass -/

theorem Node.eq_delayWrite_of_build {node : Node} (h : Node.build resolve delayOrigin = .ok node) :
    node = .delayWrite := by
  unfold Node.build at h
  rw [Node.builtin?_delay] at h
  injection h with h
  exact h.symm

/-- Only the origin of a delay builds a part of a delay line. -/
theorem Node.isDelay_iff_of_build {origin : Origin} {node : Node} (h : Node.build resolve origin = .ok node) :
    node.isDelay = true ↔ origin = delayOrigin := by
  constructor
  · intro hdelay
    cases Node.built_of_build h with
    | delay => rfl
    | terminal d name => cases d <;> exact absurd hdelay (by simp [isDelay, terminal, ofNames])
    | operator _ => exact absurd hdelay (by simp [isDelay, Node.operator, ofNames])
    | number _ => exact absurd hdelay (by simp [isDelay, Node.number, ofNames])
    | provided _ _ _ => exact absurd hdelay (by simp [isDelay, Node.provided, ofNames])
  · rintro rfl
    rw [Node.eq_delayWrite_of_build h]
    rfl

namespace Graph

/-- What it takes to build the node of an entry, and what comes out. -/
theorem buildEntry_eq_ok_iff {count i : Nat} {e : NodeRecord} {x : Node × Option Nat} :
    GraphRecord.buildEntry resolve count i e = .ok x ↔ ∃ built, Node.build resolve e.origin = .ok built
      ∧ (e.delayWrite ≠ 0 → e.delayWrite.toNat ≤ count ∧ e.origin = delayOrigin)
      ∧ x = if e.Reads i then ((Node.delayRead default).unlinked, some (e.delayWrite.toNat - 1)) else (built, none) := by
  have hbuild : GraphRecord.buildEntry resolve count i e = .ok x ↔ ∃ built, Node.build resolve e.origin = .ok built
      ∧ (if e.delayWrite = 0 then (.ok (built, none) : Except RecordError (Node × Option Nat))
        else if count ≤ e.delayWrite.toNat - 1 then .error (.delayIndex i e.delayWrite count)
        else if !built.isDelay then .error (.notADelayWrite i (e.delayWrite.toNat - 1))
        else if e.delayWrite.toNat - 1 = i then .ok (built, none)
        else .ok ((Node.delayRead default).unlinked, some (e.delayWrite.toNat - 1))) = .ok x := by
    unfold GraphRecord.buildEntry
    rw [Except.bind_eq_ok_iff]
    refine exists_congr fun built => ?_
    rw [Except.mapError_eq_ok_iff]
    rfl
  rw [hbuild]
  refine exists_congr fun built => and_congr_right fun hbuilt => ?_
  -- the checks in their order, where a place that is not zero is one above the number of an entry
  have hdelay := Node.isDelay_iff_of_build hbuilt
  by_cases hzero : e.delayWrite = 0
  · have hreads : ¬ e.Reads i := fun h => h.1 hzero
    rw [if_pos hzero, if_neg hreads, Except.ok.injEq, eq_comm]
    exact ⟨fun h => ⟨fun hne => absurd hzero hne, h⟩, fun h => h.2⟩
  · have hpos : 0 < e.delayWrite.toNat := by
      rw [Nat.pos_iff_ne_zero]
      exact fun h => hzero (UInt32.toNat_inj.mp h)
    rw [if_neg hzero]
    by_cases hcount : count ≤ e.delayWrite.toNat - 1
    · rw [if_pos hcount]
      refine ⟨fun h => absurd h (by simp), ?_⟩
      rintro ⟨hbound, -⟩
      have hle := (hbound hzero).1
      omega
    · rw [if_neg hcount]
      by_cases hline : built.isDelay = true
      · have hbound : e.delayWrite ≠ 0 → e.delayWrite.toNat ≤ count ∧ e.origin = delayOrigin :=
          fun _ => ⟨by omega, hdelay.mp hline⟩
        rw [hline, Bool.not_true, if_neg Bool.false_ne_true, and_iff_right hbound]
        by_cases hself : e.delayWrite.toNat - 1 = i
        · have hreads : ¬ e.Reads i := fun h => h.2 (by omega)
          rw [if_pos hself, if_neg hreads, Except.ok.injEq, eq_comm]
        · have hreads : e.Reads i := ⟨hzero, by omega⟩
          rw [if_neg hself, if_pos hreads, Except.ok.injEq, eq_comm]
      · rw [Bool.not_eq_true] at hline
        rw [hline, Bool.not_false, if_pos rfl]
        refine ⟨fun h => absurd h (by simp), ?_⟩
        rintro ⟨hbound, -⟩
        rw [hdelay.mpr (hbound hzero).2] at hline
        exact absurd hline (by simp)

/-- What the first pass has made of some of the entries: each has a node, numbered by its place. -/
structure Seated (resolve : Origin → Option Capability) (total : Nat) (entries : List NodeRecord)
    (d : GraphRecord.Draft) : Prop extends Drafting resolve entries.length d where
  /-- Places are numbers. -/
  ids : d.ids = (List.range entries.length).map fun i => ⟨UInt32.ofNat i⟩
  /-- Every entry has the node that is built for it. -/
  seat : ∀ i e, entries[i]? = some e →
    ∃ x, GraphRecord.buildEntry resolve total i e = .ok x ∧ d.graph.node? ⟨UInt32.ofNat i⟩ = some x.1
  /-- The links are those that the entries ask for. -/
  mem_reads : ∀ link, link ∈ d.reads ↔ ∃ e x, entries[link.1]? = some e
    ∧ GraphRecord.buildEntry resolve total link.1 e = .ok x ∧ x.2 = some link.2

theorem exists_addEntry_iff {total i : Nat} {d : GraphRecord.Draft} {e : NodeRecord} :
    (∃ d', GraphRecord.addEntry resolve total d (e, i) = .ok d')
      ↔ ∃ x, GraphRecord.buildEntry resolve total i e = .ok x := by
  constructor
  · rintro ⟨d', h⟩
    obtain ⟨node, owner?, -, -, hentry, -⟩ := addEntry_eq_ok_iff.mp h
    exact ⟨_, hentry⟩
  · rintro ⟨⟨node, owner?⟩, hentry⟩
    -- no entry is built as a reader that has its line already
    have hdelay : ∀ w, node.delay ≠ some (.read w) := by
      obtain ⟨built, hbuilt, -, hx⟩ := buildEntry_eq_ok_iff.mp hentry
      intro w
      split at hx
      · obtain ⟨rfl, -⟩ := Prod.mk.inj hx
        exact Node.unlinked_delay _ w
      · obtain ⟨rfl, -⟩ := Prod.mk.inj hx
        rcases (Node.built_of_build hbuilt).delay_cases with hnone | rfl
        · rw [hnone]
          simp
        · simp [Node.delayWrite]
    have hadd : d.graph.addNode node
        = .ok (⟨d.graph.nextNode⟩, (d.graph.allocate node).2.enlist ⟨d.graph.nextNode⟩ node) :=
      addNode_eq_ok_iff.mpr ⟨fun w hw => absurd hw (hdelay w), rfl, rfl⟩
    exact ⟨_, addEntry_eq_ok_iff.mpr ⟨node, owner?, _, _, hentry, hadd, rfl⟩⟩

theorem Seated.addEntry {total : Nat} {entries : List NodeRecord} {d d' : GraphRecord.Draft} {e : NodeRecord}
    (hd : Seated resolve total entries d) (hroom : entries.length + 1 < 2 ^ 32)
    (h : GraphRecord.addEntry resolve total d (e, entries.length) = .ok d') :
    Seated resolve total (entries ++ [e]) d' := by
  have hdrafting := hd.toDrafting.addEntry hroom h
  obtain ⟨node, owner?, n, g', hentry, hadd, rfl⟩ := addEntry_eq_ok_iff.mp h
  obtain ⟨-, rfl, rfl⟩ := addNode_eq_ok_iff.mp hadd
  have hadds := addsNode_enlist hd.awaits.wellFormed.toNumbered node
  have hnumber : (⟨d.graph.nextNode⟩ : NodeId) = ⟨UInt32.ofNat entries.length⟩ := by
    rw [← hd.nextNode, UInt32.ofNat_toNat]
  refine { toDrafting := ?_, ids := ?_, seat := ?_, mem_reads := ?_ }
  · rw [List.length_append, List.length_singleton]
    exact hdrafting
  · dsimp only
    rw [List.length_append, List.length_singleton, List.range_succ, List.map_append, hd.ids, hnumber]
    rfl
  · intro i e' he'
    rcases getElem?_concat_eq_some_iff.mp he' with hold | ⟨rfl, rfl⟩
    · obtain ⟨x, hx, hnode⟩ := hd.seat i e' hold
      exact ⟨x, hx, hadds.node?_of_some hnode⟩
    · exact ⟨_, hentry, hnumber ▸ hadds.node?_self⟩
  · intro link
    have hnew : link ∈ (owner?.map (entries.length, ·)).toList ↔ link.1 = entries.length ∧ owner? = some link.2 := by
      rw [Option.mem_toList, Option.map_eq_some_iff]
      constructor
      · rintro ⟨w, hw, rfl⟩
        exact ⟨rfl, hw⟩
      · rintro ⟨hplace, hw⟩
        exact ⟨link.2, hw, Prod.ext hplace.symm rfl⟩
    dsimp only
    rw [List.mem_append, hd.mem_reads, hnew]
    constructor
    · rintro (⟨e', x, he', hx⟩ | ⟨hplace, hw⟩)
      · exact ⟨e', x, getElem?_concat_eq_some_iff.mpr (Or.inl he'), hx⟩
      · exact ⟨e, (node, owner?), getElem?_concat_eq_some_iff.mpr (Or.inr ⟨hplace, rfl⟩), hplace ▸ hentry, hw⟩
    · rintro ⟨e', x, he', hx, hw⟩
      rcases getElem?_concat_eq_some_iff.mp he' with hold | ⟨hplace, rfl⟩
      · exact Or.inl ⟨e', x, hold, hx, hw⟩
      · rw [hplace, hentry] at hx
        injection hx with hx
        subst hx
        exact Or.inr ⟨hplace, hw⟩

theorem empty_seated (resolve : Origin → Option Capability) (total : Nat) (name : String) :
    Seated resolve total [] { graph := .empty name } where
  toDrafting := by
    have hnone : ([] : List NodeRecord).zipIdx.foldlM (GraphRecord.addEntry resolve total) { graph := .empty name }
        = .ok { graph := .empty name } := rfl
    exact drafting_nodes (by decide) hnone
  ids := rfl
  seat := by simp
  mem_reads := by simp

/-- An entry stands behind as many entries as its place says. -/
theorem place_of_split {entries : List NodeRecord} {done todo : List (NodeRecord × Nat)} {e : NodeRecord} {i : Nat}
    (hall : entries.zipIdx = done ++ (e, i) :: todo) : i = (done.map Prod.fst).length ∧ entries[i]? = some e := by
  have hget : entries.zipIdx[done.length]? = some (e, i) := by rw [hall]; simp
  rw [List.getElem?_zipIdx] at hget
  obtain ⟨e', he', heq⟩ := Option.map_eq_some_iff.mp hget
  injection heq with hsame hplace
  have hi : i = done.length := by omega
  rw [List.length_map]
  exact ⟨hi, by rw [hi, he', hsame]⟩

section FirstPass

variable {entries : List NodeRecord} {total : Nat} {name : String}

theorem seated_step (hroom : entries.length < 2 ^ 32) (done : List (NodeRecord × Nat)) (b : NodeRecord × Nat)
    (todo : List (NodeRecord × Nat)) (d d' : GraphRecord.Draft) (hall : entries.zipIdx = done ++ b :: todo)
    (hd : Seated resolve total (done.map Prod.fst) d) (h : GraphRecord.addEntry resolve total d b = .ok d') :
    Seated resolve total ((done ++ [b]).map Prod.fst) d' := by
  obtain ⟨e, i⟩ := b
  obtain ⟨hi, he⟩ := place_of_split hall
  have hlt := (List.getElem?_eq_some_iff.mp he).1
  subst hi
  rw [List.map_append]
  exact hd.addEntry (by omega) h

/-- The first pass comes to its end if every entry can be built. -/
theorem exists_draft_iff (hroom : entries.length < 2 ^ 32) :
    (∃ d, entries.zipIdx.foldlM (GraphRecord.addEntry resolve total) { graph := .empty name } = .ok d)
      ↔ ∀ i e, entries[i]? = some e → ∃ x, GraphRecord.buildEntry resolve total i e = .ok x := by
  rw [exists_foldlM_iff (P := fun done d => Seated resolve total (done.map Prod.fst) d)
    (C := fun _ b => ∃ x, GraphRecord.buildEntry resolve total b.2 b.1 = .ok x)
    (fun _ _ _ _ _ _ => exists_addEntry_iff) (seated_step hroom) (empty_seated resolve total name)]
  constructor
  · intro hall i e he
    obtain ⟨done, todo, hsplit⟩ := List.append_of_mem (List.mem_zipIdx_iff_getElem? (x := (e, i)) |>.mpr he)
    exact hall done (e, i) todo hsplit
  · rintro hall done ⟨e, i⟩ todo hsplit
    exact hall i e (place_of_split hsplit).2

theorem seated_of_draft (hroom : entries.length < 2 ^ 32) {d : GraphRecord.Draft}
    (h : entries.zipIdx.foldlM (GraphRecord.addEntry resolve total) { graph := .empty name } = .ok d) :
    Seated resolve total entries d := by
  have hd := foldlM_induction (P := fun done d => Seated resolve total (done.map Prod.fst) d) (seated_step hroom)
    (empty_seated resolve total name) h
  rwa [List.zipIdx_map_fst] at hd

end FirstPass

/-! ## The second pass -/

end Graph

/-- What the later passes ask of a node: whether it owns a delay line, and its numbers of inputs and outputs. -/
def Node.outline (node : Node) : Bool × Nat × Nat := (node.isDelayWrite, node.inputs.length, node.outputs.length)

theorem Node.outline_bare (node : Node) : node.bare.outline = node.outline := by
  unfold Node.outline
  rw [Node.isDelayWrite_of_bare_eq (Node.bare_unconnected node).bare_eq]
  exact congrArg (node.isDelayWrite, ·) (Prod.ext (List.length_map _) (List.length_map _))

namespace Graph

/-- Two graphs have the same nodes, as far as the later passes can tell. -/
def SameOutline (g g' : Graph) : Prop := ∀ n, (g'.node? n).map Node.outline = (g.node? n).map Node.outline

section SameOutline

variable {g g' : Graph}

theorem SameOutline.exists_node (h : SameOutline g g') {n : NodeId} {node : Node} (hn : g.node? n = some node) :
    ∃ node', g'.node? n = some node' ∧ node'.outline = node.outline := by
  have hview := h n
  rw [hn, Option.map_some, Option.map_eq_some_iff] at hview
  exact hview

theorem SameOutline.symm (h : SameOutline g g') : SameOutline g' g := fun n => (h n).symm

/-- What can be told from the outline holds of a node in both graphs. -/
theorem SameOutline.exists_iff (h : SameOutline g g') {p : Node → Prop}
    (hp : ∀ node node' : Node, node'.outline = node.outline → p node → p node') (n : NodeId) :
    (∃ node, g'.node? n = some node ∧ p node) ↔ ∃ node, g.node? n = some node ∧ p node := by
  constructor
  · rintro ⟨node', hn', hnode'⟩
    obtain ⟨node, hn, heq⟩ := h.symm.exists_node hn'
    exact ⟨node, hn, hp node' node heq hnode'⟩
  · rintro ⟨node, hn, hnode⟩
    obtain ⟨node', hn', heq⟩ := h.exists_node hn
    exact ⟨node', hn', hp node node' heq hnode⟩

theorem SameOutline.owner_iff (h : SameOutline g g') (n : NodeId) :
    (∃ node, g'.node? n = some node ∧ node.isDelayWrite = true)
      ↔ ∃ node, g.node? n = some node ∧ node.isDelayWrite = true :=
  h.exists_iff (fun _ _ heq hw => (congrArg Prod.fst heq).trans hw) n

theorem SameOutline.input_iff (h : SameOutline g g') (d : InPort) :
    (∃ node, g'.node? d.node = some node ∧ d.index < node.inputs.length)
      ↔ ∃ node, g.node? d.node = some node ∧ d.index < node.inputs.length :=
  h.exists_iff (fun _ _ heq hlt => Nat.lt_of_lt_of_eq hlt (congrArg (·.2.1) heq).symm) d.node

theorem SameOutline.output_iff (h : SameOutline g g') (s : OutPort) :
    (∃ node, g'.node? s.node = some node ∧ s.index < node.outputs.length)
      ↔ ∃ node, g.node? s.node = some node ∧ s.index < node.outputs.length :=
  h.exists_iff (fun _ _ heq hlt => Nat.lt_of_lt_of_eq hlt (congrArg (·.2.2) heq).symm) s.node

end SameOutline

section Links

variable {entries : List NodeRecord} {d : GraphRecord.Draft}

theorem Seated.getElem?_ids {total : Nat} (hd : Seated resolve total entries d) {i : Nat} (hi : i < entries.length) :
    d.ids[i]? = some ⟨UInt32.ofNat i⟩ := by
  rw [hd.ids, List.getElem?_map, List.getElem?_range hi]
  rfl

/-- A link leads from a reader to a place of the table. -/
theorem Seated.link_places (hd : Seated resolve entries.length entries d) {link : Nat × Nat} (hlink : link ∈ d.reads) :
    link.1 < entries.length ∧ link.2 < entries.length
      ∧ d.graph.node? ⟨UInt32.ofNat link.1⟩ = some (Node.delayRead default).unlinked := by
  obtain ⟨e, x, he, hx, hw⟩ := (hd.mem_reads link).mp hlink
  obtain ⟨y, hy, hnode⟩ := hd.seat link.1 e he
  rw [hx] at hy
  injection hy with hy
  subst hy
  obtain ⟨built, -, hbound, hcases⟩ := buildEntry_eq_ok_iff.mp hx
  by_cases hreads : e.Reads link.1
  · rw [if_pos hreads] at hcases
    subst hcases
    injection hw with hw
    have hle := (hbound hreads.1).1
    have hpos : e.delayWrite.toNat ≠ 0 := fun hzero => hreads.1 (UInt32.toNat_inj.mp hzero)
    exact ⟨(List.getElem?_eq_some_iff.mp he).1, by omega, hnode⟩
  · rw [if_neg hreads] at hcases
    subst hcases
    exact absurd hw (by simp)

theorem Seated.exists_linkRead_iff (hd : Seated resolve entries.length entries d) {g : Graph}
    (hg : SameOutline d.graph g) {link : Nat × Nat} (hlink : link ∈ d.reads) :
    (∃ g', GraphRecord.linkRead d.ids g link = .ok g')
      ↔ ∃ owner, d.graph.node? ⟨UInt32.ofNat link.2⟩ = some owner ∧ owner.isDelayWrite = true := by
  obtain ⟨hreader, howner, hnode⟩ := hd.link_places hlink
  rw [← hg.owner_iff]
  constructor
  · rintro ⟨g', h⟩
    obtain ⟨r, w, -, hw, hlinked⟩ := linkRead_eq_ok_iff.mp h
    rw [hd.getElem?_ids howner] at hw
    injection hw with hw
    subst hw
    exact (linkDelayRead_eq_ok hlinked).2
  · intro hwrite
    obtain ⟨node', hn', -⟩ := hg.exists_node hnode
    obtain ⟨g', hg', -⟩ := putsNode_linkDelayRead hn' hwrite
    exact ⟨g', linkRead_eq_ok_iff.mpr ⟨_, _, hd.getElem?_ids hreader, hd.getElem?_ids howner, hg'⟩⟩

/-- A reader that is given its line owned none before, and keeps its ports. -/
theorem Seated.sameOutline_linkRead (hd : Seated resolve entries.length entries d) {g g' : Graph}
    (hg : SameOutline d.graph g) {link : Nat × Nat} (hlink : link ∈ d.reads)
    (h : GraphRecord.linkRead d.ids g link = .ok g') : SameOutline d.graph g' := by
  obtain ⟨hreader, -, hnode⟩ := hd.link_places hlink
  obtain ⟨r, w, hr, -, hlinked⟩ := linkRead_eq_ok_iff.mp h
  rw [hd.getElem?_ids hreader] at hr
  injection hr with hr
  subst hr
  obtain ⟨⟨node, hn, hputs⟩, -⟩ := linkDelayRead_eq_ok hlinked
  intro m
  rw [hputs.node?]
  split
  · -- the reader was built without a line, so it owned none, and its ports stay
    rename_i hm
    subst hm
    obtain ⟨node', hn', heq⟩ := hg.exists_node hnode
    rw [hn] at hn'
    injection hn' with hn'
    subst hn'
    rw [hnode, Option.map_some, Option.map_some, ← heq]
    have hnot : node.isDelayWrite = false := congrArg Prod.fst heq
    unfold Node.outline
    rw [hnot]
    rfl
  · exact hg m

/-- The second pass comes to its end if every link leads to the owner of a line. -/
theorem Seated.exists_links_iff (hd : Seated resolve entries.length entries d) :
    (∃ g, d.reads.foldlM (GraphRecord.linkRead d.ids) d.graph = .ok g)
      ↔ ∀ link ∈ d.reads, ∃ owner, d.graph.node? ⟨UInt32.ofNat link.2⟩ = some owner ∧ owner.isDelayWrite = true := by
  have hmem : ∀ done link todo, d.reads = done ++ link :: todo → link ∈ d.reads := by
    intro done link todo hall
    rw [hall]
    exact List.mem_append_right _ List.mem_cons_self
  rw [exists_foldlM_iff (P := fun _ g => SameOutline d.graph g)
    (C := fun _ link => ∃ owner, d.graph.node? ⟨UInt32.ofNat link.2⟩ = some owner ∧ owner.isDelayWrite = true)
    (fun done link todo _ hall hg => hd.exists_linkRead_iff hg (hmem done link todo hall))
    (fun done link todo _ _ hall hg h => hd.sameOutline_linkRead hg (hmem done link todo hall) h) (fun _ => rfl)]
  constructor
  · intro hall link hlink
    obtain ⟨done, todo, hsplit⟩ := List.append_of_mem hlink
    exact hall done link todo hsplit
  · intro hall done link todo hsplit
    exact hall link (hmem done link todo hsplit)

theorem Seated.sameOutline (hd : Seated resolve entries.length entries d) {g : Graph}
    (h : d.reads.foldlM (GraphRecord.linkRead d.ids) d.graph = .ok g) : SameOutline d.graph g := by
  refine foldlM_induction (P := fun _ g => SameOutline d.graph g) ?_ (fun _ => rfl) h
  intro done link todo g g' hall hg h
  refine hd.sameOutline_linkRead hg ?_ h
  rw [hall]
  exact List.mem_append_right _ List.mem_cons_self

end Links

/-! ## The third pass -/

/-- The graph has the nodes of the one that the third pass starts from, and the connections of some rows. -/
structure Tabled (start : Graph) (rows : List ConnectionRecord) (g : Graph) : Prop where
  wellFormed : g.WellFormed
  outline : SameOutline start g
  /-- The connections are those of the rows. -/
  connects : ∀ s d, g.Connects s d ↔ ∃ row ∈ rows, row.src = s ∧ row.dst = d
  /-- As many numbers are taken as there are rows. -/
  nextConnection : g.nextConnection.toNat = rows.length

section Rows

variable {start g g' : Graph} {rows : List ConnectionRecord} {row : ConnectionRecord}

theorem Tabled.reaches_iff (h : Tabled start rows g) {a b : UInt32} :
    g.Reaches ⟨a⟩ ⟨b⟩ ↔ Relation.ReflTransGen (GraphRecord.Feeds rows) a b := by
  constructor
  · refine Relation.ReflTransGen.lift NodeId.val ?_ ⟨a⟩ ⟨b⟩
    rintro _ _ ⟨c, ends, hc, rfl, rfl⟩
    obtain ⟨row, hrow, hsrc, hdst⟩ := (h.connects ends.src ends.dst).mp ⟨c, hc⟩
    exact ⟨row, hrow, by rw [← hsrc]; rfl, by rw [← hdst]; rfl⟩
  · refine Relation.ReflTransGen.lift NodeId.mk ?_ a b
    rintro _ _ ⟨row, hrow, rfl, rfl⟩
    obtain ⟨c, hc⟩ := (h.connects row.src row.dst).mpr ⟨row, hrow, rfl, rfl⟩
    exact ⟨c, _, hc, rfl, rfl⟩

theorem Tabled.acyclic (h : Tabled start rows g) (a : UInt32) : ¬ Relation.TransGen (GraphRecord.Feeds rows) a a := by
  intro hcycle
  -- the first row of the cycle is a connection, and the others lead back to its source
  obtain ⟨b, ⟨row, hrow, hsrc, hdst⟩, hback⟩ := Relation.TransGen.head'_iff.mp hcycle
  obtain ⟨c, hc⟩ := (h.connects row.src row.dst).mpr ⟨row, hrow, rfl, rfl⟩
  refine h.wellFormed.acyclic ⟨a⟩ (Relation.TransGen.head'_iff.mpr ⟨⟨b⟩, ⟨c, _, hc, ?_, ?_⟩, h.reaches_iff.mpr hback⟩)
  · exact congrArg NodeId.mk hsrc
  · exact congrArg NodeId.mk hdst

/-- What it takes to make the connection of a row behind other rows. -/
structure RowFits (start : Graph) (rows : List ConnectionRecord) (row : ConnectionRecord) : Prop where
  source : ∃ node, start.node? row.src.node = some node ∧ row.src.index < node.outputs.length
  target : ∃ node, start.node? row.dst.node = some node ∧ row.dst.index < node.inputs.length
  free : row.dst ∉ rows.map ConnectionRecord.dst
  no_way_back : ¬ Relation.ReflTransGen (GraphRecord.Feeds rows) row.dstNode row.srcNode

theorem Tabled.connectable_iff (h : Tabled start rows g) : g.Connectable row.src row.dst ↔ RowFits start rows row := by
  have hfree : (∀ c ends, g.connection? c = some ends → ends.dst ≠ row.dst) ↔ row.dst ∉ rows.map ConnectionRecord.dst := by
    constructor
    · intro hnone hmem
      obtain ⟨old, hold, heq⟩ := List.mem_map.mp hmem
      obtain ⟨c, hc⟩ := (h.connects old.src old.dst).mpr ⟨old, hold, rfl, rfl⟩
      exact hnone c _ hc heq
    · intro hnot c ends hc heq
      obtain ⟨old, hold, -, hdst⟩ := (h.connects ends.src ends.dst).mp ⟨c, hc⟩
      exact hnot (List.mem_map.mpr ⟨old, hold, hdst.trans heq⟩)
  constructor
  · rintro ⟨hsource, htarget, hnone, hway⟩
    exact ⟨(h.outline.output_iff _).mp hsource, (h.outline.input_iff _).mp htarget, hfree.mp hnone,
      fun hback => hway (h.reaches_iff.mpr hback)⟩
  · rintro ⟨hsource, htarget, hnot, hway⟩
    exact ⟨(h.outline.output_iff _).mpr hsource, (h.outline.input_iff _).mpr htarget, hfree.mpr hnot,
      fun hback => hway (h.reaches_iff.mp hback)⟩

/-- A row names the nodes that have its places as numbers. -/
theorem nodeAt_eq_ok_iff {count : Nat} {place : UInt32} {n : NodeId} :
    GraphRecord.nodeAt ((List.range count).map fun i => ⟨UInt32.ofNat i⟩) place = .ok n
      ↔ place.toNat < count ∧ n = ⟨place⟩ := by
  unfold GraphRecord.nodeAt
  by_cases hlt : place.toNat < count
  · rw [List.getElem?_map, List.getElem?_range hlt, Option.map_some, UInt32.ofNat_toNat]
    dsimp only
    rw [Except.ok.injEq, and_iff_right hlt, eq_comm]
  · rw [List.getElem?_eq_none (by simpa using hlt)]
    exact ⟨fun h => absurd h (by simp), fun h => absurd h.1 hlt⟩

theorem connect_of_addConnection {count : Nat}
    (h : GraphRecord.addConnection ((List.range count).map fun i => ⟨UInt32.ofNat i⟩) g row = .ok g') :
    ∃ c, g.connect row.src row.dst = .ok (c, g') := by
  obtain ⟨src, dst, c, hsrc, hdst, hconn⟩ := addConnection_eq_ok_iff.mp h
  obtain ⟨-, rfl⟩ := nodeAt_eq_ok_iff.mp hsrc
  obtain ⟨-, rfl⟩ := nodeAt_eq_ok_iff.mp hdst
  exact ⟨c, hconn⟩

/-- A row is made into a connection if that can be made; the checks before it find nothing else. -/
theorem exists_addConnection_iff {count : Nat} (hg : g.Registered)
    (hplaces : ∀ n node, g.node? n = some node → n.val.toNat < count) :
    (∃ g', GraphRecord.addConnection ((List.range count).map fun i => ⟨UInt32.ofNat i⟩) g row = .ok g')
      ↔ g.Connectable row.src row.dst := by
  rw [← hg.exists_connect_iff]
  constructor
  · rintro ⟨g', h⟩
    obtain ⟨c, hconn⟩ := connect_of_addConnection h
    exact ⟨c, g', hconn⟩
  · rintro ⟨c, g', hconn⟩
    obtain ⟨hsource, hfree, -⟩ := connect_eq_ok_iff.mp hconn
    obtain ⟨source, hs, -⟩ := exists_outgoing?_iff.mp hsource
    obtain ⟨target, hd, -⟩ := exists_incoming?_iff.mp ⟨_, hfree⟩
    have hsrc : row.srcNode.toNat < count := hplaces _ source hs
    have hdst : row.dstNode.toNat < count := hplaces _ target hd
    exact ⟨g', addConnection_eq_ok_iff.mpr ⟨_, _, c, nodeAt_eq_ok_iff.mpr ⟨hsrc, rfl⟩,
      nodeAt_eq_ok_iff.mpr ⟨hdst, rfl⟩, hconn⟩⟩

section ThirdPass

variable {count : Nat} (hplaces : ∀ n node, start.node? n = some node → n.val.toNat < count)

include hplaces

theorem Tabled.exists_addConnection_iff {done : List ConnectionRecord} (h : Tabled start done g) :
    (∃ g', GraphRecord.addConnection ((List.range count).map fun i => ⟨UInt32.ofNat i⟩) g row = .ok g')
      ↔ RowFits start done row := by
  rw [← h.connectable_iff]
  refine Graph.exists_addConnection_iff h.wellFormed.toRegistered ?_
  intro n node hn
  obtain ⟨node', hn', -⟩ := h.outline.symm.exists_node hn
  exact hplaces n node' hn'

omit hplaces in
theorem Tabled.addConnection {done : List ConnectionRecord} (h : Tabled start done g)
    (hroom : done.length + 1 < 2 ^ 32)
    (hadd : GraphRecord.addConnection ((List.range count).map fun i => ⟨UInt32.ofNat i⟩) g row = .ok g') :
    Tabled start (done ++ [row]) g' := by
  obtain ⟨c, hconn⟩ := connect_of_addConnection hadd
  have hj := joins_connect h.wellFormed.toNumbered hconn
  have hone : g.ConnectionRoom := by
    unfold ConnectionRoom
    rw [h.nextConnection]
    exact hroom
  refine ⟨h.wellFormed.connect hone hconn, ?_, ?_, ?_⟩
  · intro n
    have hbare := congrArg (Option.map Node.outline) (hj.bare n)
    rw [Option.map_map, Option.map_map, show Node.outline ∘ Node.bare = Node.outline from funext Node.outline_bare]
      at hbare
    exact hbare.trans (h.outline n)
  · intro s d
    rw [hj.connects_iff, h.connects]
    constructor
    · rintro (⟨rfl, rfl⟩ | ⟨old, hold, hends⟩)
      · exact ⟨row, by simp, rfl, rfl⟩
      · exact ⟨old, List.mem_append_left _ hold, hends⟩
    · rintro ⟨old, hold, rfl, rfl⟩
      rcases List.mem_append.mp hold with hold | hnew
      · exact Or.inr ⟨old, hold, rfl, rfl⟩
      · rw [List.mem_singleton.mp hnew]
        exact Or.inl ⟨rfl, rfl⟩
  · obtain ⟨-, -, -, -, rfl⟩ := connect_eq_ok_iff.mp hconn
    rw [List.length_append, List.length_singleton, ← h.nextConnection]
    exact toNat_add_one hone

omit hplaces in
theorem tabled_step (hroom : rows.length < 2 ^ 32) (done : List ConnectionRecord) (row : ConnectionRecord)
    (todo : List ConnectionRecord) (g g' : Graph) (hall : rows = done ++ row :: todo) (h : Tabled start done g)
    (hadd : GraphRecord.addConnection ((List.range count).map fun i => ⟨UInt32.ofNat i⟩) g row = .ok g') :
    Tabled start (done ++ [row]) g' := by
  refine h.addConnection ?_ hadd
  rw [hall, List.length_append, List.length_cons] at hroom
  omega

omit hplaces in
theorem Tabled.of_rows (hstart : Tabled start [] start) (hroom : rows.length < 2 ^ 32)
    (h : rows.foldlM (GraphRecord.addConnection ((List.range count).map fun i => ⟨UInt32.ofNat i⟩)) start = .ok g) :
    Tabled start rows g :=
  foldlM_induction (P := Tabled start) (tabled_step hroom) hstart h

/--
The third pass comes to its end if the ports of all rows are there, each input is named once, and the rows form no
cycle, in whatever order they come.
-/
theorem exists_rows_iff (hstart : Tabled start [] start) (hroom : rows.length < 2 ^ 32) :
    (∃ g, rows.foldlM (GraphRecord.addConnection ((List.range count).map fun i => ⟨UInt32.ofNat i⟩)) start = .ok g)
      ↔ (∀ row ∈ rows,
          (∃ node, start.node? row.src.node = some node ∧ row.src.index < node.outputs.length)
            ∧ ∃ node, start.node? row.dst.node = some node ∧ row.dst.index < node.inputs.length)
        ∧ (rows.map ConnectionRecord.dst).Nodup
        ∧ ∀ place, ¬ Relation.TransGen (GraphRecord.Feeds rows) place place := by
  have hsteps : (∃ g, rows.foldlM (GraphRecord.addConnection ((List.range count).map fun i => ⟨UInt32.ofNat i⟩)) start
      = .ok g) ↔ ∀ done row todo, rows = done ++ row :: todo → RowFits start done row :=
    exists_foldlM_iff (P := Tabled start) (C := RowFits start)
      (fun _ _ _ _ _ h => h.exists_addConnection_iff hplaces) (tabled_step hroom) hstart
  constructor
  · intro hend
    have hfits := hsteps.mp hend
    obtain ⟨g, hg⟩ := hend
    refine ⟨?_, nodup_map_of_split fun done row todo hall => (hfits done row todo hall).free,
      (hstart.of_rows hroom hg).acyclic⟩
    intro row hrow
    obtain ⟨done, todo, hall⟩ := List.append_of_mem hrow
    exact ⟨(hfits done row todo hall).source, (hfits done row todo hall).target⟩
  · rintro ⟨hports, hnodup, hacyclic⟩
    refine hsteps.mpr ?_
    intro done row todo hall
    have hrow : row ∈ rows := by rw [hall]; exact List.mem_append_right _ List.mem_cons_self
    refine ⟨(hports row hrow).1, (hports row hrow).2, ?_, ?_⟩
    · rw [hall, List.map_append, List.map_cons] at hnodup
      exact (not_mem_of_nodup_append_cons hnodup).1
    · -- a way back along the rows before would be one along all of them, and the row itself closes it
      intro hback
      have hsub : ∀ c ∈ done, c ∈ rows := fun c hc => by rw [hall]; exact List.mem_append_left _ hc
      exact hacyclic row.srcNode (Relation.TransGen.head' ⟨row, hrow, rfl, rfl⟩
        (Relation.ReflTransGen.mono (fun _ _ hfeeds => hfeeds.mono hsub) _ _ hback))

end ThirdPass

end Rows

end Graph

end SignalGraph
