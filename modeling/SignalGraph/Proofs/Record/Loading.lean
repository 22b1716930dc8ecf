import SignalGraph.Proofs.Factory
import SignalGraph.Proofs.Graph.Checking
import SignalGraph.Proofs.Record.Places

/-!
# Reading the record of a graph

A record is read in three passes, and each is followed through the tables of a graph that is known. The first
pass builds the nodes in the order of the table; what a node was built from is its origin, so the same node
comes out, but for a reader of a delay line, which has no line yet. The second pass gives the readers their
lines. The third makes the connections again. `Shell` is what holds of the graph during the first two passes,
`Rewired` during the third.

No connection is refused, whatever the order: the ports are there because the nodes are the same, an input is
free because the table holds one connection for it, and a connection that closed a cycle now would have closed
one in the graph that was written, all of whose connections the new graph has at the end.
-/

namespace SignalGraph

variable {resolve : Origin → Option Capability}

/-! ## Nodes as they are built -/

/-- The node without the line that it reads. -/
def Node.unlinked (n : Node) : Node :=
  match n.delay with
  | some (.read _) => { n with delay := none }
  | _ => n

theorem Node.unlinked_origin (n : Node) : n.unlinked.origin = n.origin := by
  unfold Node.unlinked
  split <;> rfl

theorem Node.unlinked_delay (n : Node) (w : NodeId) : n.unlinked.delay ≠ some (.read w) := by
  unfold Node.unlinked
  split
  · simp
  · rename_i hno
    exact hno w

theorem Node.unlinked_unconnected {n : Node} (h : n.Unconnected) : n.unlinked.Unconnected := by
  unfold Node.unlinked
  split
  · exact h
  · exact h

/-- A node that reads no line is under other numbers what it is without a line. -/
theorem Node.unlinked_eq_renumber (ρ : NodeId → NodeId) {n : Node} (h : ∀ w, n.delay ≠ some (.read w)) :
    n.unlinked = n.renumber ρ := by
  unfold Node.unlinked Node.renumber
  cases hd : n.delay with
  | none =>
      obtain ⟨origin, stateful, inputs, outputs, delay⟩ := n
      dsimp only at hd ⊢
      rw [hd]
      rfl
  | some link =>
      cases link with
      | write =>
          obtain ⟨origin, stateful, inputs, outputs, delay⟩ := n
          dsimp only at hd ⊢
          rw [hd]
          rfl
      | read w => exact absurd hd (h w)

namespace Graph

variable {g : Graph}

/-- The place of the owner of the line that a node reads. -/
def ownerPlace? (g : Graph) (node : Node) : Option Nat :=
  match node.delay with
  | some (.read w) => some (g.allNodes.idxOf w)
  | _ => none

theorem toNat_ofNat_add_one {i : Nat} (h : i + 1 < 2 ^ 32) : (UInt32.ofNat i + 1).toNat = i + 1 := by
  have hi : (UInt32.ofNat i).toNat = i := UInt32.toNat_ofNat_of_lt' (Nat.lt_of_succ_lt h)
  rw [toNat_add_one (by omega), hi]

theorem buildEntry_of_zero {e : NodeRecord} {m : Node} {count i : Nat}
    (hbuild : Node.build resolve ⟨e.pkg, e.name⟩ = .ok m) (hzero : e.delayWrite = 0) :
    GraphRecord.buildEntry resolve count i e = .ok (m, none) := by
  unfold GraphRecord.buildEntry
  rw [hbuild, hzero]
  rfl

/-- A delay entry gives an owner of a line if it refers to itself, and a reader otherwise. -/
theorem buildEntry_of_place {e : NodeRecord} {m : Node} {count i w : Nat}
    (hbuild : Node.build resolve ⟨e.pkg, e.name⟩ = .ok m) (hdelay : m.isDelay = true)
    (hplace : e.delayWrite = UInt32.ofNat w + 1) (hw : w < count) (hcount : count < 2 ^ 32) :
    GraphRecord.buildEntry resolve count i e =
      .ok (if w = i then (m, none) else ((Node.delayRead default).unlinked, some w)) := by
  have hnat : e.delayWrite.toNat = w + 1 := by rw [hplace, toNat_ofNat_add_one (by omega)]
  have hne : e.delayWrite ≠ 0 := by
    intro hzero
    rw [hzero] at hnat
    exact absurd hnat (by simp)
  unfold GraphRecord.buildEntry
  rw [hbuild]
  dsimp only [Except.mapError, bind, Except.bind]
  rw [if_neg hne, hnat, Nat.add_sub_cancel, if_neg (Nat.not_le.mpr hw), hdelay]
  by_cases hself : w = i
  · rw [if_pos hself, if_pos hself]
    rfl
  · rw [if_neg hself, if_neg hself]
    rfl

/-- An entry adds the node that is built for it, and the link that it asks for. -/
theorem addEntry_eq_ok_iff {count : Nat} {d d' : GraphRecord.Draft} {e : NodeRecord × Nat} :
    GraphRecord.addEntry resolve count d e = .ok d' ↔ ∃ node owner? n h,
      GraphRecord.buildEntry resolve count e.2 e.1 = .ok (node, owner?) ∧ d.graph.addNode node = .ok (n, h)
        ∧ d' = ⟨h, d.ids ++ [n], d.reads ++ (owner?.map (e.2, ·)).toList⟩ := by
  constructor
  · intro hadd
    obtain ⟨⟨node, owner?⟩, hentry, hadd⟩ := Except.bind_eq_ok_iff.mp hadd
    obtain ⟨⟨n, h⟩, hnode, hadd⟩ := Except.bind_eq_ok_iff.mp hadd
    injection hadd with hadd
    exact ⟨node, owner?, n, h, hentry, Except.mapError_eq_ok_iff.mp hnode, hadd.symm⟩
  · rintro ⟨node, owner?, n, h, hentry, hnode, rfl⟩
    refine Except.bind_eq_ok_iff.mpr ⟨(node, owner?), hentry, ?_⟩
    exact Except.bind_eq_ok_iff.mpr ⟨(n, h), Except.mapError_eq_ok_iff.mpr hnode, rfl⟩

/-- An entry of the table gives the node back, and asks for the line that the node reads. -/
theorem WellFormed.buildEntry_nodeRecord (h : g.WellFormed) {n : NodeId} {node : Node} (hn : g.node? n = some node)
    (hbuilt : node.bare.Rebuilds resolve) :
    GraphRecord.buildEntry resolve g.allNodes.length (g.allNodes.idxOf n) (g.nodeRecord (g.allNodes.idxOf n) node)
      = .ok (node.bare.unlinked, g.ownerPlace? node) := by
  have hlt := List.idxOf_lt_length_of_mem (h.mem_allNodes.mpr ⟨node, hn⟩)
  have hself : node.bare.delay = node.delay := rfl
  have hbuild : node.bare.origin = delayOrigin → Node.build resolve node.origin = .ok .delayWrite := by
    intro horigin
    rw [show node.origin = delayOrigin from horigin]
    rfl
  rcases hbuilt.delay_cases with ⟨hnone, hbuild⟩ | ⟨hwrite, hbare⟩ | ⟨w, hread, hbare⟩
  · have hkept : node.bare.unlinked = node.bare := by
      unfold Node.unlinked
      rw [hself, hnone]
    rw [hkept, buildEntry_of_zero hbuild (by unfold Graph.nodeRecord; rw [hnone])]
    unfold ownerPlace?
    rw [hnone]
  · have hplace : (g.nodeRecord (g.allNodes.idxOf n) node).delayWrite = UInt32.ofNat (g.allNodes.idxOf n) + 1 := by
      unfold Graph.nodeRecord
      rw [hwrite]
    rw [buildEntry_of_place (hbuild (by rw [hbare]; rfl)) rfl hplace hlt h.length_allNodes, if_pos rfl, hbare]
    unfold ownerPlace?
    rw [hwrite]
    rfl
  · obtain ⟨writer, hw, hiw⟩ := h.delays n node w hn hread
    have hmem := h.mem_allNodes.mpr ⟨writer, hw⟩
    have hplace : (g.nodeRecord (g.allNodes.idxOf n) node).delayWrite = UInt32.ofNat (g.allNodes.idxOf w) + 1 := by
      unfold Graph.nodeRecord
      rw [hread]
      dsimp only
      rw [place?_of_mem hmem]
      rfl
    -- a node does not read its own line, for then it would own one
    have hne : g.allNodes.idxOf w ≠ g.allNodes.idxOf n := by
      intro heq
      rw [(List.idxOf_inj hmem).mp heq, hn] at hw
      injection hw with hw
      rw [← hw, Node.isDelayWrite_of_read hread] at hiw
      exact absurd hiw (by simp)
    rw [buildEntry_of_place (hbuild (by rw [hbare]; rfl)) rfl hplace (List.idxOf_lt_length_of_mem hmem)
      h.length_allNodes, if_neg hne, hbare]
    unfold ownerPlace?
    rw [hread]
    rfl

/-! ## What is there before the first connection -/

/--
Some nodes of `g` under their new numbers, `view` telling what has become of each, and no connection yet.
-/
structure Shell (g : Graph) (done : List NodeId) (view : NodeId → Node → Node) (h : Graph) : Prop where
  /-- The invariant holds throughout. -/
  wellFormed : h.WellFormed
  /-- The name is that of `g`. -/
  name : h.name = g.name
  /-- The input terminals come in the order of `g`. -/
  inPorts : h.inPorts = (done.filter (· ∈ g.inPorts)).map g.placed
  /-- The body comes in the order of `g`. -/
  body : h.body = (done.filter (· ∈ g.body)).map g.placed
  /-- The output terminals come in the order of `g`. -/
  outPorts : h.outPorts = (done.filter (· ∈ g.outPorts)).map g.placed
  /-- The nodes are those of `g`. -/
  node? : ∀ n ∈ done, ∀ node, g.node? n = some node → h.node? (g.placed n) = some (view n node)
  /-- There is no connection. -/
  connection? : ∀ c, h.connection? c = none
  /-- As many numbers are taken as there are nodes. -/
  nextNode : h.nextNode.toNat = done.length
  /-- No number of a connection is taken. -/
  nextConnection : h.nextConnection = 0

theorem Shell.congr {view view' : NodeId → Node → Node} {done : List NodeId} {h : Graph} (hs : Shell g done view h)
    (hview : ∀ n ∈ done, ∀ node, g.node? n = some node → view n node = view' n node) : Shell g done view' h :=
  { hs with node? := fun n hn node hnode => (hs.node? n hn node hnode).trans (by rw [hview n hn node hnode]) }

theorem inPorts_enlist (g : Graph) (n : NodeId) (node : Node) :
    (g.enlist n node).inPorts = g.inPorts ++ if node.isInputTerminal then [n] else [] := by
  unfold enlist
  cases hin : node.isInputTerminal with
  | true => rfl
  | false => cases hout : node.isOutputTerminal <;> simp

theorem body_enlist (g : Graph) (n : NodeId) (node : Node) :
    (g.enlist n node).body = g.body ++ if !node.isTerminal then [n] else [] := by
  unfold enlist Node.isTerminal
  cases hin : node.isInputTerminal with
  | true => simp
  | false => cases hout : node.isOutputTerminal <;> simp

theorem outPorts_enlist (g : Graph) (n : NodeId) (node : Node) :
    (g.enlist n node).outPorts = g.outPorts ++ if node.isOutputTerminal then [n] else [] := by
  unfold enlist
  cases hin : node.isInputTerminal with
  | true => simp [Node.not_isOutputTerminal hin]
  | false => cases hout : node.isOutputTerminal <;> simp

theorem name_enlist (g : Graph) (n : NodeId) (node : Node) : (g.enlist n node).name = g.name := by
  unfold enlist
  split <;> (try split) <;> rfl

theorem Partitioned.mem_inPorts_iff (h : g.Partitioned) {n : NodeId} {node : Node} (hn : g.node? n = some node) :
    n ∈ g.inPorts ↔ node.isInputTerminal = true := by
  rw [h.mem_inPorts, hn]
  simp

theorem Partitioned.mem_body_iff (h : g.Partitioned) {n : NodeId} {node : Node} (hn : g.node? n = some node) :
    n ∈ g.body ↔ (!node.isTerminal) = true := by
  rw [h.mem_body, hn]
  simp

theorem Partitioned.mem_outPorts_iff (h : g.Partitioned) {n : NodeId} {node : Node} (hn : g.node? n = some node) :
    n ∈ g.outPorts ↔ node.isOutputTerminal = true := by
  rw [h.mem_outPorts, hn]
  simp

/-- The next node of the table can be added, and is numbered by its place. -/
theorem Shell.addNode {view : NodeId → Node → Node} {done todo : List NodeId} {n : NodeId} {node : Node} {h : Graph}
    (hs : Shell g done view h) (hwf : g.WellFormed) (hall : g.allNodes = done ++ n :: todo) (hn : g.node? n = some node)
    (hu : (view n node).Unconnected) (hdelay : ∀ w, (view n node).delay ≠ some (.read w))
    (horigin : (view n node).origin = node.origin) :
    ∃ h', h.addNode (view n node) = .ok (g.placed n, h') ∧ Shell g (done ++ [n]) view h' := by
  have hidx := hwf.idxOf_of_split hall
  have hlen := hwf.length_allNodes
  rw [hall, List.length_append, List.length_cons] at hlen
  have hnext : (⟨h.nextNode⟩ : NodeId) = g.placed n := by
    unfold placed
    rw [hidx, ← hs.nextNode, UInt32.ofNat_toNat]
  have hroom : h.NodeRoom := by
    unfold NodeRoom
    rw [hs.nextNode]
    omega
  have hadd : h.addNode (view n node) = .ok (g.placed n, (h.allocate (view n node)).2.enlist (g.placed n) (view n node)) := by
    rw [addNode_eq_ok_iff, hnext]
    exact ⟨fun w hw => absurd hw (hdelay w), rfl, rfl⟩
  have hadds := addsNode_enlist hs.wellFormed.toNumbered (view n node)
  rw [hnext] at hadds
  have hin : (view n node).isInputTerminal = node.isInputTerminal := Node.isTerminalOf_congr horigin .input
  have hout : (view n node).isOutputTerminal = node.isOutputTerminal := Node.isTerminalOf_congr horigin .output
  -- a sequence of `g` takes up the node if it holds it
  have hfilter : ∀ (ns : List NodeId) (b : Bool), (n ∈ ns ↔ b = true) →
      ((done ++ [n]).filter (· ∈ ns)).map g.placed
        = (done.filter (· ∈ ns)).map g.placed ++ if b then [g.placed n] else [] := by
    intro ns b hb
    rw [List.filter_append, List.map_append]
    cases b <;> simp [hb]
  refine ⟨_, hadd, ?_⟩
  exact {
    wellFormed := hs.wellFormed.addNode hroom hu hadd
    name := (name_enlist _ _ _).trans hs.name
    inPorts := by
      rw [inPorts_enlist, hfilter g.inPorts _ (hwf.mem_inPorts_iff hn), ← hs.inPorts, hin]
      rfl
    body := by
      rw [body_enlist, hfilter g.body _ (hwf.mem_body_iff hn), ← hs.body]
      unfold Node.isTerminal
      rw [hin, hout]
      rfl
    outPorts := by
      rw [outPorts_enlist, hfilter g.outPorts _ (hwf.mem_outPorts_iff hn), ← hs.outPorts, hout]
      rfl
    node? := by
      intro m hm found hfound
      rcases List.mem_append.mp hm with hold | hnew
      · exact hadds.node?_of_some (hs.node? m hold found hfound)
      · rw [List.mem_singleton] at hnew
        subst hnew
        rw [hn] at hfound
        injection hfound with hfound
        rw [← hfound]
        exact hadds.node?_self
    connection? := fun c => (hadds.connection? c).trans (hs.connection? c)
    nextNode := by
      rw [nextNode_enlist, List.length_append, ← hs.nextNode]
      exact toNat_add_one hroom
    nextConnection := (nextConnection_enlist _ _ _).trans hs.nextConnection }

/-! ## The first pass -/

/-- The link that a node of the table asks for: its own place, and that of the owner of the line it reads. -/
def link? (g : Graph) (n : NodeId) : Option (Nat × Nat) :=
  (g.node? n).bind fun node => (g.ownerPlace? node).map (g.allNodes.idxOf n, ·)

theorem link?_eq_some_iff {n : NodeId} {link : Nat × Nat} :
    g.link? n = some link ↔ ∃ node w, g.node? n = some node ∧ node.delay = some (.read w)
      ∧ link = (g.allNodes.idxOf n, g.allNodes.idxOf w) := by
  unfold link? ownerPlace?
  constructor
  · intro hlink
    obtain ⟨node, hn, hlink⟩ := Option.bind_eq_some_iff.mp hlink
    obtain ⟨i, hi, rfl⟩ := Option.map_eq_some_iff.mp hlink
    split at hi
    · rename_i w hread
      injection hi with hi
      exact ⟨node, w, hn, hread, by rw [hi]⟩
    · exact absurd hi (by simp)
  · rintro ⟨node, w, hn, hread, rfl⟩
    rw [hn, Option.bind_some, hread]
    rfl

/-- What the first pass has made of some of the nodes. -/
structure Drafted (g : Graph) (done : List NodeId) (d : GraphRecord.Draft) : Prop
    extends Shell g done (fun _ node => node.bare.unlinked) d.graph where
  /-- The numbers of the nodes. -/
  ids : d.ids = done.map g.placed
  /-- The links that are asked for. -/
  reads : d.reads = done.filterMap g.link?

theorem Drafted.addEntry {done todo : List NodeId} {n : NodeId} {node : Node} {d : GraphRecord.Draft}
    (hd : Drafted g done d) (hwf : g.WellFormed) (hall : g.allNodes = done ++ n :: todo) (hn : g.node? n = some node)
    (hbuilt : node.bare.Rebuilds resolve) :
    ∃ d', GraphRecord.addEntry resolve g.allNodes.length d (g.nodeRecord (g.allNodes.idxOf n) node, g.allNodes.idxOf n)
      = .ok d' ∧ Drafted g (done ++ [n]) d' := by
  obtain ⟨h', hadd, hshell⟩ := hd.toShell.addNode hwf hall hn (Node.unlinked_unconnected node.bare_unconnected)
    (Node.unlinked_delay _) (Node.unlinked_origin _)
  refine ⟨{ graph := h', ids := d.ids ++ [g.placed n],
            reads := d.reads ++ ((g.ownerPlace? node).map (g.allNodes.idxOf n, ·)).toList }, ?_, ?_⟩
  · exact addEntry_eq_ok_iff.mpr ⟨_, _, _, h', hwf.buildEntry_nodeRecord hn hbuilt, hadd, rfl⟩
  · refine { toShell := hshell, ids := ?_, reads := ?_ }
    · rw [List.map_append, ← hd.ids]
      rfl
    · have hlink : g.link? n = (g.ownerPlace? node).map (g.allNodes.idxOf n, ·) := by
        unfold link?
        rw [hn, Option.bind_some]
      rw [List.filterMap_append, ← hd.reads, ← hlink]
      cases hl : g.link? n <;> simp [hl]

theorem empty_drafted (g : Graph) : Drafted g [] { graph := .empty g.name } where
  wellFormed := empty_wellFormed g.name
  name := rfl
  inPorts := rfl
  body := rfl
  outPorts := rfl
  node? := by intro n hn; exact absurd hn (by simp)
  connection? := fun _ => rfl
  nextNode := rfl
  nextConnection := rfl
  ids := rfl
  reads := rfl

/-- The first pass builds every node of the table. -/
theorem WellFormed.draft (hwf : g.WellFormed) (hbuilt : g.AllBare (Node.Rebuilds resolve)) :
    ∃ d, g.toRecord.nodes.zipIdx.foldlM (GraphRecord.addEntry resolve g.toRecord.nodes.length)
      { graph := .empty g.toRecord.name } = .ok d ∧ Drafted g g.allNodes d := by
  have hcount : g.toRecord.nodes.length = g.allNodes.length := by
    rw [← List.length_zipIdx, hwf.toRecord_nodes.length_eq]
  rw [hcount]
  refine foldlM_ok_of_step (P := Drafted g) ?_ hwf.toRecord_nodes (empty_drafted g)
  rintro done n todo e d hall ⟨node, hn, rfl⟩ hd
  exact hd.addEntry hwf hall hn (hbuilt n node hn)

/-! ## The second pass -/

/-- What becomes of a node while the readers get their lines. -/
def linked (g : Graph) (links : List (Nat × Nat)) (n : NodeId) (node : Node) : Node :=
  if g.allNodes.idxOf n ∈ links.map Prod.fst then node.bare.renumber g.placed else node.bare.unlinked

theorem linked_delay_of_write {links : List (Nat × Nat)} {n : NodeId} {node : Node} (h : node.delay = some .write) :
    (g.linked links n node).delay = some .write := by
  have hd : node.bare.delay = some .write := h
  unfold linked Node.renumber Node.unlinked
  split
  · rw [hd]
    rfl
  · rw [hd]
    exact hd

theorem linked_delay_of_read {links : List (Nat × Nat)} {n w : NodeId} {node : Node}
    (h : node.delay = some (.read w)) : (g.linked links n node).delay ≠ some .write := by
  have hd : node.bare.delay = some (.read w) := h
  unfold linked Node.renumber Node.unlinked
  split
  · rw [hd]
    simp [DelayLink.renumber]
  · rw [hd]
    simp

theorem linked_append_self (links : List (Nat × Nat)) (n : NodeId) (node : Node) (w : Nat) :
    g.linked (links ++ [(g.allNodes.idxOf n, w)]) n node = node.bare.renumber g.placed :=
  if_pos (by simp)

theorem linked_append_of_ne (links : List (Nat × Nat)) {n m : NodeId} (node : Node) (w : Nat)
    (h : g.allNodes.idxOf m ≠ g.allNodes.idxOf n) :
    g.linked (links ++ [(g.allNodes.idxOf n, w)]) m node = g.linked links m node := by
  have hmem : g.allNodes.idxOf m ∈ (links ++ [(g.allNodes.idxOf n, w)]).map Prod.fst
      ↔ g.allNodes.idxOf m ∈ links.map Prod.fst := by
    rw [List.map_append, List.mem_append, List.map_singleton, List.mem_singleton, or_iff_left h]
  unfold linked
  simp only [hmem]

/-- Whatever has become of a reader, with its line it is the node of `g` under its other number. -/
theorem linked_with_line {links : List (Nat × Nat)} {n w : NodeId} {node : Node} (h : node.delay = some (.read w)) :
    { g.linked links n node with delay := some (.read (g.placed w)) } = node.bare.renumber g.placed := by
  have hd : node.bare.delay = some (.read w) := h
  unfold linked Node.renumber Node.unlinked
  split
  · rw [hd]
    rfl
  · rw [hd]
    rfl

/-- A reader can be given its line. -/
theorem Shell.linkRead {links : List (Nat × Nat)} {n w : NodeId} {node : Node} {h : Graph}
    (hs : Shell g g.allNodes (g.linked links) h) (hwf : g.WellFormed) (hn : g.node? n = some node)
    (hread : node.delay = some (.read w)) :
    ∃ h', GraphRecord.linkRead (g.allNodes.map g.placed) h (g.allNodes.idxOf n, g.allNodes.idxOf w) = .ok h'
      ∧ Shell g g.allNodes (g.linked (links ++ [(g.allNodes.idxOf n, g.allNodes.idxOf w)])) h' := by
  obtain ⟨writer, hw, hiw⟩ := hwf.delays n node w hn hread
  have hnmem := hwf.mem_allNodes.mpr ⟨node, hn⟩
  have hwmem := hwf.mem_allNodes.mpr ⟨writer, hw⟩
  have howner : ∃ owner, h.node? (g.placed w) = some owner ∧ owner.isDelayWrite = true :=
    ⟨_, hs.node? w hwmem writer hw, Node.isDelayWrite_iff.mpr (linked_delay_of_write (Node.isDelayWrite_iff.mp hiw))⟩
  obtain ⟨h', hlink, hname, hputs⟩ := putsNode_linkDelayRead (hs.node? n hnmem node hn) howner
  have hnode : ∀ m ∈ g.allNodes, ∀ found, g.node? m = some found → h'.node? (g.placed m)
      = some (g.linked (links ++ [(g.allNodes.idxOf n, g.allNodes.idxOf w)]) m found) := by
    intro m hm found hfound
    rw [hputs.node?, linked_with_line hread]
    by_cases hmn : m = n
    · subst hmn
      rw [hn] at hfound
      injection hfound with hfound
      rw [if_pos rfl, linked_append_self, hfound]
    · -- another node has another place, so the new link is not its own
      have hne : g.placed m ≠ g.placed n := fun heq => hmn (hwf.placed_injective m hm n hnmem heq)
      have hidx : g.allNodes.idxOf m ≠ g.allNodes.idxOf n := fun heq => hmn ((List.idxOf_inj hm).mp heq)
      rw [if_neg hne, linked_append_of_ne _ _ _ hidx]
      exact hs.node? m hm found hfound
  refine ⟨h', ?_, ?_⟩
  · unfold GraphRecord.linkRead
    dsimp only
    rw [getElem?_placed hnmem, getElem?_placed hwmem]
    dsimp only
    rw [hlink]
    rfl
  · exact {
      wellFormed := hs.wellFormed.putsReader hputs (linked_delay_of_read hread) howner
      name := hname.trans hs.name
      inPorts := hputs.inPorts.trans hs.inPorts
      body := hputs.body.trans hs.body
      outPorts := hputs.outPorts.trans hs.outPorts
      node? := hnode
      connection? := fun c => (hputs.connection? c).trans (hs.connection? c)
      nextNode := by rw [hputs.nextNode, hs.nextNode]
      nextConnection := hputs.nextConnection.trans hs.nextConnection }

/-- The second pass gives every reader its line. -/
theorem Drafted.link {d : GraphRecord.Draft} (hd : Drafted g g.allNodes d) (hwf : g.WellFormed) :
    ∃ h, d.reads.foldlM (GraphRecord.linkRead d.ids) d.graph = .ok h
      ∧ Shell g g.allNodes (fun _ node => node.bare.renumber g.placed) h := by
  have hstart : Shell g g.allNodes (g.linked []) d.graph := hd.toShell.congr fun _ _ _ _ => (if_neg (by simp)).symm
  have hstep : ∀ done link todo link' h, d.reads = done ++ link :: todo → link = link' →
      Shell g g.allNodes (g.linked done) h →
      ∃ h', GraphRecord.linkRead d.ids h link' = .ok h' ∧ Shell g g.allNodes (g.linked (done ++ [link])) h' := by
    rintro done link todo _ h hall rfl hs
    have hmem : link ∈ d.reads := by simp [hall]
    rw [hd.reads] at hmem
    obtain ⟨n, -, hlink⟩ := List.mem_filterMap.mp hmem
    obtain ⟨node, w, hn, hread, rfl⟩ := link?_eq_some_iff.mp hlink
    rw [hd.ids]
    exact hs.linkRead hwf hn hread
  obtain ⟨h, hh, hs⟩ := foldlM_ok_of_step hstep (List.forall₂_same.mpr fun _ _ => rfl) hstart
  refine ⟨h, hh, hs.congr ?_⟩
  -- every reader has asked for a link, and a node that is no reader looks the same either way
  intro n hn node hnode
  unfold linked
  by_cases hread : ∃ w, node.delay = some (.read w)
  · obtain ⟨w, hread⟩ := hread
    have hlink : (g.allNodes.idxOf n, g.allNodes.idxOf w) ∈ d.reads := by
      rw [hd.reads]
      exact List.mem_filterMap.mpr ⟨n, hn, link?_eq_some_iff.mpr ⟨node, w, hnode, hread, rfl⟩⟩
    exact if_pos (List.mem_map_of_mem (f := Prod.fst) hlink)
  · have hno : ∀ w, node.bare.delay ≠ some (.read w) := fun w hw => hread ⟨w, hw⟩
    rw [Node.unlinked_eq_renumber g.placed hno, ite_self]

/-! ## A row of the third pass -/

section AddConnection

variable {h h' : Graph} {n : NodeId}

theorem expectPort_output (w i : UInt32) (hport : ∃ cs, h.outgoing? ⟨n, i.toNat⟩ = some cs) :
    GraphRecord.expectPort h n w .output i = .ok () := by
  obtain ⟨node, hn, hlt⟩ := exists_outgoing?_iff.mp hport
  unfold GraphRecord.expectPort
  dsimp only
  rw [hn]
  exact if_neg (Nat.not_le.mpr hlt)

theorem expectPort_input (w i : UInt32) (hport : ∃ cs, h.incoming? ⟨n, i.toNat⟩ = some cs) :
    GraphRecord.expectPort h n w .input i = .ok () := by
  obtain ⟨node, hn, hlt⟩ := exists_incoming?_iff.mp hport
  unfold GraphRecord.expectPort
  dsimp only
  rw [hn]
  exact if_neg (Nat.not_le.mpr hlt)

/-- A row connects the nodes at its places. Where that is possible, the ports it names were found before. -/
theorem addConnection_eq_ok_iff {ids : List NodeId} {row : ConnectionRecord} :
    GraphRecord.addConnection ids h row = .ok h' ↔ ∃ src dst c, GraphRecord.nodeAt ids row.srcNode = .ok src
      ∧ GraphRecord.nodeAt ids row.dstNode = .ok dst
      ∧ h.connect ⟨src, row.srcPort.toNat⟩ ⟨dst, row.dstPort.toNat⟩ = .ok (c, h') := by
  constructor
  · intro hadd
    obtain ⟨src, hsrc, hadd⟩ := Except.bind_eq_ok_iff.mp hadd
    obtain ⟨dst, hdst, hadd⟩ := Except.bind_eq_ok_iff.mp hadd
    obtain ⟨-, -, hadd⟩ := Except.bind_eq_ok_iff.mp hadd
    obtain ⟨-, -, hadd⟩ := Except.bind_eq_ok_iff.mp hadd
    obtain ⟨⟨c, h₁⟩, hconn, hadd⟩ := Except.bind_eq_ok_iff.mp hadd
    injection hadd with hadd
    exact ⟨src, dst, c, hsrc, hdst, hadd ▸ Except.mapError_eq_ok_iff.mp hconn⟩
  · rintro ⟨src, dst, c, hsrc, hdst, hconn⟩
    obtain ⟨hsource, hfree, -⟩ := connect_eq_ok_iff.mp hconn
    have hout := expectPort_output row.srcNode row.srcPort hsource
    have hin := expectPort_input row.dstNode row.dstPort ⟨_, hfree⟩
    refine Except.bind_eq_ok_iff.mpr ⟨src, hsrc, Except.bind_eq_ok_iff.mpr ⟨dst, hdst, ?_⟩⟩
    refine Except.bind_eq_ok_iff.mpr ⟨_, hout, Except.bind_eq_ok_iff.mpr ⟨_, hin, ?_⟩⟩
    exact Except.bind_eq_ok_iff.mpr ⟨(c, h'), Except.mapError_eq_ok_iff.mpr hconn, rfl⟩

end AddConnection

end Graph

end SignalGraph
