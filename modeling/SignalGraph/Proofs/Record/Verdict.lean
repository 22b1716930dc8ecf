import SignalGraph.Proofs.Record.Passes

/-!
# Which records are graphs

Whether a record is a graph can be told from its tables, without building anything but single nodes (`Sound`). Each
condition is what one of the passes takes: the first pass the origins and the places of the owners of delay lines, the
second one that these own lines, the third one the ports, the inputs and the cycles. The rows of the connection table are
made one by one, but what is asked of them all together does not depend on their order.

When the passes are through, the graph keeps the invariant and its nodes are factory nodes. So the check at the end has
nothing left to find.
-/

namespace SignalGraph

variable {resolve : Origin → Option Capability}

/-! ## The node of an entry -/

namespace NodeRecord

variable {e : NodeRecord} {place : Nat} {built : Node}

/-- The node of an entry at a place, when its origin builds some node. -/
def node (e : NodeRecord) (place : Nat) (built : Node) : Node :=
  if e.Reads place then (Node.delayRead default).unlinked else built

/-- The number of its inputs: the owner of a delay line has two, and a reader has one. -/
def inputCount (e : NodeRecord) (place : Nat) (built : Node) : Nat :=
  if e.origin = delayOrigin then if e.Reads place then 1 else 2 else built.inputs.length

theorem outputs_node (hbuild : Node.build resolve e.origin = .ok built)
    (hdelay : e.delayWrite ≠ 0 → e.origin = delayOrigin) :
    (e.node place built).outputs.length = built.outputs.length := by
  unfold node
  split
  · rename_i hreads
    rw [hdelay hreads.1] at hbuild
    rw [Node.eq_delayWrite_of_build hbuild]
    rfl
  · rfl

theorem inputs_node (hbuild : Node.build resolve e.origin = .ok built)
    (hdelay : e.delayWrite ≠ 0 → e.origin = delayOrigin) :
    (e.node place built).inputs.length = e.inputCount place built := by
  unfold node inputCount
  by_cases hline : e.origin = delayOrigin
  · rw [hline] at hbuild
    rw [if_pos hline, Node.eq_delayWrite_of_build hbuild]
    split
    · rfl
    · rfl
  · have hreads : ¬ e.Reads place := fun hreads => hline (hdelay hreads.1)
    rw [if_neg hline, if_neg hreads]

theorem isDelayWrite_node (hbuild : Node.build resolve e.origin = .ok built) :
    (e.node place built).isDelayWrite = true ↔ e.origin = delayOrigin ∧ ¬ e.Reads place := by
  unfold node
  split
  · rename_i hreads
    exact ⟨fun hwrite => absurd hwrite (by decide), fun h => absurd hreads h.2⟩
  · rename_i hreads
    rw [and_iff_left hreads, ← Node.isDelay_iff_of_build hbuild]
    constructor
    · exact Node.isDelay_of_isDelayWrite
    · intro hdelay
      rcases (Node.built_of_build hbuild).delay_cases with hnone | rfl
      · exact absurd hdelay (by simp [Node.isDelay, hnone])
      · rfl

end NodeRecord

namespace Graph.Seated

variable {entries : List NodeRecord} {total : Nat} {d : GraphRecord.Draft}

theorem entry (hd : Seated resolve total entries d) {i : Nat} {e : NodeRecord} (he : entries[i]? = some e) :
    ∃ built, Node.build resolve e.origin = .ok built
      ∧ (e.delayWrite ≠ 0 → e.delayWrite.toNat ≤ total ∧ e.origin = delayOrigin)
      ∧ d.graph.node? ⟨UInt32.ofNat i⟩ = some (e.node i built) := by
  obtain ⟨x, hx, hnode⟩ := hd.seat i e he
  obtain ⟨built, hbuild, hbound, rfl⟩ := buildEntry_eq_ok_iff.mp hx
  refine ⟨built, hbuild, hbound, ?_⟩
  rw [hnode]
  unfold NodeRecord.node
  split
  · rfl
  · rfl

theorem toNat_lt (hd : Seated resolve total entries d) {n : NodeId} {node : Node} (hn : d.graph.node? n = some node) :
    n.val.toNat < entries.length := by
  rw [← hd.nextNode]
  exact UInt32.lt_iff_toNat_lt.mp (hd.awaits.wellFormed.node_lt n node hn)

/-- What is asked of the node with the number of a place is asked of the entry there. -/
theorem exists_node_iff (hd : Seated resolve total entries d) (place : UInt32) {p : Node → Prop} :
    (∃ node, d.graph.node? ⟨place⟩ = some node ∧ p node) ↔ ∃ e built, entries[place.toNat]? = some e
      ∧ Node.build resolve e.origin = .ok built ∧ p (e.node place.toNat built) := by
  constructor
  · rintro ⟨node, hn, hp⟩
    have he := List.getElem?_eq_getElem (hd.toNat_lt hn)
    obtain ⟨built, hbuild, -, hnode⟩ := hd.entry he
    rw [UInt32.ofNat_toNat, hn] at hnode
    injection hnode with hnode
    exact ⟨_, built, he, hbuild, hnode ▸ hp⟩
  · rintro ⟨e, built, he, hbuild, hp⟩
    obtain ⟨built', hbuild', -, hnode⟩ := hd.entry he
    rw [hbuild] at hbuild'
    injection hbuild' with hbuild'
    subst hbuild'
    rw [UInt32.ofNat_toNat] at hnode
    exact ⟨_, hnode, hp⟩

theorem output_iff (hd : Seated resolve total entries d) (place : UInt32) (port : Nat) :
    (∃ node, d.graph.node? ⟨place⟩ = some node ∧ port < node.outputs.length) ↔ ∃ e built,
      entries[place.toNat]? = some e ∧ Node.build resolve e.origin = .ok built ∧ port < built.outputs.length := by
  rw [hd.exists_node_iff]
  refine exists_congr fun e => exists_congr fun built => and_congr_right fun he => and_congr_right fun hbuild => ?_
  obtain ⟨-, -, hbound, -⟩ := hd.entry he
  rw [NodeRecord.outputs_node hbuild fun hne => (hbound hne).2]

theorem input_iff (hd : Seated resolve total entries d) (place : UInt32) (port : Nat) :
    (∃ node, d.graph.node? ⟨place⟩ = some node ∧ port < node.inputs.length) ↔ ∃ e built,
      entries[place.toNat]? = some e ∧ Node.build resolve e.origin = .ok built
        ∧ port < e.inputCount place.toNat built := by
  rw [hd.exists_node_iff]
  refine exists_congr fun e => exists_congr fun built => and_congr_right fun he => and_congr_right fun hbuild => ?_
  obtain ⟨-, -, hbound, -⟩ := hd.entry he
  rw [NodeRecord.inputs_node hbuild fun hne => (hbound hne).2]

theorem owner_iff (hd : Seated resolve total entries d) (hroom : entries.length < 2 ^ 32) {w : Nat}
    (hw : w < entries.length) :
    (∃ owner, d.graph.node? ⟨UInt32.ofNat w⟩ = some owner ∧ owner.isDelayWrite = true)
      ↔ ∃ e, entries[w]? = some e ∧ e.origin = delayOrigin ∧ ¬ e.Reads w := by
  have hplace : (UInt32.ofNat w).toNat = w := UInt32.toNat_ofNat_of_lt' (Nat.lt_trans hw hroom)
  rw [hd.exists_node_iff, hplace]
  constructor
  · rintro ⟨e, built, he, hbuild, hwrite⟩
    exact ⟨e, he, (NodeRecord.isDelayWrite_node hbuild).mp hwrite⟩
  · rintro ⟨e, he, howner⟩
    obtain ⟨built, hbuild, -, -⟩ := hd.entry he
    exact ⟨e, built, he, hbuild, (NodeRecord.isDelayWrite_node hbuild).mpr howner⟩

/-- The entries that ask for the line of another place have the links. -/
theorem mem_reads_iff (hd : Seated resolve total entries d) {link : Nat × Nat} : link ∈ d.reads ↔
    ∃ e, entries[link.1]? = some e ∧ e.Reads link.1 ∧ link.2 = e.delayWrite.toNat - 1 := by
  rw [hd.mem_reads]
  constructor
  · rintro ⟨e, x, he, hx, hw⟩
    obtain ⟨built, -, -, rfl⟩ := buildEntry_eq_ok_iff.mp hx
    split at hw
    · rename_i hreads
      injection hw with hw
      exact ⟨e, he, hreads, hw.symm⟩
    · exact absurd hw (by simp)
  · rintro ⟨e, he, hreads, hw⟩
    obtain ⟨x, hx, -⟩ := hd.seat link.1 e he
    refine ⟨e, x, he, hx, ?_⟩
    obtain ⟨built, -, -, rfl⟩ := buildEntry_eq_ok_iff.mp hx
    rw [if_pos hreads, hw]

end Graph.Seated

/-! ## The whole record -/

/-- An entry owns its line if it names no place or its own. -/
theorem NodeRecord.not_reads_iff {e w : NodeRecord} (hne : e.delayWrite ≠ 0) :
    ¬ w.Reads (e.delayWrite.toNat - 1) ↔ w.delayWrite = 0 ∨ w.delayWrite = e.delayWrite := by
  have hpos : e.delayWrite.toNat ≠ 0 := fun hzero => hne (UInt32.toNat_inj.mp hzero)
  have hplace : e.delayWrite.toNat - 1 + 1 = e.delayWrite.toNat := by omega
  unfold NodeRecord.Reads
  rw [hplace, ne_eq, ne_eq, UInt32.toNat_inj]
  by_cases hzero : w.delayWrite = 0
  · simp [hzero]
  · simp [hzero]

/-- What the tables of a record must be like to be those of a graph. -/
structure GraphRecord.Sound (r : GraphRecord) (resolve : Origin → Option Capability) : Prop where
  /-- Every origin builds. -/
  builds : ∀ e ∈ r.nodes, ∃ built, Node.build resolve e.origin = .ok built
  /-- An entry that names the place of an owner, counted from one, is a delay, and the place is one of the table. -/
  delay : ∀ e ∈ r.nodes, e.delayWrite ≠ 0 → e.delayWrite.toNat ≤ r.nodes.length ∧ e.origin = delayOrigin
  /-- If it names another place than its own, the entry there is a delay, and names no place or its own. -/
  owner : ∀ (i : Nat) (e : NodeRecord), r.nodes[i]? = some e → e.Reads i →
    ∃ w : NodeRecord, r.nodes[e.delayWrite.toNat - 1]? = some w ∧ w.origin = delayOrigin
      ∧ (w.delayWrite = 0 ∨ w.delayWrite = e.delayWrite)
  /-- A connection comes from an output of a node of the table. -/
  source : ∀ c ∈ r.connections, ∃ (e : NodeRecord) (built : Node), r.nodes[c.srcNode.toNat]? = some e
    ∧ Node.build resolve e.origin = .ok built ∧ c.srcPort.toNat < built.outputs.length
  /-- A connection leads to an input of a node of the table. -/
  target : ∀ c ∈ r.connections, ∃ (e : NodeRecord) (built : Node), r.nodes[c.dstNode.toNat]? = some e
    ∧ Node.build resolve e.origin = .ok built ∧ c.dstPort.toNat < e.inputCount c.dstNode.toNat built
  /-- No two connections lead to the same input. -/
  fan_in : (r.connections.map fun c => (c.dstNode, c.dstPort)).Nodup
  /-- Connections do not lead back to where they come from. -/
  acyclic : ∀ place, ¬ Relation.TransGen (GraphRecord.Feeds r.connections) place place

namespace GraphRecord

variable {r : GraphRecord}

/-- Reading a record without the check at the end. -/
def assemble (r : GraphRecord) (resolve : Origin → Option Capability) : Except RecordError Graph := do
  let draft ← r.nodes.zipIdx.foldlM (addEntry resolve r.nodes.length) { graph := .empty r.name }
  let g ← draft.reads.foldlM (linkRead draft.ids) draft.graph
  r.connections.foldlM (addConnection draft.ids) g

theorem assemble_eq_ok_iff {g : Graph} : r.assemble resolve = .ok g ↔ ∃ d linked,
    r.nodes.zipIdx.foldlM (addEntry resolve r.nodes.length) { graph := .empty r.name } = .ok d
      ∧ d.reads.foldlM (linkRead d.ids) d.graph = .ok linked
      ∧ r.connections.foldlM (addConnection d.ids) linked = .ok g := by
  unfold assemble
  simp only [Except.bind_eq_ok_iff, exists_and_left]

theorem nodup_dst_iff (rows : List ConnectionRecord) :
    (rows.map ConnectionRecord.dst).Nodup ↔ (rows.map fun c => (c.dstNode, c.dstPort)).Nodup := by
  have hinjective : Function.Injective fun p : UInt32 × UInt32 => (⟨⟨p.1⟩, p.2.toNat⟩ : InPort) := by
    rintro ⟨n, i⟩ ⟨n', i'⟩ heq
    injection heq with hnode hindex
    injection hnode with hnode
    exact Prod.ext hnode (UInt32.toNat_inj.mp hindex)
  rw [← List.nodup_map_iff hinjective, List.map_map]
  rfl

/-! ### Entries -/

/-- The first pass asks this much of an entry. -/
theorem exists_buildEntry_iff {count i : Nat} {e : NodeRecord} :
    (∃ x, buildEntry resolve count i e = .ok x) ↔ (∃ built, Node.build resolve e.origin = .ok built)
      ∧ (e.delayWrite ≠ 0 → e.delayWrite.toNat ≤ count ∧ e.origin = delayOrigin) := by
  constructor
  · rintro ⟨x, hx⟩
    obtain ⟨built, hbuild, hbound, -⟩ := Graph.buildEntry_eq_ok_iff.mp hx
    exact ⟨⟨built, hbuild⟩, hbound⟩
  · rintro ⟨⟨built, hbuild⟩, hbound⟩
    exact ⟨_, Graph.buildEntry_eq_ok_iff.mpr ⟨built, hbuild, hbound, rfl⟩⟩

theorem Countable.exists_draft_iff (hr : r.Countable) :
    (∃ d, r.nodes.zipIdx.foldlM (addEntry resolve r.nodes.length) { graph := .empty r.name } = .ok d)
      ↔ ∀ e ∈ r.nodes, (∃ built, Node.build resolve e.origin = .ok built)
        ∧ (e.delayWrite ≠ 0 → e.delayWrite.toNat ≤ r.nodes.length ∧ e.origin = delayOrigin) := by
  rw [Graph.exists_draft_iff hr.nodes]
  constructor
  · intro hall e he
    obtain ⟨i, hi⟩ := List.mem_iff_getElem?.mp he
    exact exists_buildEntry_iff.mp (hall i e hi)
  · intro hall i e he
    exact exists_buildEntry_iff.mpr (hall e (List.mem_of_getElem? he))

variable {d : Draft} {linked g : Graph}

/-! ### Delay lines -/

theorem Countable.exists_links_iff (hr : r.Countable) (hd : Graph.Seated resolve r.nodes.length r.nodes d) :
    (∃ g, d.reads.foldlM (linkRead d.ids) d.graph = .ok g)
      ↔ ∀ (i : Nat) (e : NodeRecord), r.nodes[i]? = some e → e.Reads i →
        ∃ w : NodeRecord, r.nodes[e.delayWrite.toNat - 1]? = some w ∧ w.origin = delayOrigin
          ∧ (w.delayWrite = 0 ∨ w.delayWrite = e.delayWrite) := by
  rw [hd.exists_links_iff]
  constructor
  · intro hall i e he hreads
    have hlink : (i, e.delayWrite.toNat - 1) ∈ d.reads := hd.mem_reads_iff.mpr ⟨e, he, hreads, rfl⟩
    obtain ⟨w, hw, hline, hown⟩ := (hd.owner_iff hr.nodes (hd.link_places hlink).2.1).mp (hall _ hlink)
    exact ⟨w, hw, hline, (NodeRecord.not_reads_iff hreads.1).mp hown⟩
  · intro hall link hlink
    obtain ⟨e, he, hreads, hplace⟩ := hd.mem_reads_iff.mp hlink
    obtain ⟨w, hw, hline, hown⟩ := hall link.1 e he hreads
    rw [hd.owner_iff hr.nodes (hd.link_places hlink).2.1, hplace]
    exact ⟨w, hw, hline, (NodeRecord.not_reads_iff hreads.1).mpr hown⟩

/-! ### Connections -/

/-- The third pass starts without connections. -/
theorem tabled_linked (hd : Graph.Seated resolve r.nodes.length r.nodes d)
    (hlinks : d.reads.foldlM (linkRead d.ids) d.graph = .ok linked) : Graph.Tabled linked [] linked := by
  obtain ⟨hwf, -, hnext⟩ := hd.awaits.linkAll hlinks
  rw [hd.nextConnection] at hnext
  refine ⟨hwf, fun _ => rfl, fun s t => ⟨?_, ?_⟩, by rw [hnext]; rfl⟩
  · rintro ⟨c, hc⟩
    have hlt := hwf.connection_lt c _ hc
    rw [hnext] at hlt
    exact absurd hlt (UInt32.not_lt_zero)
  · rintro ⟨row, hrow, -⟩
    exact absurd hrow List.not_mem_nil

theorem Countable.exists_rows_iff (hr : r.Countable) (hd : Graph.Seated resolve r.nodes.length r.nodes d)
    (hlinks : d.reads.foldlM (linkRead d.ids) d.graph = .ok linked) :
    (∃ g, r.connections.foldlM (addConnection d.ids) linked = .ok g)
      ↔ (∀ c ∈ r.connections,
          (∃ (e : NodeRecord) (built : Node), r.nodes[c.srcNode.toNat]? = some e
            ∧ Node.build resolve e.origin = .ok built ∧ c.srcPort.toNat < built.outputs.length)
          ∧ ∃ (e : NodeRecord) (built : Node), r.nodes[c.dstNode.toNat]? = some e
            ∧ Node.build resolve e.origin = .ok built ∧ c.dstPort.toNat < e.inputCount c.dstNode.toNat built)
        ∧ (r.connections.map fun c => (c.dstNode, c.dstPort)).Nodup
        ∧ ∀ place, ¬ Relation.TransGen (Feeds r.connections) place place := by
  have hsame := hd.sameOutline hlinks
  have hplaces : ∀ n node, linked.node? n = some node → n.val.toNat < r.nodes.length := by
    intro n node hn
    obtain ⟨node', hn', -⟩ := hsame.symm.exists_node hn
    exact hd.toNat_lt hn'
  rw [hd.ids, Graph.exists_rows_iff hplaces (tabled_linked hd hlinks) hr.connections, nodup_dst_iff]
  refine and_congr_left fun _ => forall₂_congr fun c _ => and_congr ?_ ?_
  · rw [hsame.output_iff]
    exact hd.output_iff c.srcNode c.srcPort.toNat
  · rw [hsame.input_iff]
    exact hd.input_iff c.dstNode c.dstPort.toNat

/-! ### All passes -/

/-- The passes come to their end if the record is sound. -/
theorem Countable.exists_assemble_iff (hr : r.Countable) :
    (∃ g, r.assemble resolve = .ok g) ↔ r.Sound resolve := by
  constructor
  · rintro ⟨g, hg⟩
    obtain ⟨d, linked, hdraft, hlinks, hrows⟩ := assemble_eq_ok_iff.mp hg
    have hd := Graph.seated_of_draft hr.nodes hdraft
    have hentries := hr.exists_draft_iff.mp ⟨d, hdraft⟩
    obtain ⟨hports, hfan, hacyclic⟩ := (hr.exists_rows_iff hd hlinks).mp ⟨g, hrows⟩
    exact {
      builds := fun e he => (hentries e he).1
      delay := fun e he => (hentries e he).2
      owner := (hr.exists_links_iff hd).mp ⟨linked, hlinks⟩
      source := fun c hc => (hports c hc).1
      target := fun c hc => (hports c hc).2
      fan_in := hfan
      acyclic := hacyclic }
  · intro hs
    obtain ⟨d, hdraft⟩ := hr.exists_draft_iff.mpr fun e he => ⟨hs.builds e he, hs.delay e he⟩
    have hd := Graph.seated_of_draft hr.nodes hdraft
    obtain ⟨linked, hlinks⟩ := (hr.exists_links_iff hd).mpr hs.owner
    obtain ⟨g, hrows⟩ := (hr.exists_rows_iff hd hlinks).mpr
      ⟨fun c hc => ⟨hs.source c hc, hs.target c hc⟩, hs.fan_in, hs.acyclic⟩
    exact ⟨g, assemble_eq_ok_iff.mpr ⟨d, linked, hdraft, hlinks, hrows⟩⟩

/-- What the passes make keeps the invariant, and the check finds no fault in it. -/
theorem Countable.assembled (hr : r.Countable) (h : r.assemble resolve = .ok g) :
    g.WellFormed ∧ g.checkInvariants = .ok () := by
  obtain ⟨d, linked, hdraft, hlinks, hrows⟩ := assemble_eq_ok_iff.mp h
  have hd := Graph.drafting_nodes hr.nodes hdraft
  obtain ⟨hwf, hbuilt, hnext⟩ := hd.awaits.linkAll hlinks
  have hroom : linked.nextConnection.toNat + r.connections.length < 2 ^ 32 := by
    rw [hnext, hd.nextConnection]
    exact (Nat.zero_add _).symm ▸ hr.connections
  obtain ⟨hwf, hbuilt⟩ := hwf.addConnections hbuilt hroom hrows
  exact ⟨hwf, hwf.checkInvariants fun n node hn => (Node.regular_bare.mp (hbuilt n node hn).regular).onePort⟩

/-- The check at the end changes nothing: what the passes make passes it. -/
theorem Countable.toGraph_eq_assemble (hr : r.Countable) : r.toGraph resolve = r.assemble resolve := by
  have hcheck : r.toGraph resolve = (r.assemble resolve >>= fun g => do
      g.checkInvariants.mapError .graph
      pure g) := by
    unfold toGraph assemble
    simp only [bind_assoc]
  rw [hcheck]
  -- an error of the passes is the answer as it is, and a graph goes through the check
  cases h : r.assemble resolve with
  | error _ => rfl
  | ok g =>
      show (g.checkInvariants.mapError RecordError.graph >>= fun _ => pure g) = _
      rw [(hr.assembled h).2]
      rfl

/-- What is asked of a record does not depend on the order of its connections. -/
theorem Sound.perm {rows : List ConnectionRecord} (hperm : rows.Perm r.connections) (hs : r.Sound resolve) :
    ({ r with connections := rows } : GraphRecord).Sound resolve where
  builds := hs.builds
  delay := hs.delay
  owner := hs.owner
  source c hc := hs.source c (hperm.mem_iff.mp hc)
  target c hc := hs.target c (hperm.mem_iff.mp hc)
  fan_in := (hperm.map _).nodup_iff.mpr hs.fan_in
  acyclic place hcycle :=
    hs.acyclic place (Relation.TransGen.mono (fun _ _ h => Feeds.mono (fun _ hc => hperm.mem_iff.mp hc) h) _ _ hcycle)

theorem sound_perm_iff {rows : List ConnectionRecord} (hperm : rows.Perm r.connections) :
    ({ r with connections := rows } : GraphRecord).Sound resolve ↔ r.Sound resolve :=
  ⟨fun hs => hs.perm (r := { r with connections := rows }) hperm.symm, fun hs => hs.perm hperm⟩

/--
**Reading takes the sound records, and no others.** The tables are shorter than `2 ^ 32`, which is as many nodes and
connections as a graph has numbers for. In whatever order the connections are listed, the answer is the same; a record
that is taken gives a graph that keeps the invariant and passes the check; and no record is refused by the check at the
end, as reading without it gives the same graphs and the same errors.
-/
theorem sound_records_read (r : GraphRecord) (hr : r.Countable) (resolve : Origin → Option Capability) :
    ((∃ g, r.toGraph resolve = .ok g) ↔ r.Sound resolve)
      ∧ (∀ rows : List ConnectionRecord, rows.Perm r.connections →
          ((∃ g, ({ r with connections := rows } : GraphRecord).toGraph resolve = .ok g)
            ↔ ∃ g, r.toGraph resolve = .ok g))
      ∧ (∀ g, r.toGraph resolve = .ok g → g.WellFormed ∧ g.checkInvariants = .ok ())
      ∧ r.toGraph resolve = r.assemble resolve := by
  have hread : ∀ {r : GraphRecord}, r.Countable → ((∃ g, r.toGraph resolve = .ok g) ↔ r.Sound resolve) := by
    intro r hr
    rw [hr.toGraph_eq_assemble]
    exact hr.exists_assemble_iff
  refine ⟨hread hr, ?_, ?_, hr.toGraph_eq_assemble⟩
  · intro rows hperm
    have hcount : ({ r with connections := rows } : GraphRecord).Countable :=
      ⟨hr.nodes, hperm.length_eq ▸ hr.connections⟩
    rw [hread hcount, hread hr, sound_perm_iff hperm]
  · intro g hg
    rw [hr.toGraph_eq_assemble] at hg
    exact hr.assembled hg

/-- A sum whose signal comes back to it through a delay line; the reader is listed before the owner of its line. -/
def ringing : GraphRecord where
  name := "ringing"
  nodes := [⟨"dsp", "Delay", 3⟩, ⟨"", "+", 0⟩, ⟨"dsp", "Delay", 0⟩]
  connections := [⟨1, 0, 2, 0⟩, ⟨0, 0, 1, 1⟩]

/-- A connection leads to a second input of the reader, as the owner of the line would have. -/
def misled : GraphRecord := { ringing with connections := [⟨1, 0, 0, 1⟩] }

/-- The one record is sound, in either order, as it is read; the other one is not, as it is refused. -/
theorem ringing_sound_misled_not :
    ringing.Sound (fun _ => none)
      ∧ (∃ g, ({ ringing with connections := ringing.connections.reverse } : GraphRecord).toGraph (fun _ => none) = .ok g)
      ∧ ¬ misled.Sound (fun _ => none) := by
  have hread : (ringing.toGraph fun _ => none).isOk = true := by cbv
  have hrefused : (misled.toGraph fun _ => none).isOk = false := by cbv
  obtain ⟨hsound, horder, -, -⟩ := sound_records_read ringing ⟨by decide, by decide⟩ fun _ => none
  obtain ⟨g, hg⟩ := Except.exists_of_isOk hread
  refine ⟨hsound.mp ⟨g, hg⟩, (horder _ (List.reverse_perm _)).mpr ⟨g, hg⟩, ?_⟩
  intro hs
  obtain ⟨g', hg'⟩ := (sound_records_read misled ⟨by decide, by decide⟩ _).1.mpr hs
  rw [hg'] at hrefused
  exact absurd hrefused (by simp [Except.isOk, Except.toBool])

end GraphRecord

end SignalGraph
