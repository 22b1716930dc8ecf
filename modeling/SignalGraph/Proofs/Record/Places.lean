import SignalGraph.Proofs.Sequence
import SignalGraph.Proofs.Record.Renumbering

/-!
# Places in the tables of a record

The node table lists the nodes of a graph in the order of its three sequences. A reader gives the nodes new
numbers in the order of the table, so the place of a node is its number in the graph that is read (`placed`).
The connection table lists the connections by the port at which they end, which is to say once each, since no
input has two sources (`replay`).

Both tables are shorter than `2 ^ 32`: their rows have different numbers, all of them below a counter.
-/

namespace SignalGraph

namespace Graph

variable {g : Graph}

/-! ## The node table -/

/-- Different numbers below a counter are fewer than the counter can count. -/
theorem length_lt_of_numbers {ns : List UInt32} (next : UInt32) (hnodup : ns.Nodup) (hlt : ∀ n ∈ ns, n < next) :
    ns.length < 2 ^ 32 := by
  have hinj : (ns.map UInt32.toNat).Nodup := hnodup.map fun a b hab => UInt32.toNat_inj.mp hab
  have hsub : ns.map UInt32.toNat ⊆ List.range next.toNat := by
    intro k hk
    obtain ⟨n, hn, rfl⟩ := List.mem_map.mp hk
    exact List.mem_range.mpr (UInt32.lt_iff_toNat_lt.mp (hlt n hn))
  have hlen := (hinj.subperm hsub).length_le
  rw [List.length_map, List.length_range] at hlen
  exact Nat.lt_of_le_of_lt hlen next.toNat_lt

theorem WellFormed.length_allNodes (h : g.WellFormed) : g.allNodes.length < 2 ^ 32 := by
  have hinj : (g.allNodes.map NodeId.val).Nodup := h.nodup.map fun a b hab => congrArg NodeId.mk hab
  rw [← List.length_map (f := NodeId.val)]
  refine length_lt_of_numbers g.nextNode hinj ?_
  intro k hk
  obtain ⟨n, hn, rfl⟩ := List.mem_map.mp hk
  obtain ⟨node, hnode⟩ := h.mem_allNodes.mp hn
  exact h.node_lt n node hnode

/-- The number of a node in the graph that is read from the record: its place in the node table. -/
def placed (g : Graph) (n : NodeId) : NodeId := ⟨UInt32.ofNat (g.allNodes.idxOf n)⟩

theorem idxOf?_of_mem {ns : List NodeId} {n : NodeId} (h : n ∈ ns) : ns.idxOf? n = some (ns.idxOf n) := by
  rw [List.idxOf_eq_getD_idxOf?]
  obtain ⟨i, hi⟩ := Option.isSome_iff_exists.mp (List.isSome_idxOf?.mpr h)
  rw [hi]
  rfl

theorem place?_of_mem {n : NodeId} (hn : n ∈ g.allNodes) : g.place? n = some (g.placed n).val := by
  unfold place? placed
  rw [idxOf?_of_mem hn]
  rfl

theorem WellFormed.placed_toNat (h : g.WellFormed) {n : NodeId} (hn : n ∈ g.allNodes) :
    (g.placed n).val.toNat = g.allNodes.idxOf n := by
  have hidx := List.idxOf_lt_length_of_mem hn
  exact UInt32.toNat_ofNat_of_lt' (Nat.lt_trans hidx h.length_allNodes)

theorem WellFormed.placed_injective (h : g.WellFormed) :
    ∀ m ∈ g.allNodes, ∀ n ∈ g.allNodes, g.placed m = g.placed n → m = n := by
  intro m hm n hn heq
  have hidx : (g.placed m).val.toNat = (g.placed n).val.toNat := by rw [heq]
  rw [h.placed_toNat hm, h.placed_toNat hn] at hidx
  exact (List.idxOf_inj hm).mp hidx

/-- The number that is given to the node at a place of the table. -/
theorem getElem?_placed {n : NodeId} (hn : n ∈ g.allNodes) :
    (g.allNodes.map g.placed)[g.allNodes.idxOf n]? = some (g.placed n) := by
  rw [List.getElem?_map, List.getElem?_idxOf hn]
  rfl

theorem WellFormed.idxOf_of_split (h : g.WellFormed) {done todo : List NodeId} {n : NodeId}
    (hall : g.allNodes = done ++ n :: todo) : g.allNodes.idxOf n = done.length := by
  have hnodup := h.nodup
  rw [hall] at hnodup
  have hnot := (not_mem_of_nodup_append_cons hnodup).1
  rw [hall, List.idxOf_append_of_notMem hnot, List.idxOf_cons_self, Nat.add_zero]

/-- The list with its indices is the list with the places of its items, if no item is listed twice. -/
theorem zipIdx_eq_map_idxOf {ns : List NodeId} (h : ns.Nodup) : ns.zipIdx = ns.map fun n => (n, ns.idxOf n) := by
  refine List.ext_getElem (by rw [List.length_zipIdx, List.length_map]) ?_
  intro i hi hi'
  rw [List.getElem_zipIdx, List.getElem_map, h.idxOf_getElem, Nat.zero_add]

/-- The rows of the record, with the nodes that they stand for. -/
theorem WellFormed.rows_of_nodes (h : g.WellFormed) :
    List.Forall₂ (fun n row => g.row? (n, g.allNodes.idxOf n) = some row) g.allNodes g.rows := by
  have hsome : ∀ e ∈ g.allNodes.zipIdx, ∃ row, g.row? e = some row := by
    rintro ⟨n, i⟩ he
    obtain ⟨node, hn⟩ := h.mem_allNodes.mp (List.fst_mem_of_mem_zipIdx he)
    exact ⟨_, Option.map_eq_some_iff.mpr ⟨node, hn, rfl⟩⟩
  have hrows : List.Forall₂ (fun e row => g.row? e = some row) g.allNodes.zipIdx g.rows := forall₂_filterMap hsome
  rwa [zipIdx_eq_map_idxOf h.nodup, List.forall₂_map_left_iff] at hrows

/-- The entries of the node table and their places, with the nodes that they stand for. -/
theorem WellFormed.toRecord_nodes (h : g.WellFormed) :
    List.Forall₂ (fun n e => ∃ node, g.node? n = some node
      ∧ e = (g.nodeRecord (g.allNodes.idxOf n) node, g.allNodes.idxOf n)) g.allNodes g.toRecord.nodes.zipIdx := by
  have hrows := forall₂_zipIdx h.rows_of_nodes 0
  rw [zipIdx_eq_map_idxOf h.nodup, List.forall₂_map_left_iff] at hrows
  rw [toRecord_eq_rows, List.zipIdx_map, List.forall₂_map_right_iff]
  refine hrows.imp ?_
  rintro n ⟨row, i⟩ ⟨hrow, hi⟩
  obtain ⟨node, hn, heq⟩ := Option.map_eq_some_iff.mp hrow
  refine ⟨node, hn, ?_⟩
  dsimp only at hi heq
  rw [← heq, ← hi]
  rfl

/-! ## The connection table -/

/-- The connections that end at a node, in the order of its inputs. -/
def entering (g : Graph) (n : NodeId) : List Connection :=
  match g.node? n with
  | some node => (List.range node.inputs.length).filterMap fun i => (g.sourceOf? ⟨n, i⟩).map (⟨·, ⟨n, i⟩⟩)
  | none => []

/-- All connections, in the order of the connection table. -/
def replay (g : Graph) : List Connection := g.allNodes.flatMap g.entering

def connectionRecord (g : Graph) (ends : Connection) : ConnectionRecord where
  srcNode := (g.placed ends.src.node).val
  srcPort := UInt32.ofNat ends.src.index
  dstNode := (g.placed ends.dst.node).val
  dstPort := UInt32.ofNat ends.dst.index

theorem Registered.mem_entering (h : g.Registered) {n : NodeId} {ends : Connection} :
    ends ∈ g.entering n ↔ g.Connects ends.src ends.dst ∧ ends.dst.node = n := by
  obtain ⟨s, d⟩ := ends
  unfold entering
  constructor
  · intro hmem
    split at hmem
    · obtain ⟨i, -, hi⟩ := List.mem_filterMap.mp hmem
      obtain ⟨s', hs', heq⟩ := Option.map_eq_some_iff.mp hi
      injection heq with hsrc hdst
      rw [← hsrc, ← hdst]
      exact ⟨h.sourceOf?_eq_some_iff.mp hs', rfl⟩
    · exact absurd hmem (by simp)
  · rintro ⟨hc, hd⟩
    dsimp only at hc hd
    obtain ⟨c, hc'⟩ := hc
    obtain ⟨cs, hcs, -⟩ := h.incoming_of_dst hc'
    obtain ⟨node, hnode, hi⟩ := node?_of_incoming? hcs
    dsimp only at hnode hi
    rw [hd] at hnode
    rw [hnode]
    have hlt : d.index < node.inputs.length := by
      unfold Node.incoming at hi
      have := (List.getElem?_eq_some_iff.mp hi).1
      rwa [List.length_map] at this
    refine List.mem_filterMap.mpr ⟨d.index, List.mem_range.mpr hlt, ?_⟩
    rw [← hd, h.sourceOf?_eq_some_iff.mpr ⟨c, hc'⟩]
    rfl

theorem WellFormed.mem_replay (h : g.WellFormed) {ends : Connection} :
    ends ∈ g.replay ↔ g.Connects ends.src ends.dst := by
  unfold replay
  rw [List.mem_flatMap]
  constructor
  · rintro ⟨n, -, hmem⟩
    exact (h.mem_entering.mp hmem).1
  · intro hc
    exact ⟨ends.dst.node, (h.mem_of_connects hc).2, h.mem_entering.mpr ⟨hc, rfl⟩⟩

/-- No two connections of the table end at one port. -/
theorem WellFormed.replay_dst_nodup (h : g.WellFormed) : (g.replay.map (·.dst)).Nodup := by
  unfold replay
  rw [List.map_flatMap, List.nodup_flatMap]
  refine ⟨?_, ?_⟩
  · intro n _
    unfold entering
    split
    · rw [List.map_filterMap]
      refine List.nodup_range.filterMap ?_
      intro i j d hi hj
      simp only [Option.map_map, Option.mem_def, Option.map_eq_some_iff, Function.comp_apply] at hi hj
      obtain ⟨-, -, rfl⟩ := hi
      obtain ⟨-, -, heq⟩ := hj
      injection heq with _ hij
      exact hij.symm
    · exact List.nodup_nil
  · refine h.nodup.imp ?_
    intro m n hmn d hd hd'
    obtain ⟨e, he, rfl⟩ := List.mem_map.mp hd
    obtain ⟨e', he', heq⟩ := List.mem_map.mp hd'
    have hm := (h.mem_entering.mp he).2
    have hn := (h.mem_entering.mp he').2
    exact hmn (by rw [← hm, ← hn, heq])

/-- The table has as many rows as there are connections. -/
theorem WellFormed.replay_perm (h : g.WellFormed) : g.replay.Perm g.connections.values := by
  have hreplay : g.replay.Nodup := List.Nodup.of_map _ h.replay_dst_nodup
  have hvalues : g.connections.values.Nodup := by
    unfold Table.values
    refine (List.nodup_map_iff_inj_on (List.Nodup.of_map _ g.connections.nodup)).mpr ?_
    rintro ⟨c, ends⟩ hc ⟨c', ends'⟩ hc' heq
    dsimp only at heq
    have hid := h.connection_unique (Table.get?_of_mem hc) (Table.get?_of_mem hc') (by rw [heq])
    rw [hid, heq]
  refine (List.perm_ext_iff_of_nodup hreplay hvalues).mpr ?_
  intro ends
  rw [h.mem_replay, Table.mem_values_iff]
  rfl

theorem WellFormed.length_replay (h : g.WellFormed) : g.replay.length < 2 ^ 32 := by
  have hinj : (g.connections.keys.map ConnectionId.val).Nodup :=
    g.connections.keys_nodup.map fun a b hab => congrArg ConnectionId.mk hab
  have hlen : (g.connections.keys.map ConnectionId.val).length < 2 ^ 32 := by
    refine length_lt_of_numbers g.nextConnection hinj ?_
    intro k hk
    obtain ⟨c, hc, rfl⟩ := List.mem_map.mp hk
    obtain ⟨ends, hends⟩ := Table.mem_keys_iff.mp hc
    exact h.connection_lt c ends hends
  rw [List.length_map, Table.keys_length] at hlen
  rw [h.replay_perm.length_eq]
  unfold Table.values
  rwa [List.length_map]

theorem WellFormed.connectionRecords_eq (h : g.WellFormed) {n : NodeId} {node : Node} (hn : g.node? n = some node) :
    g.connectionRecords (g.allNodes.idxOf n) n node = (g.entering n).map g.connectionRecord := by
  unfold entering connectionRecords
  rw [hn]
  dsimp only
  rw [List.map_filterMap]
  refine List.filterMap_congr ?_
  intro i _
  cases hs : g.sourceOf? ⟨n, i⟩ with
  | none => rfl
  | some s =>
      have hmem := (h.mem_of_connects (h.sourceOf?_eq_some_iff.mp hs)).1
      simp only [bind, Option.bind_some, Option.map_some, place?_of_mem hmem]
      rfl

/-- The connection table, with the connections that its rows stand for. -/
theorem WellFormed.toRecord_connections (h : g.WellFormed) :
    g.toRecord.connections = g.replay.map g.connectionRecord := by
  unfold replay
  rw [toRecord_eq_rows, List.map_flatMap]
  refine (flatMap_eq_of_forall₂ (h.rows_of_nodes.imp ?_)).symm
  intro n row hrow
  obtain ⟨node, hn, rfl⟩ := Option.map_eq_some_iff.mp hrow
  exact (h.connectionRecords_eq hn).symm

/-- The tables of a record that is written are no longer than the counters of a graph can count. -/
theorem WellFormed.toRecord_lengths (h : g.WellFormed) :
    g.toRecord.nodes.length < 2 ^ 32 ∧ g.toRecord.connections.length < 2 ^ 32 := by
  have hlen := h.toRecord_nodes.length_eq
  rw [List.length_zipIdx] at hlen
  refine ⟨hlen ▸ h.length_allNodes, ?_⟩
  rw [h.toRecord_connections, List.length_map]
  exact h.length_replay

end Graph

end SignalGraph
