import SignalGraph.Proofs.ObjectText.Reading
import SignalGraph.Proofs.Record.Rebuilt
import SignalGraph.Record.Text

/-!
# Records as text are read back

A record is a structure of texts, numbers and tables, so its text is read as the same value; and taking that value
apart gives the record. What is read of the text of a graph is therefore what is read of its file, by any factory: the
graph, or one and the same refusal.
-/

namespace SignalGraph

open ObjectText

/-! ## The values of records -/

theorem nestingOfItems_map_le {α : Type} {f : α → Value} {k : Nat} (h : ∀ a, (f a).nesting ≤ k) (xs : List α) :
    nestingOfItems (xs.map f) ≤ k + 1 := by
  induction xs with
  | nil => simp [nestingOfItems]
  | cons x xs ih =>
      have hx := h x
      rw [List.map_cons, nestingOfItems]
      omega

theorem plain_ofFields {name : String} {fs : List (String × Value)} (hname : isStructName name = true)
    (hfields : (fs.map Prod.fst).all isName = true) (hne : fs ≠ []) (hvalues : ∀ v ∈ fs.map Prod.snd, v.Plain) :
    (Value.ofFields name fs).Plain := by
  refine .struct name fs hname hne ?_ ?_
  · intro f hf
    exact List.all_eq_true.mp hfields f.1 (List.mem_map_of_mem hf)
  · intro f hf
    exact hvalues f.2 (List.mem_map_of_mem hf)

theorem plain_word (w : UInt32) : (Value.ofNat w.toNat).Plain :=
  .number _ (Nat.lt_trans w.toNat_lt (by decide))

theorem NodeRecord.plain_toValue (e : NodeRecord) : e.toValue.Plain := by
  refine plain_ofFields (by decide) (by simp only [List.map]; decide) (by simp) ?_
  simp only [List.map, List.forall_mem_cons]
  exact ⟨.string _, .string _, plain_word _, List.forall_mem_nil _⟩

theorem ConnectionRecord.plain_toValue (c : ConnectionRecord) : c.toValue.Plain := by
  refine plain_ofFields (by decide) (by simp only [List.map]; decide) (by simp) ?_
  simp only [List.map, List.forall_mem_cons]
  exact ⟨plain_word _, plain_word _, plain_word _, plain_word _, List.forall_mem_nil _⟩

theorem GraphRecord.plain_toValue (r : GraphRecord) : r.toValue.Plain := by
  refine plain_ofFields (by decide) (by simp only [List.map]; decide) (by simp) ?_
  have hnodes : ∀ v ∈ r.nodes.map NodeRecord.toValue, v.Plain := by
    intro v hv
    obtain ⟨e, -, rfl⟩ := List.mem_map.mp hv
    exact e.plain_toValue
  have hconnections : ∀ v ∈ r.connections.map ConnectionRecord.toValue, v.Plain := by
    intro v hv
    obtain ⟨c, -, rfl⟩ := List.mem_map.mp hv
    exact c.plain_toValue
  simp only [List.map_cons, List.map_nil, List.forall_mem_cons]
  exact ⟨.string _, .list _ hnodes, .list _ hconnections, List.forall_mem_nil _⟩

theorem GraphRecord.nesting_toValue (r : GraphRecord) : r.toValue.nesting ≤ nestingLimit := by
  have hnode : ∀ e : NodeRecord, e.toValue.nesting ≤ 2 := by
    intro e
    simp [NodeRecord.toValue, Value.ofFields, Value.ofNat, Value.nesting, nestingOfFields]
  have hconnection : ∀ c : ConnectionRecord, c.toValue.nesting ≤ 2 := by
    intro c
    simp [ConnectionRecord.toValue, Value.ofFields, Value.ofNat, Value.nesting, nestingOfFields]
  have hnodes : nestingOfItems (r.nodes.map (·.toValue)) ≤ 3 := nestingOfItems_map_le hnode r.nodes
  have hconnections : nestingOfItems (r.connections.map (·.toValue)) ≤ 3 := nestingOfItems_map_le hconnection r.connections
  simp only [GraphRecord.toValue, Value.ofFields, Value.nesting, nestingOfFields, nestingLimit]
  omega

/-! ## Taking them apart -/

/-- Of a structure that has the known fields, each once, nothing is passed over. -/
theorem asStruct_ofFields (name : String) (fs : List (String × Value)) (s : Scope) (hnodup : (fs.map Prod.fst).Nodup) :
    Value.asStruct name (fs.map Prod.fst) s (.ofFields name fs) = some ⟨s.inside 2, fs⟩ := by
  have honce : ∀ k, (fs.filter (·.1 == k)).length ≤ 1 := by
    intro k
    have hcount := List.nodup_iff_count_le_one.mp hnodup k
    rwa [List.count, List.countP_map, List.countP_eq_length_filter] at hcount
  have hvalid : (Fields.mk (s.inside 2) fs).areValid (fs.map Prod.fst) = true := by
    unfold Fields.areValid
    rw [Bool.and_eq_true, List.all_eq_true, List.all_eq_true]
    refine ⟨fun k _ => by simpa using honce k, ?_⟩
    intro f hf
    simpa using Or.inl ⟨f.2, hf⟩
  simp [Value.asStruct, Value.ofFields, Value.entries?, Fields.ofEntries?, hvalid]

theorem asWord_ofNat (s : Scope) (w : UInt32) : Value.asWord s (.ofNat w.toNat) = some w := by
  have hbound := w.toNat_lt
  simp [Value.asWord, Value.asUnsigned, Value.ofNat, IntKind.holds, hbound]

theorem asList_map {α : Type} {decode : Decoder α} {f : α → Value} (h : ∀ s a, decode s (f a) = some a) (s : Scope)
    (xs : List α) : Value.asList decode s (.list (xs.map f)) = some xs := by
  unfold Value.asList
  dsimp only
  rw [mapM_eq_some_iff, List.forall₂_map_left_iff, List.forall₂_same]
  intro a _
  exact h _ a

theorem NodeRecord.ofValue?_toValue (s : Scope) (e : NodeRecord) : NodeRecord.ofValue? s e.toValue = some e := by
  have hstruct := asStruct_ofFields "NodeRecord" [("pkg", .string e.pkg), ("name", .string e.name),
    ("delay_write", .ofNat e.delayWrite.toNat)] s (by simp)
  simp only [List.map_cons, List.map_nil] at hstruct
  simp [NodeRecord.ofValue?, NodeRecord.toValue, hstruct, Fields.required, Fields.get?, List.lookup_cons,
    Value.asString, asWord_ofNat]

theorem ConnectionRecord.ofValue?_toValue (s : Scope) (c : ConnectionRecord) :
    ConnectionRecord.ofValue? s c.toValue = some c := by
  have hstruct := asStruct_ofFields "ConnectionRecord" [("src_node", .ofNat c.srcNode.toNat),
    ("src_port", .ofNat c.srcPort.toNat), ("dst_node", .ofNat c.dstNode.toNat),
    ("dst_port", .ofNat c.dstPort.toNat)] s (by simp)
  simp only [List.map_cons, List.map_nil] at hstruct
  simp [ConnectionRecord.ofValue?, ConnectionRecord.toValue, hstruct, Fields.required, Fields.get?, List.lookup_cons,
    asWord_ofNat]

theorem GraphRecord.ofValue?_toValue (s : Scope) (r : GraphRecord) : GraphRecord.ofValue? s r.toValue = some r := by
  have hstruct := asStruct_ofFields "GraphRecord" [("name", .string r.name),
    ("nodes", .list (r.nodes.map (·.toValue))), ("connections", .list (r.connections.map (·.toValue)))] s (by simp)
  have hnodes := asList_map NodeRecord.ofValue?_toValue (s.inside 2) r.nodes
  have hconnections := asList_map ConnectionRecord.ofValue?_toValue (s.inside 2) r.connections
  simp only [List.map_cons, List.map_nil] at hstruct
  simp [GraphRecord.ofValue?, GraphRecord.toValue, hstruct, Fields.required, Fields.get?, List.lookup_cons,
    Value.asString, hnodes, hconnections]

/-- **Every record is read back from its text**, which blanks and line ends may follow. -/
theorem GraphRecord.parse?_render (r : GraphRecord) {trailing : String} (hblank : ∀ c ∈ trailing.toList, isSpace c = true) :
    GraphRecord.parse? (r.render ++ trailing) = some r := by
  have hparse := ObjectText.parse?_render r.plain_toValue r.nesting_toValue layout hblank
  unfold GraphRecord.parse? decode? GraphRecord.render GraphRecord.toValue Value.ofFields at *
  simp only [hparse]
  exact r.ofValue?_toValue _

namespace Graph

/-- Reading the text of a graph is building the graph of its record. -/
theorem parseRecord_renderRecord (g : Graph) (resolve : Origin → Option Capability) {trailing : String}
    (hblank : ∀ c ∈ trailing.toList, isSpace c = true) :
    parseRecord (g.renderRecord ++ trailing) resolve = (g.toRecord.toGraph resolve).mapError .record := by
  unfold parseRecord renderRecord
  rw [g.toRecord.parse?_render hblank]

end Graph

end SignalGraph
