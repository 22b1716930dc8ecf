import SignalGraph.Proofs.Arrangement.Flow
import SignalGraph.Proofs.Program.Correct
import SignalGraph.Proofs.Program.Order
import SignalGraph.Proofs.Record.Accepted
import SignalGraph.Proofs.Shapes

/-!
# Programs can be generated

A statement is written for each computed node in turn. It needs something that stands for each of its inputs,
and nodes with the ports of their kind. What feeds the node is listed before it, so its outputs are bound by the
time they are needed (`Ready`), and the outputs of input terminals and numbers are bound from the start. Every
line has a field, because the owner of the line is listed too.
-/

namespace SignalGraph

variable {g : Graph}

/-- A number that is read is a signal. -/
theorem Node.signal?_of_isConstant {node : Node} (h : node.isConstant = true) : ∃ v, node.signal? = some v := by
  unfold isConstant at h
  obtain ⟨c, hc⟩ := Option.isSome_iff_exists.mp h
  unfold signal?
  rw [hc, Option.bind_some]
  unfold constantValue? at hc
  split at hc
  · obtain ⟨d, -, hd⟩ := Option.bind_eq_some_iff.mp hc
    exact Option.isSome_iff_exists.mp (Option.filter_eq_some_iff.mp hd).2
  · exact absurd hc (by simp)

namespace Program.Draft

variable {d : Draft} {n : NodeId} {node : Node} {fields : Table NodeId Field}

/-! ## Binding outputs -/

/-- What stands for outputs before still does, and something stands for the consumed outputs of a node. -/
structure Binds (g : Graph) (d : Draft) (n : NodeId) (count : Nat) (d' : Draft) : Prop where
  kept : ∀ port, port ∈ d.bindings.keys → port ∈ d'.bindings.keys
  bound : ∀ i < count, g.consumersOf ⟨n, i⟩ ≠ [] → (⟨n, i⟩ : OutPort) ∈ d'.bindings.keys

theorem bindOutput_keys (d : Draft) (g : Graph) (port : OutPort) :
    (∀ p, p ∈ d.bindings.keys → p ∈ (d.bindOutput g port).2.bindings.keys)
      ∧ (g.consumersOf port ≠ [] → port ∈ (d.bindOutput g port).2.bindings.keys) := by
  unfold bindOutput
  split
  · rename_i hempty
    exact ⟨fun _ hp => hp, fun hne => absurd (List.isEmpty_iff.mp hempty) hne⟩
  · exact ⟨fun _ hp => Table.mem_keys_set.mpr (Or.inr hp), fun _ => Table.mem_keys_set.mpr (Or.inl rfl)⟩

theorem binds_bindOutputs (d : Draft) (g : Graph) (n : NodeId) (node : Node) :
    (d.bindOutputs g n node).1.length = node.outputs.length
      ∧ Binds g d n node.outputs.length (d.bindOutputs g n node).2 := by
  unfold bindOutputs
  generalize node.outputs.length = count
  induction count with
  | zero => exact ⟨rfl, fun _ hp => hp, fun i hi => absurd hi (Nat.not_lt_zero i)⟩
  | succ k ih =>
      obtain ⟨hlen, hkept, hbound⟩ := ih
      rw [List.range_succ, List.foldl_append]
      obtain ⟨hkept', hbound'⟩ := bindOutput_keys ((List.range k).foldl (fun (acc : List (Option Nat) × Draft) i =>
        (acc.1 ++ [(acc.2.bindOutput g ⟨n, i⟩).1], (acc.2.bindOutput g ⟨n, i⟩).2)) ([], d)).2 g ⟨n, k⟩
      refine ⟨?_, fun p hp => hkept' p (hkept p hp), ?_⟩
      · rw [List.foldl_cons, List.foldl_nil, List.length_append, hlen]
        rfl
      · intro i hi hne
        rcases Nat.lt_succ_iff_lt_or_eq.mp hi with hi | rfl
        · exact hkept' _ (hbound i hi hne)
        · exact hbound' hne

/-! ## One node -/

/-- The nodes that statements are written for, with their ports and fields. -/
structure Writable (g : Graph) (computed : List (NodeId × Node)) (fields : Table NodeId Field) : Prop where
  /-- They are nodes of the graph. -/
  node? : ∀ n node, (n, node) ∈ computed → g.node? n = some node
  /-- They have the ports of their kind. -/
  regular : ∀ n node, g.node? n = some node → node.Regular
  /-- The nodes that keep state have fields. -/
  fields : FieldsFor computed fields
  /-- Each line that is read is written. -/
  owned : ∀ n node w, (n, node) ∈ computed → node.delay = some (.read w) →
    ∃ writer, (w, writer) ∈ computed ∧ writer.delay = some .write

variable {computed : List (NodeId × Node)}

theorem Writable.field_of_write (hw : Writable g computed fields) (hn : (n, node) ∈ computed)
    (hwrite : node.delay = some .write) : ∃ f, fields.get? n = some f := by
  refine hw.fields.complete n node hn ?_
  unfold Node.hasField Node.isDelayRead
  rw [((hw.regular n node (hw.node? n node hn)).line hwrite).1, Node.isDelayWrite_iff.mpr hwrite]
  simp

theorem Writable.fieldName (hw : Writable g computed fields) (hn : (n, node) ∈ computed)
    (hstate : node.delay ≠ none ∨ node.stateful = true) :
    ∃ f, fields.get? ((g.delayWriteOf? n).getD n) = some f ∧ Draft.fieldName g fields n = .ok f.name := by
  have hfield : ∃ f, fields.get? ((g.delayWriteOf? n).getD n) = some f := by
    rw [delayWriteOf?_of_node? (hw.node? n node hn)]
    cases hdelay : node.delay with
    | none =>
        refine hw.fields.complete n node hn ?_
        unfold Node.hasField Node.isDelayRead Node.isDelay
        rw [hstate.resolve_left (fun hne => hne hdelay), hdelay]
        rfl
    | some link =>
        cases link with
        | write => exact hw.field_of_write hn hdelay
        | read w =>
            obtain ⟨writer, hin, hwrite⟩ := hw.owned n node w hn hdelay
            exact hw.field_of_write hin hwrite
  obtain ⟨f, hf⟩ := hfield
  exact ⟨f, hf, fieldName_eq_ok_iff.mpr ⟨f, hf, rfl⟩⟩

theorem exists_calls (hw : Writable g computed fields) (hn : (n, node) ∈ computed) {args : List Operand}
    (hlen : args.length = node.inputs.length) : ∃ call, Calls g fields n node args call := by
  cases hop : node.isOperator with
  | true =>
      have htwo := (hw.regular n node (hw.node? n node hn)).operator hop
      obtain ⟨left, right, rfl⟩ := List.length_eq_two.mp (hlen.trans htwo)
      exact ⟨_, .operator left right [] hop⟩
  | false =>
      cases hstate : node.stateful with
      | true =>
          obtain ⟨f, -, hf⟩ := hw.fieldName hn (Or.inr hstate)
          exact ⟨_, .process hop hstate hf⟩
      | false => exact ⟨_, .function hop hstate⟩

/-- If something stands for its inputs, the statements of a node can be written. -/
theorem Writable.emit (hw : Writable g computed fields) (hn : (n, node) ∈ computed) {args : List Operand}
    (hargs : d.operands g n node = .ok args) :
    ∃ d', Draft.emit g fields d (n, node) = .ok d' ∧ Binds g d n node.outputs.length d' := by
  have hlen := length_of_operands hargs
  have hregular := hw.regular n node (hw.node? n node hn)
  cases hdelay : node.delay with
  | none =>
      obtain ⟨call, hcall⟩ := exists_calls hw hn hlen
      obtain ⟨-, hbinds⟩ := binds_bindOutputs d g n node
      exact ⟨_, emit_eq_ok_iff.mpr (.call hdelay hargs hcall), hbinds.kept, hbinds.bound⟩
  | some link =>
      obtain ⟨f, -, hf⟩ := hw.fieldName hn (Or.inl (by simp [hdelay]))
      cases link with
      | write =>
          obtain ⟨time, value, rfl⟩ := List.length_eq_two.mp (hlen.trans (hregular.line hdelay).2)
          obtain ⟨-, hbinds⟩ := binds_bindOutputs { d with written := d.written ++ [n] } g n node
          exact ⟨_, emit_eq_ok_iff.mpr (.write hdelay hargs hf rfl), hbinds.kept, hbinds.bound⟩
      | read w =>
          obtain ⟨hresults, hbinds⟩ := binds_bindOutputs d g n node
          rw [hregular.look w hdelay] at hresults
          obtain ⟨result, hresult⟩ := List.length_eq_one_iff.mp hresults
          exact ⟨_, emit_eq_ok_iff.mpr (.read w hdelay hargs hf (Prod.ext hresult rfl)), hbinds.kept, hbinds.bound⟩

/-! ## All nodes in order -/

/-- No statement is written for a node. -/
def Plain (g : Graph) (n : NodeId) : Prop := ∀ node, g.node? n = some node → node.isComputed = false

/-- Something stands for every output that is connected, if its node is done or needs no statement. -/
def Ready (g : Graph) (done : List NodeId) (d : Draft) : Prop :=
  ∀ s t, g.Connects s t → s.node ∈ done ∨ Plain g s.node → s ∈ d.bindings.keys

theorem plain_or {P : Prop} (hnode : g.node? n = some node) (h : node.isComputed = true → P) : P ∨ Plain g n := by
  cases hcomp : node.isComputed with
  | true => exact Or.inl (h hcomp)
  | false =>
      refine Or.inr ?_
      intro found hfound
      rw [hnode] at hfound
      injection hfound with hfound
      rw [← hfound, hcomp]

theorem Ready.operand {done : List NodeId} (h : Ready g done d) (hreg : g.Registered) {t : InPort}
    (hsource : ∀ s, g.Connects s t → s.node ∈ done ∨ Plain g s.node) : ∃ o, d.operand g t = .ok o := by
  cases hs : g.sourceOf? t with
  | none => exact ⟨_, operand_eq_ok_iff.mpr (Or.inl ⟨hs, rfl⟩)⟩
  | some s =>
      have hconn := hreg.sourceOf?_eq_some_iff.mp hs
      obtain ⟨o, ho⟩ := Table.mem_keys_iff.mp (h s t hconn (hsource s hconn))
      exact ⟨o, operand_eq_ok_iff.mpr (Or.inr ⟨s, hs, ho⟩)⟩

/-- With the outputs of one more node bound, that node is done. -/
theorem Ready.done {done : List NodeId} {d' : Draft} (h : Ready g done d) (hreg : g.Registered)
    (hnode : g.node? n = some node) (hbinds : Binds g d n node.outputs.length d') : Ready g (done ++ [n]) d' := by
  intro s t hconn hs
  by_cases hsn : s.node = n
  · obtain ⟨c, hc⟩ := hconn
    obtain ⟨found, hfound, hlt⟩ := Graph.exists_outgoing?_iff.mp (hreg.src_listed c _ hc)
    dsimp only at hfound hlt
    rw [hsn, hnode] at hfound
    injection hfound with hfound
    rw [← hfound] at hlt
    have hport : s = ⟨n, s.index⟩ := by rw [← hsn]
    rw [hport]
    refine hbinds.bound s.index hlt ?_
    rw [← hport]
    exact List.ne_nil_of_mem (hreg.mem_consumersOf.mpr ⟨c, hc⟩)
  · refine hbinds.kept s (h s t hconn (hs.imp_left ?_))
    intro hin
    rcases List.mem_append.mp hin with hin | hin
    · exact hin
    · exact absurd (List.mem_singleton.mp hin) hsn

/-- The statements of all nodes can be written if what feeds a node is done before it. -/
theorem Writable.emitAll (hw : Writable g computed fields) (hreg : g.Registered) (hready : Ready g [] d)
    (hsource : ∀ done n node todo, computed = done ++ (n, node) :: todo → ∀ m, g.Feeds m n →
      m ∈ done.map Prod.fst ∨ Plain g m) :
    ∃ d', computed.foldlM (Draft.emit g fields) d = .ok d' ∧ Ready g (computed.map Prod.fst) d' := by
  refine foldlM_ok_of_step (P := fun done d => Ready g (done.map Prod.fst) d) ?_
    (List.forall₂_same.mpr fun entry _ => (rfl : entry = entry)) hready
  rintro done ⟨n, node⟩ todo _ d hall rfl hready
  have hn : (n, node) ∈ computed := by
    rw [hall]
    exact List.mem_append_cons_self
  obtain ⟨args, hargs⟩ : ∃ args, d.operands g n node = .ok args := by
    refine exists_mapM_ok ?_
    intro i _
    refine hready.operand hreg ?_
    rintro s ⟨c, hc⟩
    exact hsource done n node todo hall s.node ⟨c, _, hc, rfl, rfl⟩
  obtain ⟨d', hd', hbinds⟩ := hw.emit hn hargs
  refine ⟨d', hd', ?_⟩
  rw [List.map_append]
  exact hready.done hreg (hw.node? n node hn) hbinds

end Program.Draft

theorem Program.exists_lookUp {ns : List NodeId} (h : ∀ n ∈ ns, ∃ node, g.node? n = some node) :
    ∃ es, lookUp g ns = .ok es := by
  refine exists_mapM_ok ?_
  intro n hn
  obtain ⟨node, hnode⟩ := h n hn
  rw [hnode]
  exact ⟨_, rfl⟩

namespace Graph

/-- An output of a node without statements is bound at the start: it is that of an input terminal or of a number. -/
theorem WellFormed.start_ready (hwf : g.WellFormed) (hregular : ∀ n node, g.node? n = some node → node.Regular)
    {params : List String} (hparams : params.length = g.inPorts.length) {order : List NodeId}
    {listed : List (NodeId × Node)} (hlisted : Program.lookUp g order = .ok listed)
    (horder : ∀ n ∈ g.allNodes, n ∈ order) :
    Program.Draft.Ready g [] { bindings := Program.startBindings g.inPorts params listed } := by
  rintro s t ⟨c, hc⟩ hs
  obtain ⟨node, hnode, hlt⟩ := exists_outgoing?_iff.mp (hwf.src_listed c _ hc)
  dsimp only at hnode hlt
  have hplain := (hs.resolve_left List.not_mem_nil) node hnode
  have hshape := hregular s.node node hnode
  have hport : s.index = 0 → s = ⟨s.node, 0⟩ := fun hzero => by rw [← hzero]
  refine Table.mem_keys_setAll.mpr (Or.inl ?_)
  rw [List.map_append, List.mem_append]
  cases hconst : node.isConstant with
  | true =>
      rw [hshape.number hconst] at hlt
      obtain ⟨v, hv⟩ := Node.signal?_of_isConstant hconst
      obtain ⟨heq, -, -⟩ := Program.lookUp_eq_ok hlisted
      refine Or.inr (List.mem_map.mpr ⟨(⟨s.node, 0⟩, .literal v), ?_, (hport (by omega)).symm⟩)
      refine List.mem_filterMap.mpr ⟨(s.node, node), ?_, by dsimp only; rw [hv]; rfl⟩
      rw [heq]
      refine List.mem_filterMap.mpr ⟨s.node, horder _ (hwf.mem_allNodes.mpr ⟨node, hnode⟩), ?_⟩
      rw [hnode]
      rfl
  | false =>
      unfold Node.isComputed at hplain
      rw [hconst, Bool.not_false, Bool.true_and, Bool.not_eq_false'] at hplain
      -- an output terminal has no output that could be connected
      rcases Bool.or_eq_true_iff.mp hplain with hin | hout
      · rw [(hshape.onePort.1 hin).2] at hlt
        obtain ⟨i, hi⟩ := List.mem_iff_getElem?.mp ((hwf.mem_inPorts s.node).mpr ⟨node, hnode, hin⟩)
        have hi' : i < params.length := by
          rw [hparams]
          exact (List.getElem?_eq_some_iff.mp hi).1
        refine Or.inl (List.mem_map.mpr ⟨(⟨s.node, 0⟩, .param params[i]), ?_, (hport (by omega)).symm⟩)
        refine List.mem_map.mpr ⟨(s.node, params[i]), List.mem_iff_getElem?.mpr ⟨i, ?_⟩, rfl⟩
        exact List.getElem?_zip_eq_some.mpr ⟨hi, List.getElem?_eq_getElem hi'⟩
      · rw [(hshape.onePort.2 hout).2] at hlt
        omega

/-- There is a program for every order that lists all nodes, each behind what feeds it. -/
theorem WellFormed.exists_program (hwf : g.WellFormed) (hregular : ∀ n node, g.node? n = some node → node.Regular)
    {a : Arrangement} (hperm : a.nodes.Perm g.allNodes)
    (horder : ∀ m n, g.Feeds m n → a.nodes.idxOf m < a.nodes.idxOf n) : ∃ p, g.program a = .ok p := by
  have hnodup := hperm.nodup_iff.mpr hwf.nodup
  obtain ⟨inputs, hinputs⟩ := Program.exists_lookUp fun n hn => by
    obtain ⟨node, hnode, -⟩ := (hwf.mem_inPorts n).mp hn
    exact ⟨node, hnode⟩
  obtain ⟨listed, hlisted⟩ := Program.exists_lookUp fun n (hn : n ∈ a.nodes) =>
    hwf.mem_allNodes.mp (hperm.mem_iff.mp hn)
  have hcomputed : g.computed a.nodes = listed.filter (·.2.isComputed) := by
    unfold Graph.computed
    rw [← (Program.lookUp_eq_ok hlisted).1]
  have hmem : ∀ {n node}, (n, node) ∈ listed.filter (·.2.isComputed)
      ↔ g.node? n = some node ∧ node.isComputed = true := by
    intro n node
    rw [← hcomputed, mem_computed]
    refine and_iff_right_of_imp ?_
    rintro ⟨hnode, -⟩
    exact hperm.mem_iff.mpr (hwf.mem_allNodes.mpr ⟨node, hnode⟩)
  have hlength : (Identifier.parameters (inputs.map (·.2.terminalName?.getD ""))).length = g.inPorts.length := by
    obtain ⟨-, hids, -⟩ := Program.lookUp_eq_ok hinputs
    rw [(Identifier.parameters_spec _).2.2, List.length_map, ← hids, List.length_map]
  have hwritable : Program.Draft.Writable g (listed.filter (·.2.isComputed))
      (Program.fieldsOf (listed.filter (·.2.isComputed))) := by
    refine ⟨fun n node hn => (hmem.mp hn).1, hregular, ?_, ?_⟩
    · refine Program.fieldsOf_spec ?_
      rw [← hcomputed]
      exact hnodup.sublist (g.computed_sublist a.nodes)
    · intro n node w hn hread
      obtain ⟨writer, hw, hwrite⟩ := hwf.delays n node w (hmem.mp hn).1 hread
      have hcomp := (hregular w writer hw).computed (Node.isDelay_of_isDelayWrite hwrite)
      exact ⟨writer, hmem.mpr ⟨hw, hcomp⟩, Node.isDelayWrite_iff.mp hwrite⟩
  obtain ⟨final, hfinal, hready⟩ := hwritable.emitAll hwf.toRegistered
    (hwf.start_ready hregular hlength hlisted fun n hn => hperm.mem_iff.mpr hn) (by
      intro done n node todo hall m hfeeds
      obtain ⟨found, hfound⟩ := hwf.feeds_src_present hfeeds
      refine Program.Draft.plain_or hfound ?_
      intro hcomp
      exact (mem_done_iff hnodup (hcomputed.trans hall) hfound hcomp).mpr (horder m n hfeeds))
  have hresults : ∀ n ∈ g.outPorts, ∃ o, final.operand g ⟨n, 0⟩ = .ok o := by
    intro n _
    refine hready.operand hwf.toRegistered ?_
    rintro s ⟨c, hc⟩
    obtain ⟨found, hfound⟩ := hwf.feeds_src_present ⟨c, _, hc, rfl, rfl⟩
    refine Program.Draft.plain_or hfound ?_
    intro hcomp
    exact List.mem_map.mpr ⟨_, hmem.mpr ⟨hfound, hcomp⟩, rfl⟩
  obtain ⟨results, hresults⟩ := exists_mapM_ok hresults
  exact ⟨_, Except.bind_eq_ok_iff.mpr ⟨inputs, hinputs, Except.bind_eq_ok_iff.mpr ⟨listed, hlisted,
    Except.bind_eq_ok_iff.mpr ⟨final, hfinal, Except.bind_eq_ok_iff.mpr ⟨results, hresults, rfl⟩⟩⟩⟩⟩

/-! ## Every graph of an editor -/

/-- The program of a graph that an editor makes, whatever the settings of the arrangement. -/
theorem Edited.exists_program (hg : g.Edited) (config : ArrangeConfig) : ∃ p, g.program (g.arrange config) = .ok p := by
  obtain ⟨hwf, hbuilt⟩ := hg.rebuilt
  have hregular : ∀ n node, g.node? n = some node → node.Regular := fun n node hn => hbuilt.regular hn
  refine hwf.exists_program hregular (hwf.arrange_nodes config) ?_
  intro m n hfeeds
  exact hwf.idxOf_lt_of_feeds (fun n node hn => (hregular n node hn).onePort) config hfeeds

/--
**Generation never fails on a graph that an editor can build.** The graph may be new or read from a record, and
may have gone through any edits that add factory nodes: its source is written for every setting of the
arrangement. No node and no binding is missed, and no port that a statement asks for.
-/
theorem source_written (hg : g.Edited) (config : ArrangeConfig) : ∃ text, g.source config = .ok text := by
  obtain ⟨p, hp⟩ := hg.exists_program config
  exact ⟨p.render, Except.map_eq_ok_iff.mpr ⟨p, hp, rfl⟩⟩

/-- A record of a line between two readers. The first feeds the line, and the line feeds the second. -/
def loopRecord : GraphRecord where
  name := "loop"
  nodes := List.replicate 3 ⟨delayOrigin.pkg, delayOrigin.name, 2⟩
  connections := [⟨0, 0, 1, 1⟩, ⟨1, 0, 2, 0⟩]

/-- The graph of that record. -/
def loop : Graph where
  name := "loop"
  arena := .ofList [
    (⟨0⟩, { Node.delayRead ⟨1⟩ with outputs := [⟨"", [⟨0⟩]⟩] }),
    (⟨1⟩, { Node.delayWrite with inputs := [⟨"time", []⟩, ⟨"value", [⟨0⟩]⟩], outputs := [⟨"", [⟨1⟩]⟩] }),
    (⟨2⟩, { Node.delayRead ⟨1⟩ with inputs := [⟨"time", [⟨1⟩]⟩] })]
  body := [⟨0⟩, ⟨1⟩, ⟨2⟩]
  connections := .ofList [(⟨0⟩, ⟨⟨⟨0⟩, 0⟩, ⟨⟨1⟩, 1⟩⟩), (⟨1⟩, ⟨⟨⟨1⟩, 0⟩, ⟨⟨2⟩, 0⟩⟩)]
  nextNode := 3
  nextConnection := 2

theorem loop_opened : loop.Opened := by
  have hread : loopRecord.toGraph (fun _ => none) = .ok loop := by cbv
  exact .read ⟨by decide, by decide⟩ hread

/-- A graph that edits have made has a source, and so has one that is read, before and after a further edit. -/
theorem echo_and_loop_written : (∃ text, echo.source { strategy := .exhaustive } = .ok text)
    ∧ (∃ text, loop.source { } = .ok text) ∧ ∃ text, (loop.run [.remove ⟨1⟩]).source { } = .ok text := by
  refine ⟨source_written echo_reachable.edited _, source_written loop_opened.edited _, source_written ?_ _⟩
  refine ⟨loop, [.remove ⟨1⟩], loop_opened, ?_, roomFor_of_length (by decide) (by decide), rfl⟩
  intro e he
  rw [List.mem_singleton.mp he]
  exact ⟨fun _ => none, trivial⟩

end Graph

end SignalGraph
