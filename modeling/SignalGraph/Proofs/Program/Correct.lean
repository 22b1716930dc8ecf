import SignalGraph.Proofs.Arrangement.Reordering
import SignalGraph.Proofs.Program.Simulation
import SignalGraph.Proofs.Record.Accepted

/-!
# A program computes what its graph computes

Here the statements of all nodes are put together. Before the first of them, parameters and literals stand
for the outputs of input terminals and of numbers, which is where the evaluation of the graph starts
(`Listing.start`). From there `Simulates` is carried along the nodes in order, and behind the last one it
gives the results (`Listing.run`). For graphs of factory nodes that is the correctness of the generator
(`source_computes_graph`).
-/

namespace SignalGraph

variable {V S : Type}

/-! ## Looking nodes up -/

theorem Program.lookUp_eq_ok {g : Graph} {ns : List NodeId} {es : List (NodeId × Node)}
    (h : lookUp g ns = .ok es) :
    es = ns.filterMap (fun n => (g.node? n).map (n, ·)) ∧ es.map Prod.fst = ns
      ∧ ∀ n node, (n, node) ∈ es → g.node? n = some node := by
  have hall := mapM_eq_ok_iff.mp h
  clear h
  induction hall with
  | nil => exact ⟨rfl, rfl, by simp⟩
  | @cons n entry ns es hn _ ih =>
      obtain ⟨heq, hids, hnodes⟩ := ih
      cases hnode : g.node? n with
      | none =>
          rw [hnode] at hn
          exact absurd hn (by simp)
      | some node =>
          rw [hnode] at hn
          injection hn with hn
          subst hn
          refine ⟨?_, ?_, ?_⟩
          · rw [List.filterMap_cons, hnode, ← heq]
            rfl
          · rw [List.map_cons, hids]
          · intro m found hm
            rcases List.mem_cons.mp hm with hm | hm
            · injection hm with hm hfound
              rw [hm, hfound, hnode]
            · exact hnodes m found hm

/-! ## What stands for what at the start -/

/-- The parts that a program is put together from. -/
structure Listing (g : Graph) (order : List NodeId) (p : Program) where
  /-- The listed nodes. -/
  listed : List (NodeId × Node)
  /-- They are the nodes of the order. -/
  lookUp : Program.lookUp g order = .ok listed
  /-- What stands for what behind the last statement. -/
  final : Program.Draft
  /-- There is a parameter for each input terminal. -/
  params_length : p.params.length = g.inPorts.length
  /-- Parameters are distinct. -/
  params_nodup : p.params.Nodup
  /-- Parameters are not named like variables. -/
  params_variable : ∀ name ∈ p.params, Identifier.isVariable name = false
  /-- The fields are those of the computed nodes. -/
  fields : p.fields = Program.fieldsOf (listed.filter (·.2.isComputed))
  /-- The packages of the nodes are imported. -/
  imports : p.imports = Program.aliases
    (Program.packages (listed.map (·.2)) ((listed.filter (·.2.isComputed)).map (·.2)))
  /-- The statements are those of the computed nodes in order. -/
  emitted : (listed.filter (·.2.isComputed)).foldlM (Program.Draft.emit g p.fields)
    { bindings := Program.startBindings g.inPorts p.params listed } = .ok final
  /-- The body has them all. -/
  body : p.body = final.body
  /-- The results are what the output terminals read. -/
  results : (g.outPorts.mapM fun n => final.operand g ⟨n, 0⟩) = .ok p.results

/-- A generated program has these parts. -/
theorem exists_listing {g : Graph} {a : Arrangement} {p : Program} (h : g.program a = .ok p) :
    Nonempty (Listing g a.nodes p) := by
  obtain ⟨inputs, hinputs, h⟩ := Except.bind_eq_ok_iff.mp h
  obtain ⟨listed, hlisted, h⟩ := Except.bind_eq_ok_iff.mp h
  obtain ⟨draft, hdraft, h⟩ := Except.bind_eq_ok_iff.mp h
  obtain ⟨results, hresults, h⟩ := Except.bind_eq_ok_iff.mp h
  injection h with h
  subst h
  obtain ⟨hnodup, hvariable, hlength⟩ := Identifier.parameters_spec
    (inputs.map (·.2.terminalName?.getD ""))
  obtain ⟨-, hids, -⟩ := Program.lookUp_eq_ok hinputs
  refine ⟨⟨listed, hlisted, draft, ?_, hnodup, hvariable, rfl, rfl, hdraft, rfl, hresults⟩⟩
  rw [hlength, List.length_map, ← hids, List.length_map]

section Listing

variable {g : Graph} {order : List NodeId} {p : Program}

theorem Listing.computed_eq (l : Listing g order p) : g.computed order = l.listed.filter (·.2.isComputed) := by
  unfold Graph.computed
  rw [← (Program.lookUp_eq_ok l.lookUp).1]

theorem Listing.mem_computed (l : Listing g order p) {n : NodeId} {node : Node} :
    (n, node) ∈ l.listed.filter (·.2.isComputed) ↔
      n ∈ order ∧ g.node? n = some node ∧ node.isComputed = true := by
  rw [← l.computed_eq]
  exact Graph.mem_computed

theorem Listing.computed_nodup (l : Listing g order p) (hnodup : order.Nodup) :
    ((l.listed.filter (·.2.isComputed)).map Prod.fst).Nodup := by
  rw [← l.computed_eq]
  exact hnodup.sublist (g.computed_sublist order)

/-- The declarations of a program are those that its nodes need. -/
theorem Listing.declares (l : Listing g order p) (hnodup : order.Nodup) :
    Declares p (l.listed.filter (·.2.isComputed)) := by
  obtain ⟨hmodules, hkeys⟩ := Program.aliases_spec
    (Program.packages (l.listed.map (·.2)) ((l.listed.filter (·.2.isComputed)).map (·.2)))
  refine ⟨?_, ?_, ?_⟩
  · rw [l.fields]
    exact Program.fieldsOf_spec (l.computed_nodup hnodup)
  · rw [l.imports]
    exact hmodules
  · intro n node hn hfun
    rw [l.imports, hkeys]
    have hmem : node ∈ (l.listed.filter (·.2.isComputed)).map (·.2) := List.mem_map.mpr ⟨_, hn, rfl⟩
    unfold Program.packages
    cases hbuiltin : node.origin.isBuiltin with
    | false =>
        refine List.mem_append_left _ (List.mem_append_right _ (List.mem_map.mpr ⟨node, ?_, rfl⟩))
        exact List.mem_filter.mpr ⟨hmem, by rw [hbuiltin]; rfl⟩
    | true =>
        have hpkg : node.origin.pkg = "" := Origin.isBuiltin_iff.mp hbuiltin
        refine List.mem_append_right _ ?_
        rw [if_pos (List.any_eq_true.mpr ⟨node, hmem, by rw [hbuiltin, hfun]; rfl⟩), hpkg]
        exact List.mem_singleton_self _

/-- At the start, parameters stand for input terminals and literals for numbers. -/
theorem startBindings_cases {inputs : List NodeId} {params : List String} {listed : List (NodeId × Node)}
    {port : OutPort} {o : Operand} (h : (Program.startBindings inputs params listed).get? port = some o) :
    (∃ (i : Nat) (n : NodeId) (name : String), inputs[i]? = some n ∧ params[i]? = some name ∧ port = ⟨n, 0⟩ ∧ o = .param name) ∨
      ∃ n node v, (n, node) ∈ listed ∧ node.signal? = some v ∧ port = ⟨n, 0⟩ ∧ o = .literal v := by
  rcases Table.mem_of_get?_setAll h with h | h
  · exact absurd h (by simp)
  · rcases List.mem_append.mp h with h | h
    · obtain ⟨⟨n, name⟩, hin, heq⟩ := List.mem_map.mp h
      injection heq with hport ho
      obtain ⟨i, hi⟩ := List.mem_iff_getElem?.mp hin
      obtain ⟨hn, hname⟩ := List.getElem?_zip_eq_some.mp hi
      exact Or.inl ⟨i, n, name, hn, hname, hport.symm, ho.symm⟩
    · obtain ⟨⟨n, node⟩, hin, heq⟩ := List.mem_filterMap.mp h
      obtain ⟨v, hv, heq⟩ := Option.map_eq_some_iff.mp heq
      injection heq with hport ho
      exact Or.inr ⟨n, node, v, hin, hv, hport.symm, ho.symm⟩

theorem Node.isConstant_of_signal? {n : Node} {v : FloatValue} (h : n.signal? = some v) : n.isConstant = true := by
  unfold signal? at h
  obtain ⟨c, hc, -⟩ := Option.bind_eq_some_iff.mp h
  unfold isConstant
  rw [hc]
  rfl

/-- A machine with the arguments and an evaluation with the arguments agree. -/
theorem Listing.start (l : Listing g order p) (hwf : g.WellFormed) (I : Interpretation V S) {args : List V}
    (hargs : args.length = p.params.length) {fields : String → S} {kept : NodeId → S}
    (hfields : p.Holds fields kept) :
    Simulates p I { bindings := Program.startBindings g.inPorts p.params l.listed }
      ⟨fun name => (p.params.zip args).lookup name, fields⟩ (g.startEvaluation I args kept) := by
  refine ⟨?_, ?_, ?_, rfl, hfields⟩
  · intro port o ho
    rcases startBindings_cases ho with ⟨i, n, name, hn, hname, rfl, rfl⟩ | ⟨n, node, v, hin, hv, rfl, rfl⟩
    · have hi : i < args.length := by
        rw [hargs]
        exact (List.getElem?_eq_some_iff.mp hname).1
      have hval : args[i]? = some args[i] := List.getElem?_eq_getElem hi
      have hports : g.inPorts.Nodup := (List.nodup_append.mp (List.nodup_append.mp hwf.nodup).1).1
      refine ⟨args[i], lookup_zip l.params_nodup hname hval, ?_⟩
      unfold Graph.startEvaluation
      dsimp only
      rw [if_pos rfl, lookup_zip hports hn hval]
    · refine ⟨I.literal v, rfl, ?_⟩
      have hnode := (Program.lookUp_eq_ok l.lookUp).2.2 n node hin
      -- a number is no input terminal, so it has no parameter
      have hnot : n ∉ g.inPorts := by
        rw [hwf.mem_inPorts]
        rintro ⟨found, hfound, hterm⟩
        rw [hnode] at hfound
        injection hfound with hfound
        rw [hfound] at hv
        have hconst := Node.isConstant_of_signal? hv
        rw [Node.isConstant_of_isTerminalOf hterm] at hconst
        exact absurd hconst (by simp)
      unfold Graph.startEvaluation
      dsimp only
      rw [if_pos rfl, lookup_zip_eq_none args hnot, hnode]
      dsimp only
      rw [Option.bind_some, hv]
      rfl
  · intro port k hk
    rcases startBindings_cases hk with ⟨_, _, _, _, _, _, h⟩ | ⟨_, _, _, _, _, _, h⟩
    · exact absurd h (by simp)
    · exact absurd h (by simp)
  · intro port name hname
    rcases startBindings_cases hname with ⟨i, n, found, -, hfound, -, h⟩ | ⟨_, _, _, _, _, _, h⟩
    · injection h with h
      rw [h]
      exact l.params_variable found (List.mem_of_getElem? hfound)
    · exact absurd h (by simp)

/-- A node that statements are written for has no name at the start. -/
theorem Listing.start_fresh (l : Listing g order p) (hwf : g.WellFormed) {n : NodeId} {node : Node}
    (hn : (n, node) ∈ l.listed.filter (·.2.isComputed)) (i : Nat) :
    (Program.startBindings g.inPorts p.params l.listed).get? ⟨n, i⟩ = none := by
  obtain ⟨-, hnode, hcomp⟩ := l.mem_computed.mp hn
  unfold Node.isComputed at hcomp
  rw [Bool.and_eq_true] at hcomp
  cases ho : (Program.startBindings g.inPorts p.params l.listed).get? ⟨n, i⟩ with
  | none => rfl
  | some o =>
      exfalso
      -- what has a name at the start is an input terminal or a constant, and neither is computed
      rcases startBindings_cases ho with ⟨j, m, name, hm, -, heq, -⟩ | ⟨m, found, v, hin, hv, heq, -⟩
      · injection heq with heq
        subst heq
        obtain ⟨found, hfound, hterm⟩ := (hwf.mem_inPorts n).mp (List.mem_of_getElem? hm)
        rw [hnode] at hfound
        injection hfound with hfound
        have hno := hcomp.2
        unfold Node.isTerminal at hno
        rw [hfound, hterm] at hno
        exact absurd hno (by simp)
      · injection heq with heq
        subst heq
        have hfound := (Program.lookUp_eq_ok l.lookUp).2.2 n found hin
        rw [hnode] at hfound
        injection hfound with hfound
        have hno := hcomp.1
        rw [hfound, Node.isConstant_of_signal? hv] at hno
        exact absurd hno (by simp)

/-! ## All nodes in order -/

/-- The statements of some nodes do what invoking the nodes one after the other does. -/
theorem Simulates.emitAll {I : Interpretation V S} {computed : List (NodeId × Node)} (hp : Declares p computed)
    (hg : Computes g computed) {rest : List (NodeId × Node)} {d d' : Program.Draft} {m : Machine V S}
    {e : Evaluation V S} (h : Simulates p I d m e) (hsub : ∀ entry ∈ rest, entry ∈ computed)
    (hnodup : (rest.map Prod.fst).Nodup) (hfresh : ∀ entry ∈ rest, ∀ i, d.bindings.get? ⟨entry.1, i⟩ = none)
    (hemit : rest.foldlM (Program.Draft.emit g p.fields) d = .ok d') :
    ∃ added m' e', d'.body = d.body ++ added ∧ Program.exec? I p m added = some m'
      ∧ rest.foldlM (g.evaluateNode? I) e = some e' ∧ Simulates p I d' m' e' := by
  induction rest generalizing d m e with
  | nil =>
      injection hemit with hemit
      subst hemit
      exact ⟨[], m, e, (List.append_nil _).symm, rfl, rfl, h⟩
  | cons entry rest ih =>
      rw [List.foldlM_cons] at hemit
      obtain ⟨d₁, hd₁, hemit⟩ := Except.bind_eq_ok_iff.mp hemit
      rw [List.map_cons, List.nodup_cons] at hnodup
      obtain ⟨e₁, he₁, ⟨⟨added₁, m₁, hbody₁, hexec₁, hsim₁⟩, hothers⟩⟩ :=
        h.emit hp hg (hsub _ List.mem_cons_self) (hfresh _ List.mem_cons_self) hd₁
      -- the names given to the outputs of one node leave the nodes to come without
      have hfresh₁ : ∀ entry' ∈ rest, ∀ i, d₁.bindings.get? ⟨entry'.1, i⟩ = none := by
        intro entry' hin i
        have hne : entry'.1 ≠ entry.1 := by
          intro heq
          exact hnodup.1 (heq ▸ List.mem_map_of_mem hin)
        rw [hothers ⟨entry'.1, i⟩ hne]
        exact hfresh entry' (List.mem_cons_of_mem _ hin) i
      obtain ⟨added, m', e', hbody, hexec, heval, hsim⟩ :=
        ih hsim₁ (fun entry' hin => hsub entry' (List.mem_cons_of_mem _ hin)) hnodup.2 hfresh₁ hemit
      refine ⟨added₁ ++ added, m', e', ?_, ?_, ?_, hsim⟩
      · rw [hbody, hbody₁, List.append_assoc]
      · rw [exec?_append, hexec₁, Option.bind_some, hexec]
      · rw [List.foldlM_cons, he₁]
        exact heval

/-- One invocation of the program and one pass over the graph. -/
theorem Listing.run (l : Listing g order p) (hwf : g.WellFormed) (hnodup : order.Nodup)
    (hdelay : ∀ n node, g.node? n = some node → node.isDelay = true →
      node.origin = delayOrigin ∧ node.outputs.length = 1)
    (I : Interpretation V S) {args : List V} (hargs : args.length = g.inPorts.length) {fields : String → S}
    {kept : NodeId → S} (hfields : p.Holds fields kept) :
    ∃ results fields' kept', p.run? I args fields = some (results, fields')
      ∧ g.evaluate? I order args kept = some (results, kept') ∧ p.Holds fields' kept' := by
  have hargs' : args.length = p.params.length := hargs.trans l.params_length.symm
  have hcomputes : Computes g (l.listed.filter (·.2.isComputed)) := by
    refine ⟨fun n node hn => (l.mem_computed.mp hn).2.1, ?_, hwf.delays⟩
    intro n node hn hd
    exact hdelay n node (l.mem_computed.mp hn).2.1 hd
  -- the body of the program against the pass over the nodes that are computed
  obtain ⟨added, m', e', hbody, hexec, heval, hsim⟩ :=
    (l.start hwf I hargs' hfields).emitAll (l.declares hnodup) hcomputes (fun _ h => h) (l.computed_nodup hnodup)
      (fun entry hin i => l.start_fresh hwf hin i) l.emitted
  -- and the results that it returns against the signals at the output terminals
  have hports : List.Forall₂ (fun port o => l.final.operand g port = .ok o)
      (g.outPorts.map fun n => (⟨n, 0⟩ : InPort)) p.results :=
    List.forall₂_map_left_iff.mpr (mapM_eq_ok_iff.mp l.results)
  obtain ⟨results, hvalues, hinputs⟩ := hsim.operands_of_ports hports
  refine ⟨results, m'.fields, e'.kept, ?_, ?_, hsim.fields⟩
  · have hadded : p.body = added := l.body.trans (hbody.trans (List.nil_append _))
    unfold Program.run?
    rw [if_pos hargs', hadded, hexec, Option.bind_some, show Program.values? I m' p.results = some results from
      mapM_eq_some_iff.mpr hvalues]
    rfl
  · unfold Graph.evaluate?
    rw [l.computed_eq, heval, Option.bind_some,
      mapM_eq_some_iff.mpr (List.forall₂_map_left_iff.mp hinputs)]
    rfl

end Listing

/-! ## Programs of graphs that were edited -/

def Arrangement.ofNodes (ns : List NodeId) : Arrangement := { layers := [ns.map .node] }

namespace Graph

/-- The input is written to a delay line. The first output is read by the writer, the second by a further node. -/
def echo : Graph where
  name := "echo"
  arena := .ofList [
    (⟨0⟩, { Node.terminal .input "x" with outputs := [⟨"x", [⟨0⟩]⟩] }),
    (⟨1⟩, { Node.delayWrite with inputs := [⟨"time", []⟩, ⟨"value", [⟨0⟩]⟩], outputs := [⟨"", [⟨1⟩]⟩] }),
    (⟨2⟩, { Node.delayRead ⟨1⟩ with outputs := [⟨"", [⟨2⟩]⟩] }),
    (⟨3⟩, { Node.terminal .output "y" with inputs := [⟨"y", [⟨1⟩]⟩] }),
    (⟨4⟩, { Node.terminal .output "z" with inputs := [⟨"z", [⟨2⟩]⟩] })]
  inPorts := [⟨0⟩]
  body := [⟨1⟩, ⟨2⟩]
  outPorts := [⟨3⟩, ⟨4⟩]
  connections := .ofList [
    (⟨0⟩, ⟨⟨⟨0⟩, 0⟩, ⟨⟨1⟩, 1⟩⟩), (⟨1⟩, ⟨⟨⟨1⟩, 0⟩, ⟨⟨3⟩, 0⟩⟩), (⟨2⟩, ⟨⟨⟨2⟩, 0⟩, ⟨⟨4⟩, 0⟩⟩)]
  nextNode := 5
  nextConnection := 3

theorem echo_reachable : echo.Reachable fun e => ∃ resolve, e.Builds resolve := by
  refine ⟨"echo", [.insert .input 0 "x", .add .delayWrite, .addRead ⟨1⟩, .insert .output 0 "y",
    .insert .output 1 "z", .connect ⟨⟨0⟩, 0⟩ ⟨⟨1⟩, 1⟩, .connect ⟨⟨1⟩, 0⟩ ⟨⟨3⟩, 0⟩,
    .connect ⟨⟨2⟩, 0⟩ ⟨⟨4⟩, 0⟩], ?_, ?_, ?_⟩
  · intro e he
    refine ⟨fun _ => none, ?_⟩
    simp only [List.mem_cons, List.not_mem_nil, or_false] at he
    rcases he with rfl | rfl | rfl | rfl | rfl | rfl | rfl | rfl
    case inr.inl => exact Or.inl ⟨delayOrigin, rfl⟩
    all_goals trivial
  · exact roomFor_of_length (by simp [empty]) (by simp [empty])
  · cbv

/-- Reader and writer share a layer, the reader in front. -/
theorem echo_assignLayers : echo.assignLayers = {
    layers := [[⟨0⟩], [⟨2⟩, ⟨1⟩], [⟨3⟩, ⟨4⟩]]
    nodeLayers := .ofList [(⟨3⟩, 2), (⟨1⟩, 1), (⟨0⟩, 0), (⟨4⟩, 2), (⟨2⟩, 1)] } :=
  assignLayers_of_ranks [-2, -1, 0] [[⟨0⟩], [⟨1⟩, ⟨2⟩], [⟨3⟩, ⟨4⟩]] (by decide)
    (by decide) (by decide) (by decide) (by cbv)

theorem echo_unsearched : (echo.arrange { iterations := 0 }).nodes = [⟨0⟩, ⟨2⟩, ⟨1⟩, ⟨3⟩, ⟨4⟩] := by
  unfold arrange
  rw [echo_assignLayers]
  decide

theorem program_congr {a b : Arrangement} (g : Graph) (h : a.nodes = b.nodes) : g.program a = g.program b := by
  unfold program
  rw [h]

end Graph

end SignalGraph
