import SignalGraph.Proofs.Graph.WellFormed
import SignalGraph.Proofs.Program.Emission
import SignalGraph.Proofs.Program.Names
import SignalGraph.Proofs.Program.Semantics

/-!
# Statements do what their nodes do

While statements are written, `Simulates` relates what stands for the outputs so far, a machine that has
executed the statements so far, and an evaluation that has invoked the nodes so far. A fresh variable does not
disturb what older names stand for, and a field is disturbed through its own name only.

One lemma for each kind of node shows that its statements keep the relation; the run is an induction over
the nodes in order.
-/

namespace SignalGraph

variable {V S : Type}

/-! ## The relation -/

/-- What a program declares for the nodes that are computed in it. -/
structure Declares (p : Program) (computed : List (NodeId × Node)) : Prop where
  fields : Program.FieldsFor computed p.fields
  modules : p.imports.values.Nodup
  imported : ∀ n node, (n, node) ∈ computed → node.isFunction = true → node.origin.pkg ∈ p.imports.keys

/-- Machine and evaluation agree on everything that has been computed so far. -/
structure Simulates (p : Program) (I : Interpretation V S) (d : Program.Draft) (m : Machine V S)
    (e : Evaluation V S) : Prop where
  /-- What stands for an output has the signal of the output. -/
  bound : ∀ port o, d.bindings.get? port = some o → ∃ v, o.value? I m.values = some v ∧ e.outputs port = some v
  /-- The variables in use are those below the next one. -/
  var_lt : ∀ port k, d.bindings.get? port = some (.var k) → k < d.nextVar
  /-- No parameter looks like a variable. -/
  param : ∀ port name, d.bindings.get? port = some (.param name) → Identifier.isVariable name = false
  /-- The same delay lines have been written. -/
  written : d.written = e.written
  /-- Fields hold what nodes keep. -/
  fields : p.Holds m.fields e.kept

section Operands

variable {g : Graph} {p : Program} {I : Interpretation V S} {d : Program.Draft} {m : Machine V S}
  {e : Evaluation V S}

theorem Simulates.operand (h : Simulates p I d m e) {dst : InPort} {o : Operand}
    (ho : d.operand g dst = .ok o) : ∃ v, o.value? I m.values = some v ∧ g.input? I e dst = some v := by
  unfold Graph.input?
  rcases Program.Draft.operand_eq_ok_iff.mp ho with ⟨hnone, rfl⟩ | ⟨src, hsrc, hfound⟩
  · rw [hnone]
    exact ⟨_, rfl, rfl⟩
  · rw [hsrc]
    exact h.bound src o hfound

theorem Simulates.operands_of_ports (h : Simulates p I d m e) {ports : List InPort} {os : List Operand}
    (hos : List.Forall₂ (fun port o => d.operand g port = .ok o) ports os) :
    ∃ vs, List.Forall₂ (fun (o : Operand) v => o.value? I m.values = some v) os vs
      ∧ List.Forall₂ (fun port v => g.input? I e port = some v) ports vs := by
  induction hos with
  | nil => exact ⟨[], .nil, .nil⟩
  | cons ho _ ih =>
      obtain ⟨v, hv, hin⟩ := h.operand ho
      obtain ⟨vs, hvs, hins⟩ := ih
      exact ⟨v :: vs, .cons hv hvs, .cons hin hins⟩

/-- The operands of a node have the signals at its inputs. -/
theorem Simulates.operands (h : Simulates p I d m e) {n : NodeId} {node : Node} {os : List Operand}
    (hos : d.operands g n node = .ok os) :
    ∃ vs, Program.values? I m os = some vs ∧ g.inputs? I e n node = some vs := by
  have hports : List.Forall₂ (fun port o => d.operand g port = .ok o)
      ((List.range node.inputs.length).map fun i => (⟨n, i⟩ : InPort)) os :=
    List.forall₂_map_left_iff.mpr (mapM_eq_ok_iff.mp hos)
  obtain ⟨vs, hvs, hins⟩ := h.operands_of_ports hports
  exact ⟨vs, mapM_eq_some_iff.mpr hvs, mapM_eq_some_iff.mpr (List.forall₂_map_left_iff.mp hins)⟩

/-! ## Fresh variables -/

/-- An operand in use keeps its value when the next variable gets one. -/
theorem Simulates.value?_update (h : Simulates p I d m e) {port : OutPort} {o : Operand}
    (ho : d.bindings.get? port = some o) (v : V) :
    o.value? I (Function.update m.values (Identifier.variableName d.nextVar) (some v)) = o.value? I m.values := by
  cases o with
  | param name =>
      have hname : name ≠ Identifier.variableName d.nextVar := by
        rintro rfl
        have := h.param port _ ho
        rw [Identifier.isVariable_variableName] at this
        exact absurd this (by simp)
      exact Function.update_of_ne hname _ _
  | var k =>
      have hname : Identifier.variableName k ≠ Identifier.variableName d.nextVar := by
        intro heq
        have := h.var_lt port k ho
        rw [Identifier.variableName_injective heq] at this
        exact Nat.lt_irrefl _ this
      exact Function.update_of_ne hname _ _
  | literal v' => rfl

/-- The draft, the machine and the evaluation behind the first `k` outputs of a node. -/
structure BindsOutputs (g : Graph) (p : Program) (I : Interpretation V S) (d : Program.Draft) (m : Machine V S)
    (e : Evaluation V S) (n : NodeId) (outs : Nat → V) (k : Nat) (results : List (Option Nat))
    (d' : Program.Draft) : Prop where
  /-- There is a result for each output. -/
  length : results.length = k
  /-- An output has a variable if it is read. -/
  consumed : results.any (·.isSome) = (List.range k).any fun i => !(g.consumersOf ⟨n, i⟩).isEmpty
  /-- Where nothing is read, nothing is bound. -/
  unread : results.any (·.isSome) = false → d' = d
  /-- No statement is written yet. -/
  body : d'.body = d.body
  /-- Only outputs of the node have a new name. -/
  others : ∀ port, port.node ≠ n → d'.bindings.get? port = d.bindings.get? port
  /-- The outputs to come have none. -/
  rest : ∀ i, k ≤ i → d'.bindings.get? ⟨n, i⟩ = none
  /-- Machine and evaluation agree. -/
  simulates : Simulates p I d' (m.bindResults results outs) (e.emit n k outs)

theorem bindResults_append (m : Machine V S) (results : List (Option Nat)) (r : Option Nat) (outs : Nat → V) :
    m.bindResults (results ++ [r]) outs = (m.bindResults results outs).bindResult outs (r, results.length) := by
  unfold Machine.bindResults
  rw [List.zipIdx_append, List.foldl_append]
  simp

theorem emit_succ_outputs (e : Evaluation V S) (n : NodeId) (k : Nat) (outs : Nat → V) (port : OutPort) :
    (e.emit n (k + 1) outs).outputs port =
      if port = ⟨n, k⟩ then some (outs k) else (e.emit n k outs).outputs port := by
  obtain ⟨m, i⟩ := port
  unfold Evaluation.emit
  by_cases hm : m = n
  · rcases Nat.lt_trichotomy i k with hi | hi | hi
    · have hne : i ≠ k := Nat.ne_of_lt hi
      simp [hm, hi, hne, Nat.lt_succ_of_lt hi]
    · simp [hm, hi]
    · have hne : i ≠ k := Nat.ne_of_gt hi
      have h1 : ¬ i < k := Nat.not_lt.mpr (Nat.le_of_lt hi)
      have h2 : ¬ i < k + 1 := by omega
      simp [hm, hne, h1, h2]
  · simp [hm]

theorem any_range_succ (g : Graph) (n : NodeId) (k : Nat) :
    ((List.range (k + 1)).any fun i => !(g.consumersOf ⟨n, i⟩).isEmpty) =
      (((List.range k).any fun i => !(g.consumersOf ⟨n, i⟩).isEmpty) || !(g.consumersOf ⟨n, k⟩).isEmpty) := by
  rw [List.range_succ, List.any_append]
  simp

section Succ

variable {n : NodeId} {outs : Nat → V} {k : Nat} {results : List (Option Nat)} {d' : Program.Draft}

/-- Nothing reads the next output, so it gets no name and its signal goes unnoticed. -/
theorem BindsOutputs.skip (h : BindsOutputs g p I d m e n outs k results d')
    (hread : (g.consumersOf ⟨n, k⟩).isEmpty = true) :
    BindsOutputs g p I d m e n outs (k + 1) (results ++ [none]) d' := by
  obtain ⟨hlen, hconsumed, hunread, hbody, hothers, hrest, hsim⟩ := h
  refine ⟨by rw [List.length_append, hlen]; rfl, ?_, ?_, hbody, hothers, fun i hi => hrest i (by omega), ?_⟩
  · rw [List.any_append, hconsumed, any_range_succ, hread]
    rfl
  · intro hnone
    rw [List.any_append, Bool.or_eq_false_iff] at hnone
    exact hunread hnone.1
  · rw [bindResults_append]
    refine ⟨?_, hsim.var_lt, hsim.param, hsim.written, hsim.fields⟩
    intro port o ho
    have hne : port ≠ ⟨n, k⟩ := by
      rintro rfl
      rw [hrest k (Nat.le_refl k)] at ho
      exact absurd ho (by simp)
    rw [emit_succ_outputs, if_neg hne]
    exact hsim.bound port o ho

/-- A fresh variable for an output agrees with a signal at that output. -/
theorem Simulates.bindVar (h : Simulates p I d m e) (port : OutPort) (v : V) {e' : Evaluation V S}
    (houtputs : ∀ port', e'.outputs port' = if port' = port then some v else e.outputs port')
    (hwritten : e'.written = e.written) (hkept : e'.kept = e.kept) :
    Simulates p I { d with bindings := d.bindings.set port (.var d.nextVar), nextVar := d.nextVar + 1 }
      { m with values := Function.update m.values (Identifier.variableName d.nextVar) (some v) } e' := by
  refine ⟨?_, ?_, ?_, h.written.trans hwritten.symm, hkept ▸ h.fields⟩
  · intro port' o ho
    dsimp only at ho
    rw [Table.get?_set] at ho
    rw [houtputs]
    split at ho
    · rename_i heq
      injection ho with ho
      subst ho
      rw [if_pos heq]
      exact ⟨v, Function.update_self _ _ _, rfl⟩
    · rename_i hne
      rw [if_neg hne]
      obtain ⟨w, hw, hout⟩ := h.bound port' o ho
      exact ⟨w, (h.value?_update ho v).trans hw, hout⟩
  · intro port' j hj
    dsimp only at hj ⊢
    rw [Table.get?_set] at hj
    split at hj
    · injection hj with hj
      injection hj with hj
      omega
    · exact Nat.lt_succ_of_lt (h.var_lt port' j hj)
  · intro port' name hname
    dsimp only at hname
    rw [Table.get?_set] at hname
    split at hname
    · injection hname with hname
      exact absurd hname (by simp)
    · exact h.param port' name hname

/-- The next output is read, so the next variable is bound to its signal. -/
theorem BindsOutputs.bind (h : BindsOutputs g p I d m e n outs k results d')
    (hread : ¬ (g.consumersOf ⟨n, k⟩).isEmpty = true) :
    BindsOutputs g p I d m e n outs (k + 1) (results ++ [some d'.nextVar])
      { d' with bindings := d'.bindings.set ⟨n, k⟩ (.var d'.nextVar), nextVar := d'.nextVar + 1 } := by
  obtain ⟨hlen, hconsumed, hunread, hbody, hothers, hrest, hsim⟩ := h
  exact {
    length := by rw [List.length_append, hlen]; rfl
    consumed := by
      rw [List.any_append, hconsumed, any_range_succ, Bool.eq_false_iff.mpr hread]
      rfl
    unread := by
      intro hnone
      rw [List.any_append, Bool.or_eq_false_iff] at hnone
      exact absurd hnone.2 (by simp)
    body := hbody
    others := by
      intro port hport
      have hne : port ≠ ⟨n, k⟩ := by
        rintro rfl
        exact hport rfl
      exact (Table.get?_set_of_ne _ _ hne).trans (hothers port hport)
    rest := by
      intro i hi
      have hne : (⟨n, i⟩ : OutPort) ≠ ⟨n, k⟩ := by
        intro heq
        injection heq with _ heq
        omega
      exact (Table.get?_set_of_ne _ _ hne).trans (hrest i (by omega))
    simulates := by
      rw [bindResults_append, hlen]
      exact hsim.bindVar ⟨n, k⟩ (outs k) (emit_succ_outputs e n k outs) rfl rfl }

theorem BindsOutputs.succ (h : BindsOutputs g p I d m e n outs k results d') :
    BindsOutputs g p I d m e n outs (k + 1) (results ++ [(d'.bindOutput g ⟨n, k⟩).1])
      (d'.bindOutput g ⟨n, k⟩).2 := by
  unfold Program.Draft.bindOutput
  by_cases hread : (g.consumersOf ⟨n, k⟩).isEmpty = true
  · rw [if_pos hread]
    exact h.skip hread
  · rw [if_neg hread]
    exact h.bind hread

end Succ

/-- Binding the outputs of a node that has no name yet. -/
theorem Simulates.bindOutputs (h : Simulates p I d m e) {n : NodeId} (node : Node) (outs : Nat → V)
    (hfresh : ∀ i, d.bindings.get? ⟨n, i⟩ = none) :
    BindsOutputs g p I d m e n outs node.outputs.length (d.bindOutputs g n node).1 (d.bindOutputs g n node).2 := by
  have hall : ∀ k, BindsOutputs g p I d m e n outs k
      ((List.range k).foldl (fun (acc : List (Option Nat) × Program.Draft) i =>
        (acc.1 ++ [(acc.2.bindOutput g ⟨n, i⟩).1], (acc.2.bindOutput g ⟨n, i⟩).2)) ([], d)).1
      ((List.range k).foldl (fun (acc : List (Option Nat) × Program.Draft) i =>
        (acc.1 ++ [(acc.2.bindOutput g ⟨n, i⟩).1], (acc.2.bindOutput g ⟨n, i⟩).2)) ([], d)).2 := by
    intro k
    induction k with
    | zero =>
        refine ⟨rfl, rfl, fun _ => rfl, rfl, fun _ _ => rfl, fun i _ => hfresh i, ?_⟩
        refine ⟨?_, h.var_lt, h.param, h.written, h.fields⟩
        intro port o ho
        obtain ⟨v, hv, hout⟩ := h.bound port o ho
        refine ⟨v, hv, ?_⟩
        unfold Evaluation.emit
        simpa using hout
    | succ k ih =>
        rw [List.range_succ, List.foldl_append]
        exact ih.succ
  exact hall node.outputs.length

end Operands

/-! ## Fields and modules -/

section Names

variable {g : Graph} {p : Program} {I : Interpretation V S} {d : Program.Draft} {m : Machine V S}
  {e : Evaluation V S} {computed : List (NodeId × Node)}

/-- The kind of a field is found by its name. -/
theorem Declares.kindOf? (hp : Declares p computed) {n : NodeId} {f : Field} (hf : p.fields.get? n = some f) :
    Program.kindOf? p.fields f.name = some f.origin := by
  unfold Program.kindOf?
  cases hfind : p.fields.values.find? (·.name == f.name) with
  | none =>
      have hno := List.find?_eq_none.mp hfind f (Table.mem_values_iff.mpr ⟨n, hf⟩)
      exact absurd hno (by simp)
  | some f' =>
      have hname : f'.name = f.name := by simpa using List.find?_some hfind
      obtain ⟨n', hn'⟩ := Table.mem_values_iff.mp (List.mem_of_find?_eq_some hfind)
      have hsame := hp.fields.distinct n' n f' f hn' hf hname
      rw [hsame, hf] at hn'
      injection hn' with hn'
      rw [hn']
      rfl

/-- The function of a node is found through the module of its package. -/
theorem Declares.callee? (hp : Declares p computed) {n : NodeId} {node : Node} (hn : (n, node) ∈ computed)
    (hfun : node.isFunction = true) : Program.callee? p.imports node.origin = some node.origin := by
  obtain ⟨module, hmodule⟩ := Table.mem_keys_iff.mp (hp.imported n node hn hfun)
  unfold Program.callee? Program.moduleOf
  rw [hmodule, Option.getD_some]
  cases hfind : p.imports.entries.find? (·.2 == module) with
  | none =>
      have hno := List.find?_eq_none.mp hfind _ (Table.mem_of_get? hmodule)
      exact absurd hno (by simp)
  | some entry =>
      have hval : entry.2 = module := by simpa using List.find?_some hfind
      have hmem := List.mem_of_find?_eq_some hfind
      have heq : entry = (node.origin.pkg, module) :=
        List.inj_on_of_nodup_map hp.modules hmem (Table.mem_of_get? hmodule) hval
      rw [heq]
      rfl

/-- Calling a method of a field does what calling it of the node does. -/
theorem Simulates.callMethod (h : Simulates p I d m e) (hp : Declares p computed) {n : NodeId} {f : Field}
    (hf : p.fields.get? n = some f) (method : Method) (args : List V) :
    ∃ m', Program.callMethod? I p f.name method args m = some ((e.callMethod I f.origin n method args).1, m')
      ∧ m'.values = m.values ∧ Simulates p I d m' (e.callMethod I f.origin n method args).2 := by
  have hheld := h.fields n f hf
  refine ⟨{ m with fields := Function.update m.fields f.name (I.method f.origin method (e.kept n) args).2 },
    ?_, rfl, ?_⟩
  · unfold Program.callMethod?
    rw [hp.kindOf? hf, Option.map_some, hheld]
    rfl
  · refine ⟨h.bound, h.var_lt, h.param, h.written, ?_⟩
    intro n' f' hf'
    dsimp only [Evaluation.callMethod, Evaluation.keep]
    by_cases hn : n' = n
    · rw [hn, hf] at hf'
      injection hf' with hf'
      rw [hn, ← hf', Function.update_self, Function.update_self]
    · have hne : f'.name ≠ f.name := fun heq => hn (hp.fields.distinct n' n f' f hf' hf heq)
      rw [Function.update_of_ne hne, Function.update_of_ne hn]
      exact h.fields n' f' hf'

theorem delayWriteOf?_of_node? {n : NodeId} {node : Node} (hn : g.node? n = some node) :
    g.delayWriteOf? n = node.delay.map fun
      | .write => n
      | .read writer => writer := by
  unfold Graph.delayWriteOf?
  rw [hn]
  rfl

end Names

/-! ## One node -/

/-- What holds of the nodes that statements are written for. -/
structure Computes (g : Graph) (computed : List (NodeId × Node)) : Prop where
  /-- They are nodes of the graph. -/
  node? : ∀ n node, (n, node) ∈ computed → g.node? n = some node
  /-- A delay node is of the kind of delays and has one output. -/
  delay : ∀ n node, (n, node) ∈ computed → node.isDelay = true →
    node.origin = delayOrigin ∧ node.outputs.length = 1
  /-- A delay read has a line to read. -/
  linked : g.DelaysLinked

section Emit

variable {g : Graph} {p : Program} {I : Interpretation V S} {d : Program.Draft} {m : Machine V S}
  {e : Evaluation V S} {computed : List (NodeId × Node)}

/-- What the statements of a node have to do. -/
structure Emits (g : Graph) (p : Program) (I : Interpretation V S) (d : Program.Draft) (m : Machine V S)
    (n : NodeId) (d' : Program.Draft) (e' : Evaluation V S) : Prop where
  /-- Statements are added, they can be executed, and they keep machine and evaluation in agreement. -/
  statements : ∃ added m', d'.body = d.body ++ added ∧ Program.exec? I p m added = some m' ∧ Simulates p I d' m' e'
  /-- Only outputs of the node have a new name. -/
  others : ∀ port, port.node ≠ n → d'.bindings.get? port = d.bindings.get? port

theorem Simulates.write_body (h : Simulates p I d m e) (body : List Statement) :
    Simulates p I { d with body := body } m e :=
  ⟨h.bound, h.var_lt, h.param, h.written, h.fields⟩

theorem exec?_append (I : Interpretation V S) (p : Program) (m : Machine V S) (xs ys : List Statement) :
    Program.exec? I p m (xs ++ ys) = (Program.exec? I p m xs).bind fun m => Program.exec? I p m ys := by
  unfold Program.exec?
  rw [List.foldlM_append]
  rfl

/-- The statement of a call behind other statements, once the call itself is known to agree. -/
theorem Simulates.emit_call {n : NodeId} (node : Node) (before : List Statement) {call : Call}
    {m₁ m' : Machine V S} {outs : Nat → V} (hbefore : Program.exec? I p m before = some m₁)
    (hcall : Program.call? I p m₁ call = some (outs, m')) (h : Simulates p I d m' e)
    (hfresh : ∀ i, d.bindings.get? ⟨n, i⟩ = none) :
    Emits g p I d m n ((d.bindOutputs g n node).2.write (before ++ [.call (d.bindOutputs g n node).1 call]))
      (e.emit n node.outputs.length outs) := by
  have hb := h.bindOutputs (g := g) node outs hfresh
  refine ⟨⟨before ++ [.call (d.bindOutputs g n node).1 call],
    m'.bindResults (d.bindOutputs g n node).1 outs, ?_, ?_, ?_⟩, hb.others⟩
  · exact congrArg (· ++ _) hb.body
  · rw [exec?_append, hbefore, Option.bind_some]
    unfold Program.exec?
    rw [List.foldlM_cons]
    unfold Program.step?
    dsimp only
    rw [hcall]
    rfl
  · exact hb.simulates.write_body _

theorem Simulates.emitPlain (h : Simulates p I d m e) (hp : Declares p computed) {n : NodeId} {node : Node}
    (hn : (n, node) ∈ computed) (hnode : g.node? n = some node)
    (hsound : ∀ node', (n, node') ∈ computed → node' = node) (hdelay : node.delay = none)
    (hfresh : ∀ i, d.bindings.get? ⟨n, i⟩ = none) {args : List Operand} {vs : List V}
    (hvs : Program.values? I m args = some vs) {call : Call}
    (hcall : Program.Draft.Calls g p.fields n node args call) :
    ∃ e', Graph.evaluatePlain? I e n node vs = some e' ∧
      Emits g p I d m n ((d.bindOutputs g n node).2.write [.call (d.bindOutputs g n node).1 call]) e' := by
  unfold Graph.evaluatePlain?
  cases hcall with
  | operator left right rest hop =>
      rw [if_pos hop]
      obtain ⟨l, vs₁, hl, hvs₁, rfl⟩ := List.forall₂_cons_left_iff.mp (mapM_eq_some_iff.mp hvs)
      obtain ⟨r, vs₂, hr, -, rfl⟩ := List.forall₂_cons_left_iff.mp hvs₁
      refine ⟨_, rfl, Simulates.emit_call node [] rfl ?_ h hfresh⟩
      unfold Program.call?
      dsimp only
      rw [hl, Option.bind_some, hr]
      rfl
  | process hop hstate hname =>
      rw [hop, if_neg Bool.false_ne_true, if_pos hstate]
      obtain ⟨f, hf, rfl⟩ := Program.Draft.fieldName_eq_ok_iff.mp hname
      -- a node without a delay line uses its own field
      rw [delayWriteOf?_of_node? hnode, hdelay] at hf
      obtain ⟨node', hin, -, horigin⟩ := hp.fields.sound n f hf
      rw [hsound node' hin] at horigin
      obtain ⟨m', hm', -, hsim⟩ := h.callMethod hp hf .process vs
      rw [horigin] at hm' hsim
      refine ⟨_, rfl, Simulates.emit_call node [] rfl ?_ hsim hfresh⟩
      unfold Program.call?
      dsimp only
      rw [hvs, Option.bind_some]
      exact hm'
  | function hop hstate =>
      rw [hop, hstate, if_neg Bool.false_ne_true, if_neg Bool.false_ne_true]
      have hfun : node.isFunction = true := by
        unfold Node.isFunction Node.isDelay
        rw [hdelay, hop, hstate]
        rfl
      refine ⟨_, rfl, Simulates.emit_call node [] rfl ?_ h hfresh⟩
      unfold Program.call?
      dsimp only
      rw [hp.callee? hn hfun, Option.bind_some, hvs]
      rfl

theorem Simulates.emitRead (h : Simulates p I d m e) (hp : Declares p computed) {n writer : NodeId}
    {node : Node} (houts : node.outputs.length = 1) (hfresh : ∀ i, d.bindings.get? ⟨n, i⟩ = none) {f : Field}
    (hf : p.fields.get? writer = some f) (horigin : f.origin = node.origin) {args : List Operand} {vs : List V}
    (hvs : Program.values? I m args = some vs) {result : Option Nat} {results : List (Option Nat)}
    {bound : Program.Draft} (hbound : d.bindOutputs g n node = (result :: results, bound)) :
    Emits g p I d m n
      (bound.write [.call [result] (if writer ∈ d.written then .read f.name args else .feedbackRead f.name args)])
      (Graph.evaluateRead I e writer n node vs) := by
  -- there is one output, so there is one result
  have hone : results = [] := by
    obtain ⟨_, _, -, hsim⟩ := h.callMethod hp hf .read vs
    have hlen := (hsim.bindOutputs (g := g) node (fun i => (e.callMethod I f.origin writer .read vs).1 i) hfresh).length
    rw [hbound, houts] at hlen
    exact List.length_eq_zero_iff.mp (Nat.succ.inj hlen)
  rw [hone] at hbound
  obtain ⟨hresults, hdraft⟩ := Prod.ext_iff.mp hbound
  dsimp only at hresults hdraft
  rw [← hresults, ← hdraft]
  unfold Graph.evaluateRead
  dsimp only
  rw [← h.written, ← horigin]
  by_cases hw : writer ∈ d.written
  · rw [if_pos hw, if_pos hw]
    obtain ⟨m', hm', -, hsim⟩ := h.callMethod hp hf .read vs
    refine Simulates.emit_call node [] rfl ?_ hsim hfresh
    unfold Program.call?
    dsimp only
    rw [hvs, Option.bind_some]
    exact hm'
  · rw [if_neg hw, if_neg hw]
    obtain ⟨m', hm', -, hsim⟩ := h.callMethod hp hf .feedbackRead vs
    refine Simulates.emit_call node [] rfl ?_ hsim hfresh
    unfold Program.call?
    dsimp only
    rw [hvs, Option.bind_some]
    exact hm'

theorem Simulates.markWritten (h : Simulates p I d m e) (n : NodeId) :
    Simulates p I { d with written := d.written ++ [n] } m (e.markWritten n) :=
  ⟨h.bound, h.var_lt, h.param, congrArg (· ++ [n]) h.written, h.fields⟩

theorem Simulates.emitWrite (h : Simulates p I d m e) (hp : Declares p computed) {n : NodeId} {node : Node}
    (houts : node.outputs.length = 1) (hfresh : ∀ i, d.bindings.get? ⟨n, i⟩ = none) {f : Field}
    (hf : p.fields.get? n = some f) (horigin : f.origin = node.origin) {time value : Operand} {t v : V}
    (ht : time.value? I m.values = some t) (hv : value.value? I m.values = some v) {results : List (Option Nat)}
    {bound : Program.Draft} (hbound : { d with written := d.written ++ [n] }.bindOutputs g n node = (results, bound)) :
    Emits g p I d m n (bound.write (.write f.name value ::
      if results.any (·.isSome) then [.call (results.take 1) (.read f.name [time])] else []))
      (g.evaluateWrite I e n node t v) := by
  obtain ⟨hresults, hdraft⟩ := Prod.ext_iff.mp hbound
  dsimp only at hresults hdraft
  rw [← hresults, ← hdraft]
  -- behind the write
  obtain ⟨m₁, hm₁, hvalues, hsim₁⟩ := h.callMethod hp hf .write [v]
  have hsim := hsim₁.markWritten n
  have hwrite : Program.exec? I p m [.write f.name value] = some m₁ := by
    unfold Program.exec?
    rw [List.foldlM_cons]
    unfold Program.step?
    dsimp only
    rw [hv, Option.bind_some, hm₁]
    rfl
  have hb := hsim.bindOutputs (g := g) node (fun _ => v) hfresh
  have hconsumed : ({ d with written := d.written ++ [n] }.bindOutputs g n node).1.any (·.isSome)
      = g.isConsumed n node := hb.consumed
  unfold Graph.evaluateWrite
  dsimp only
  rw [hconsumed, ← horigin]
  cases hread : g.isConsumed n node with
  | false =>
      rw [if_neg (by simp), if_neg (by simp)]
      refine ⟨⟨[.write f.name value], m₁, congrArg (· ++ _) hb.body, hwrite, ?_⟩, hb.others⟩
      rw [hb.unread (hconsumed.trans hread)]
      exact hsim.write_body _
  | true =>
      rw [if_pos rfl, if_pos rfl]
      obtain ⟨m₂, hm₂, -, hsim₂⟩ := hsim.callMethod hp hf .read [t]
      rw [List.take_of_length_le (Nat.le_of_eq (hb.length.trans houts))]
      have hlook : Program.call? I p m₁ (.read f.name [time]) = some
          ((((e.callMethod I f.origin n .write [v]).2.markWritten n).callMethod I f.origin n .read [t]).1, m₂) := by
        unfold Program.call? Program.values?
        dsimp only
        rw [List.mapM_cons, List.mapM_nil, hvalues, ht]
        exact hm₂
      have hem := Simulates.emit_call (g := g) node [.write f.name value] hwrite hlook hsim₂ hfresh
      exact ⟨hem.statements, hem.others⟩

/-- The statements of a node do what invoking the node does. -/
theorem Simulates.emit (h : Simulates p I d m e) (hp : Declares p computed) (hg : Computes g computed)
    {n : NodeId} {node : Node} (hn : (n, node) ∈ computed) (hfresh : ∀ i, d.bindings.get? ⟨n, i⟩ = none)
    {d' : Program.Draft} (hemit : Program.Draft.emit g p.fields d (n, node) = .ok d') :
    ∃ e', g.evaluateNode? I e (n, node) = some e' ∧ Emits g p I d m n d' e' := by
  have hnode := hg.node? n node hn
  have hsame : ∀ k node₁ node₂, (k, node₁) ∈ computed → (k, node₂) ∈ computed → node₁ = node₂ := by
    intro k node₁ node₂ h₁ h₂
    have heq := (hg.node? k node₁ h₁).symm.trans (hg.node? k node₂ h₂)
    injection heq
  unfold Graph.evaluateNode?
  dsimp only
  cases Program.Draft.emit_eq_ok_iff.mp hemit with
  | call hplain hargs hcall =>
      obtain ⟨vs, hvs, hins⟩ := h.operands hargs
      rw [hins, Option.bind_some, hplain]
      exact h.emitPlain hp hn hnode (fun node' hin => hsame n node' node hin hn) hplain hfresh hvs hcall
  | write hwrite hargs hname hbound =>
      obtain ⟨vs, hvs, hins⟩ := h.operands hargs
      rw [hins, Option.bind_some, hwrite]
      obtain ⟨t, vs₁, ht, hvs₁, rfl⟩ := List.forall₂_cons_left_iff.mp (mapM_eq_some_iff.mp hvs)
      obtain ⟨v, vs₂, hv, -, rfl⟩ := List.forall₂_cons_left_iff.mp hvs₁
      obtain ⟨f, hf, rfl⟩ := Program.Draft.fieldName_eq_ok_iff.mp hname
      rw [delayWriteOf?_of_node? hnode, hwrite] at hf
      obtain ⟨node', hin, -, hkind⟩ := hp.fields.sound n f hf
      rw [hsame n node' node hin hn] at hkind
      obtain ⟨-, houts⟩ := hg.delay n node hn (Node.isDelay_of_delay_eq hwrite)
      exact ⟨_, rfl, h.emitWrite hp houts hfresh hf hkind ht hv hbound⟩
  | read writer hread hargs hname hbound =>
      obtain ⟨vs, hvs, hins⟩ := h.operands hargs
      rw [hins, Option.bind_some, hread]
      obtain ⟨f, hf, rfl⟩ := Program.Draft.fieldName_eq_ok_iff.mp hname
      rw [delayWriteOf?_of_node? hnode, hread] at hf
      obtain ⟨horigin, houts⟩ := hg.delay n node hn (Node.isDelay_of_delay_eq hread)
      obtain ⟨wnode, hin, -, hkind⟩ := hp.fields.sound writer f hf
      -- the owner of the line is a delay too, so both are of one kind
      obtain ⟨found, hfound, hwrite⟩ := hg.linked n node writer hnode hread
      rw [hg.node? writer wnode hin] at hfound
      injection hfound with hfound
      have hisdelay : wnode.isDelay = true := Node.isDelay_of_isDelayWrite (hfound ▸ hwrite)
      have hkind' : f.origin = node.origin := by
        rw [hkind, (hg.delay writer wnode hin hisdelay).1, horigin]
      exact ⟨_, rfl, h.emitRead hp houts hfresh hf hkind' hvs hbound⟩

end Emit

end SignalGraph
