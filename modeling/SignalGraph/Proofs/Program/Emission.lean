import SignalGraph.Program.Generate
import SignalGraph.Proofs.Sequence

/-!
# What is written for a node

How a draft goes on with a node is said once: a node without a part in a delay line is called, the owner of a line
writes it and looks into it if its output is read, and a reader looks into it (`emit_eq_ok_iff`). What the statements do,
which names they use and what they need follows from this case by case.
-/

namespace SignalGraph.Program.Draft

variable {g : Graph} {fields : Table NodeId Field} {d d' : Draft} {n : NodeId} {node : Node}

/-! ## What is used -/

/-- What stands for an input is zero, or what its source is bound to. -/
theorem operand_eq_ok_iff {dst : InPort} {o : Operand} : d.operand g dst = .ok o ↔
    g.sourceOf? dst = none ∧ o = .zero ∨ ∃ src, g.sourceOf? dst = some src ∧ d.bindings.get? src = some o := by
  unfold operand
  cases g.sourceOf? dst with
  | none => simp [eq_comm]
  | some src => cases hbound : d.bindings.get? src <;> simp [hbound]

theorem length_of_operands {args : List Operand} (h : d.operands g n node = .ok args) :
    args.length = node.inputs.length := by
  rw [← (mapM_eq_ok_iff.mp h).length_eq, List.length_range]

theorem fieldName_eq_ok_iff {name : String} : fieldName g fields n = .ok name ↔
    ∃ f, fields.get? ((g.delayWriteOf? n).getD n) = some f ∧ f.name = name := by
  unfold fieldName
  dsimp only
  cases fields.get? ((g.delayWriteOf? n).getD n) <;> simp

/-- While outputs are bound, no statement is written. -/
theorem bindOutputs_keeps (d : Draft) (g : Graph) (n : NodeId) (node : Node) :
    (d.bindOutputs g n node).2.body = d.body ∧ (d.bindOutputs g n node).2.written = d.written := by
  refine List.foldlRecOn
    (motive := fun (acc : List (Option Nat) × Draft) => acc.2.body = d.body ∧ acc.2.written = d.written)
    (List.range node.outputs.length) _ ⟨rfl, rfl⟩ ?_
  intro acc hacc i _
  dsimp only
  unfold bindOutput
  split
  · exact hacc
  · exact hacc

/-! ## What is written -/

/-- What a node without a part in a delay line calls. -/
inductive Calls (g : Graph) (fields : Table NodeId Field) (n : NodeId) (node : Node) : List Operand → Call → Prop where
  /-- An operator stands between two operands. -/
  | operator (left right : Operand) (rest : List Operand) (hop : node.isOperator = true) :
      Calls g fields n node (left :: right :: rest) (.operator node.name left right)
  /-- A node that keeps something is called through its field. -/
  | process {args : List Operand} {field : String} (hop : node.isOperator = false) (hstate : node.stateful = true)
      (hfield : fieldName g fields n = .ok field) : Calls g fields n node args (.process field args)
  /-- Other nodes are functions. -/
  | function {args : List Operand} (hop : node.isOperator = false) (hstate : node.stateful = false) :
      Calls g fields n node args (.function node.origin args)

theorem callOf_eq_ok_iff {args : List Operand} {call : Call} :
    callOf g fields args n node = .ok call ↔ Calls g fields n node args call := by
  unfold callOf
  constructor
  · intro h
    split at h
    · rename_i hop
      split at h
      · injection h with h
        exact h ▸ .operator _ _ _ hop
      · exact absurd h (by simp)
    · rename_i hop
      rw [Bool.not_eq_true] at hop
      split at h
      · rename_i hstate
        obtain ⟨field, hfield, rfl⟩ := Except.map_eq_ok_iff.mp h
        exact .process hop hstate hfield
      · rename_i hstate
        injection h with h
        exact h ▸ .function hop (Bool.eq_false_iff.mpr hstate)
  · intro h
    cases h with
    | operator left right rest hop => rw [if_pos hop]
    | process hop hstate hfield =>
        rw [hop, if_neg Bool.false_ne_true, if_pos hstate]
        exact Except.map_eq_ok_iff.mpr ⟨_, hfield, rfl⟩
    | function hop hstate => rw [hop, hstate, if_neg Bool.false_ne_true, if_neg Bool.false_ne_true]

/-- How a draft goes on with a node. -/
inductive Emission (g : Graph) (fields : Table NodeId Field) (d : Draft) (n : NodeId) (node : Node) : Draft → Prop where
  /-- A node without a part in a line is called. -/
  | call {args : List Operand} {call : Call} (hplain : node.delay = none) (hargs : d.operands g n node = .ok args)
      (hcall : Calls g fields n node args call) :
      Emission g fields d n node ((d.bindOutputs g n node).2.write [.call (d.bindOutputs g n node).1 call])
  /-- The owner of a line writes it, and looks into it if its output is read. -/
  | write {time value : Operand} {rest : List Operand} {field : String} {results : List (Option Nat)} {bound : Draft}
      (hwrite : node.delay = some .write) (hargs : d.operands g n node = .ok (time :: value :: rest))
      (hfield : fieldName g fields n = .ok field)
      (hbound : { d with written := d.written ++ [n] }.bindOutputs g n node = (results, bound)) :
      Emission g fields d n node (bound.write (.write field value ::
        if results.any (·.isSome) then [.call (results.take 1) (.read field [time])] else []))
  /-- A reader looks into its line, and whether the line has been written decides by which method. -/
  | read (writer : NodeId) {args : List Operand} {field : String} {result : Option Nat} {results : List (Option Nat)}
      {bound : Draft} (hread : node.delay = some (.read writer)) (hargs : d.operands g n node = .ok args)
      (hfield : fieldName g fields n = .ok field) (hbound : d.bindOutputs g n node = (result :: results, bound)) :
      Emission g fields d n node
        (bound.write [.call [result] (if writer ∈ d.written then .read field args else .feedbackRead field args)])

theorem emit_eq_ok_iff : emit g fields d (n, node) = .ok d' ↔ Emission g fields d n node d' := by
  constructor
  · intro h
    obtain ⟨args, hargs, h⟩ := Except.bind_eq_ok_iff.mp h
    dsimp only at h
    cases hdelay : node.delay with
    | none =>
        rw [hdelay] at h
        obtain ⟨call, hcall, h⟩ := Except.bind_eq_ok_iff.mp h
        injection h with h
        exact h ▸ .call hdelay hargs (callOf_eq_ok_iff.mp hcall)
    | some link =>
        rw [hdelay] at h
        cases link with
        | write =>
            obtain ⟨field, hfield, h⟩ := Except.bind_eq_ok_iff.mp h
            unfold emitDelayWrite at h
            split at h
            · injection h with h
              exact h ▸ .write hdelay hargs hfield rfl
            · exact absurd h (by simp)
        | read writer =>
            obtain ⟨field, hfield, h⟩ := Except.bind_eq_ok_iff.mp h
            unfold emitDelayRead at h
            dsimp only at h
            split at h
            · exact absurd h (by simp)
            · rename_i result results bound hbound
              injection h with h
              exact h ▸ .read writer hdelay hargs hfield hbound
  · intro h
    cases h with
    | call hplain hargs hcall =>
        refine Except.bind_eq_ok_iff.mpr ⟨_, hargs, ?_⟩
        dsimp only
        rw [hplain]
        exact Except.bind_eq_ok_iff.mpr ⟨_, callOf_eq_ok_iff.mpr hcall, rfl⟩
    | write hwrite hargs hfield hbound =>
        refine Except.bind_eq_ok_iff.mpr ⟨_, hargs, ?_⟩
        dsimp only
        rw [hwrite]
        refine Except.bind_eq_ok_iff.mpr ⟨_, hfield, ?_⟩
        unfold emitDelayWrite
        dsimp only
        rw [hbound]
    | read writer hread hargs hfield hbound =>
        refine Except.bind_eq_ok_iff.mpr ⟨_, hargs, ?_⟩
        dsimp only
        rw [hread]
        refine Except.bind_eq_ok_iff.mpr ⟨_, hfield, ?_⟩
        unfold emitDelayRead
        dsimp only
        rw [hbound]

end SignalGraph.Program.Draft
