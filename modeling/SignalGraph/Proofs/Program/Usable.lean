import SignalGraph.Proofs.Program.Success

/-!
# Which arrangements have a program

An arrangement may be older than the graph, or made by hand: it may list nodes that are gone, leave nodes out, list
them twice, or list a node before what feeds it. A program is generated of it all the same if every statement finds
what it needs, and otherwise generation tells what it misses.

What stands for an output is settled in three places. Parameters and literals are bound before the first statement,
for all input terminals of the graph and for the numbers that are listed; fields are given out before the first
statement too, so a line may be read before it is written; and variables are bound by the statements one after the
other. `Supplied` says of a draft which connected outputs are bound: exactly those of nodes that are `AtHand`. Each
statement keeps it, and each can be written exactly if what feeds its node is at hand.
-/

namespace SignalGraph

variable {g : Graph}

theorem Node.isComputed_iff {node : Node} :
    node.isComputed = true ↔ node.isTerminal = false ∧ node.isConstant = false := by
  unfold isComputed
  rw [Bool.and_eq_true, Bool.not_eq_true', Bool.not_eq_true', and_comm]

/-! ## What an arrangement must provide -/

namespace Graph

/--
Something stands for what a node gives when the nodes in `done` have been written: it is an input terminal of the
graph, a number that is listed anywhere, or one of the nodes in `done` and no terminal.
-/
def AtHand (g : Graph) (listed done : List NodeId) (s : NodeId) : Prop :=
  s ∈ g.inPorts ∨ ∃ node, g.node? s = some node ∧
    (node.isConstant = true ∧ s ∈ listed ∨ node.isTerminal = false ∧ s ∈ done)

/-- The nodes of an arrangement can be written in its order. -/
structure Usable (g : Graph) (listed : List NodeId) : Prop where
  /-- Every listed node is in the graph. -/
  present : ∀ n ∈ listed, ∃ node, g.node? n = some node
  /-- What feeds a listed node is at hand by then, wherever the node is listed. Terminals and numbers need nothing. -/
  inputs : ∀ before n after, listed = before ++ n :: after → ∀ node, g.node? n = some node →
    node.isTerminal = false → node.isConstant = false → ∀ s i, g.Connects s ⟨n, i⟩ → g.AtHand listed before s.node
  /-- What feeds an output terminal is at hand in the end. -/
  outputs : ∀ n ∈ g.outPorts, ∀ s i, g.Connects s ⟨n, i⟩ → g.AtHand listed listed s.node
  /-- With a reader of a line its owner is listed, before it or behind it. -/
  lines : ∀ n ∈ listed, ∀ node w, g.node? n = some node → node.delay = some (.read w) → w ∈ listed

end Graph

/-! ## What generation can fail with -/

namespace Program

/-- A step of the generation that fails for the causes in `P` only. -/
def FailsWith {α : Type} (P : GenerateError → Prop) (x : Except GenerateError α) : Prop := ∀ e, x = .error e → P e

section FailsWith

variable {α β : Type} {P : GenerateError → Prop} {x : Except GenerateError α}

/-- What can fail for no cause succeeds. -/
theorem failsWith_false_iff : FailsWith (fun _ => False) x ↔ ∃ a, x = .ok a := by
  unfold FailsWith
  cases x <;> simp

theorem FailsWith.ok (a : α) : FailsWith P (.ok a) := by
  intro e h
  exact absurd h (by simp)

theorem FailsWith.error {e : GenerateError} (he : P e) : FailsWith P (.error e : Except GenerateError α) := by
  intro e' h
  injection h with h
  exact h ▸ he

theorem FailsWith.bind {f : α → Except GenerateError β} (hx : FailsWith P x) (hf : ∀ a, x = .ok a → FailsWith P (f a)) :
    FailsWith P (x >>= f) := by
  cases x with
  | ok a => exact hf a rfl
  | error e => exact FailsWith.error (hx e rfl)

theorem FailsWith.map {f : α → β} (hx : FailsWith P x) : FailsWith P (x.map f) := by
  cases x with
  | ok a => exact FailsWith.ok (f a)
  | error e => exact FailsWith.error (hx e rfl)

theorem FailsWith.mapM {f : α → Except GenerateError β} {xs : List α} (hf : ∀ x ∈ xs, FailsWith P (f x)) :
    FailsWith P (xs.mapM f) := by
  induction xs with
  | nil => exact FailsWith.ok []
  | cons x xs ih =>
      rw [List.mapM_cons]
      refine (hf x List.mem_cons_self).bind fun y _ => ?_
      exact (ih fun x' hx' => hf x' (List.mem_cons_of_mem _ hx')).bind fun ys _ => FailsWith.ok _

theorem FailsWith.foldlM {f : β → α → Except GenerateError β} {xs : List α}
    (hf : ∀ s, ∀ x ∈ xs, FailsWith P (f s x)) (s : β) : FailsWith P (xs.foldlM f s) := by
  induction xs generalizing s with
  | nil => exact FailsWith.ok s
  | cons x xs ih =>
      rw [List.foldlM_cons]
      exact (hf s x List.mem_cons_self).bind fun s' _ => ih (fun t x' hx' => hf t x' (List.mem_cons_of_mem _ hx')) s'

end FailsWith

variable {P : GenerateError → Prop}

theorem failsWith_lookUp {ns : List NodeId} (h : ∀ n ∈ ns, g.node? n = none → P (.missingNode n)) :
    FailsWith P (lookUp g ns) := by
  refine FailsWith.mapM fun n hn => ?_
  split
  · exact FailsWith.ok _
  · rename_i hnone
    exact FailsWith.error (h n hn hnone)

namespace Draft

variable {d d' : Draft} {n : NodeId} {node : Node} {fields : Table NodeId Field} {args : List Operand}

theorem failsWith_operand {dst : InPort} (h : ∀ s, g.sourceOf? dst = some s → s ∉ d.bindings.keys → P (.unbound s)) :
    FailsWith P (d.operand g dst) := by
  unfold operand
  split
  · exact FailsWith.ok _
  · rename_i s hs
    split
    · exact FailsWith.ok _
    · rename_i hnone
      exact FailsWith.error (h s hs (Table.get?_eq_none_iff.mp hnone))

theorem failsWith_fieldName
    (h : (g.delayWriteOf? n).getD n ∉ fields.keys → P (.missingNode ((g.delayWriteOf? n).getD n))) :
    FailsWith P (fieldName g fields n) := by
  unfold fieldName
  dsimp only
  split
  · exact FailsWith.ok _
  · rename_i hnone
    exact FailsWith.error (h (Table.get?_eq_none_iff.mp hnone))

theorem failsWith_callOf (hregular : node.Regular) (hlen : args.length = node.inputs.length)
    (hname : node.stateful = true → FailsWith P (fieldName g fields n)) :
    FailsWith P (callOf g fields args n node) := by
  unfold callOf
  split
  · rename_i hop
    obtain ⟨left, right, rfl⟩ := List.length_eq_two.mp (hlen.trans (hregular.operator hop))
    exact FailsWith.ok _
  · split
    · rename_i hstate
      exact (hname hstate).map
    · exact FailsWith.ok _

/-- A node with the ports of its kind fails for want of an operand or of a field, and for nothing else. -/
theorem failsWith_emit (hregular : node.Regular) (hargs : FailsWith P (d.operands g n node))
    (hname : node.delay ≠ none ∨ node.stateful = true → FailsWith P (fieldName g fields n)) :
    FailsWith P (emit g fields d (n, node)) := by
  unfold emit
  refine FailsWith.bind hargs fun args hargs => ?_
  have hlen := length_of_operands hargs
  cases hdelay : node.delay with
  | none =>
      refine FailsWith.bind (failsWith_callOf hregular hlen fun hstate => hname (Or.inr hstate)) fun call _ => ?_
      exact FailsWith.ok _
  | some link =>
      have hname := hname (Or.inl (by simp [hdelay]))
      cases link with
      | write =>
          refine FailsWith.bind hname fun field _ => ?_
          obtain ⟨time, value, rfl⟩ := List.length_eq_two.mp (hlen.trans (hregular.line hdelay).2)
          exact FailsWith.ok _
      | read w =>
          refine FailsWith.bind hname fun field _ => ?_
          obtain ⟨hresults, -⟩ := binds_bindOutputs d g n node
          rw [hregular.look w hdelay] at hresults
          unfold emitDelayRead
          dsimp only
          cases hbound : d.bindOutputs g n node with
          | mk results d' =>
              rw [hbound] at hresults
              match results, hresults with
              | result :: _, _ => exact FailsWith.ok _

/-! ## What a statement needs and binds -/

/-- An operand can be given exactly if its source is bound. -/
theorem exists_operand_iff (hreg : g.Registered) {dst : InPort} :
    (∃ o, d.operand g dst = .ok o) ↔ ∀ s, g.Connects s dst → s ∈ d.bindings.keys := by
  constructor
  · rintro ⟨o, ho⟩ s hs
    have hsource := hreg.sourceOf?_eq_some_iff.mpr hs
    rcases operand_eq_ok_iff.mp ho with ⟨hnone, -⟩ | ⟨src, hsrc, hfound⟩
    · exact absurd (hsource.symm.trans hnone) (by simp)
    · obtain rfl := Option.some.inj (hsource.symm.trans hsrc)
      exact Table.mem_keys_iff.mpr ⟨o, hfound⟩
  · intro h
    refine failsWith_false_iff.mp (failsWith_operand fun s hs hnot => ?_)
    exact hnot (h s (hreg.sourceOf?_eq_some_iff.mp hs))

theorem exists_operands_iff (hreg : g.Registered) (hn : g.node? n = some node) :
    (∃ args, d.operands g n node = .ok args) ↔ ∀ s i, g.Connects s ⟨n, i⟩ → s ∈ d.bindings.keys := by
  refine exists_mapM_ok_iff.trans ⟨fun h s i hs => ?_, fun h i _ => (exists_operand_iff hreg).mpr fun s hs => h s i hs⟩
  obtain ⟨c, hc⟩ := hs
  -- the connection ends at a port of the node, which is one of those that operands are given for
  obtain ⟨found, hfound, hlt⟩ := Graph.exists_incoming?_iff.mp (hreg.dst_listed c _ hc)
  obtain rfl := Option.some.inj (hn.symm.trans hfound)
  exact (exists_operand_iff hreg).mp (h i (List.mem_range.mpr hlt)) s ⟨c, hc⟩

theorem exists_fieldName_iff :
    (∃ name, fieldName g fields n = .ok name) ↔ (g.delayWriteOf? n).getD n ∈ fields.keys := by
  rw [Table.mem_keys_iff]
  constructor
  · rintro ⟨name, hname⟩
    obtain ⟨f, hf, -⟩ := fieldName_eq_ok_iff.mp hname
    exact ⟨f, hf⟩
  · rintro ⟨f, hf⟩
    exact ⟨f.name, fieldName_eq_ok_iff.mpr ⟨f, hf, rfl⟩⟩

/-- With the fields given out, a statement needs what feeds its node, and a reader of a line needs its owner. -/
theorem exists_emit_iff (hn : g.node? n = some node) (hregular : node.Regular)
    (hfield : node.hasField = true → n ∈ fields.keys) :
    (∃ d', emit g fields d (n, node) = .ok d') ↔
      (∃ args, d.operands g n node = .ok args) ∧ ∀ w, node.delay = some (.read w) → w ∈ fields.keys := by
  have howner := delayWriteOf?_of_node? hn
  constructor
  · rintro ⟨d', h⟩
    cases emit_eq_ok_iff.mp h with
    | call hplain hargs _ => exact ⟨⟨_, hargs⟩, fun w hread => absurd (hplain.symm.trans hread) (by simp)⟩
    | write hwrite hargs _ _ => exact ⟨⟨_, hargs⟩, fun w hread => absurd (hwrite.symm.trans hread) (by simp)⟩
    | read writer hread hargs hfield _ =>
        refine ⟨⟨_, hargs⟩, fun w hread' => ?_⟩
        have hkey := exists_fieldName_iff.mp ⟨_, hfield⟩
        rw [howner, hread'] at hkey
        exact hkey
  · rintro ⟨hargs, hread⟩
    refine failsWith_false_iff.mp (failsWith_emit hregular (failsWith_false_iff.mpr hargs) fun hstate => ?_)
    refine failsWith_fieldName fun hnot => hnot ?_
    rw [howner]
    -- a reader of a line looks for the owner of the line, and every other node for itself
    cases hdelay : node.delay with
    | none =>
        refine hfield ?_
        unfold Node.hasField Node.isDelayRead Node.isDelay
        rw [hstate.resolve_left fun hne => hne hdelay, hdelay]
        rfl
    | some link =>
        cases link with
        | write =>
            refine hfield ?_
            unfold Node.hasField Node.isDelayRead
            rw [(hregular.line hdelay).1, Node.isDelayWrite_iff.mpr hdelay]
            simp
        | read w => exact hread w hdelay

theorem mem_keys_bindOutput {port p : OutPort} : p ∈ (d.bindOutput g port).2.bindings.keys ↔
    p ∈ d.bindings.keys ∨ p = port ∧ g.consumersOf port ≠ [] := by
  unfold bindOutput
  split
  · rename_i hempty
    simp [List.isEmpty_iff.mp hempty]
  · rename_i hne
    rw [List.isEmpty_iff] at hne
    rw [Table.mem_keys_set, and_iff_left hne, or_comm]

theorem mem_keys_bindOutputs {p : OutPort} : p ∈ (d.bindOutputs g n node).2.bindings.keys ↔
    p ∈ d.bindings.keys ∨ p.node = n ∧ p.index < node.outputs.length ∧ g.consumersOf p ≠ [] := by
  unfold bindOutputs
  generalize node.outputs.length = count
  induction count with
  | zero => simp
  | succ k ih =>
      rw [List.range_succ, List.foldl_append, List.foldl_cons, List.foldl_nil]
      refine mem_keys_bindOutput.trans ((or_congr_left ih).trans ?_)
      rw [or_assoc]
      refine or_congr_right ⟨?_, ?_⟩
      · rintro (⟨hnode, hlt, hne⟩ | ⟨rfl, hne⟩)
        · exact ⟨hnode, Nat.lt_succ_of_lt hlt, hne⟩
        · exact ⟨rfl, Nat.lt_succ_self k, hne⟩
      · rintro ⟨rfl, hlt, hne⟩
        rcases Nat.lt_succ_iff_lt_or_eq.mp hlt with hlt | rfl
        · exact Or.inl ⟨rfl, hlt, hne⟩
        · exact Or.inr ⟨rfl, hne⟩

/-- A statement binds the outputs of its node that are read, and nothing else. -/
theorem mem_keys_emit (h : emit g fields d (n, node) = .ok d') (p : OutPort) : p ∈ d'.bindings.keys ↔
    p ∈ d.bindings.keys ∨ p.node = n ∧ p.index < node.outputs.length ∧ g.consumersOf p ≠ [] := by
  cases emit_eq_ok_iff.mp h with
  | call => exact mem_keys_bindOutputs
  | write _ _ _ hbound =>
      refine Iff.trans ?_ (mem_keys_bindOutputs (d := { d with written := d.written ++ [n] }))
      rw [hbound]
      rfl
  | read writer _ _ _ hbound =>
      refine Iff.trans ?_ mem_keys_bindOutputs
      rw [hbound]
      rfl

/-! ## What is bound -/

/-- Of the connected outputs, those of nodes at hand are bound, and no others. -/
def Supplied (g : Graph) (listed done : List NodeId) (d : Draft) : Prop :=
  ∀ s t, g.Connects s t → (s ∈ d.bindings.keys ↔ g.AtHand listed done s.node)

variable {listed done : List NodeId}

/-- With one more node written, that node is at hand too. -/
theorem atHand_concat (hn : g.node? n = some node) (hterm : node.isTerminal = false) {m : NodeId} :
    g.AtHand listed (done ++ [n]) m ↔ g.AtHand listed done m ∨ m = n := by
  unfold Graph.AtHand
  constructor
  · rintro (hin | ⟨found, hfound, hconst | ⟨hnot, hmem⟩⟩)
    · exact Or.inl (Or.inl hin)
    · exact Or.inl (Or.inr ⟨found, hfound, Or.inl hconst⟩)
    · rcases List.mem_append.mp hmem with hmem | hmem
      · exact Or.inl (Or.inr ⟨found, hfound, Or.inr ⟨hnot, hmem⟩⟩)
      · exact Or.inr (List.mem_singleton.mp hmem)
  · rintro ((hin | ⟨found, hfound, hconst | ⟨hnot, hmem⟩⟩) | rfl)
    · exact Or.inl hin
    · exact Or.inr ⟨found, hfound, Or.inl hconst⟩
    · exact Or.inr ⟨found, hfound, Or.inr ⟨hnot, List.mem_append_left _ hmem⟩⟩
    · exact Or.inr ⟨node, hn, Or.inr ⟨hterm, by simp⟩⟩

theorem Supplied.emit (h : Supplied g listed done d) (hreg : g.Registered) (hn : g.node? n = some node)
    (hterm : node.isTerminal = false) (hemit : emit g fields d (n, node) = .ok d') :
    Supplied g listed (done ++ [n]) d' := by
  rintro s t ⟨c, hc⟩
  rw [mem_keys_emit hemit, h s t ⟨c, hc⟩, atHand_concat hn hterm]
  refine or_congr_right ⟨And.left, fun hsn => ⟨hsn, ?_, ?_⟩⟩
  · -- an output that is connected is one of the node, and it is read
    obtain ⟨found, hfound, hlt⟩ := Graph.exists_outgoing?_iff.mp (hreg.src_listed c _ hc)
    rw [hsn] at hfound
    obtain rfl := Option.some.inj (hn.symm.trans hfound)
    exact hlt
  · exact List.ne_nil_of_mem (hreg.mem_consumersOf.mpr ⟨c, hc⟩)

/-- The next statement can be written if what feeds its node is at hand and the line that it reads has a field. -/
theorem Supplied.exists_emit_iff (h : Supplied g listed done d) (hreg : g.Registered) (hn : g.node? n = some node)
    (hregular : node.Regular) (hfield : node.hasField = true → n ∈ fields.keys) :
    (∃ d', Draft.emit g fields d (n, node) = .ok d') ↔ (∀ s i, g.Connects s ⟨n, i⟩ → g.AtHand listed done s.node)
      ∧ ∀ w, node.delay = some (.read w) → w ∈ fields.keys := by
  rw [Draft.exists_emit_iff hn hregular hfield, exists_operands_iff hreg hn]
  refine and_congr_left' (forall_congr' fun s => forall_congr' fun i => ?_)
  exact ⟨fun hkey hs => (h s _ hs).mp (hkey hs), fun hat hs => (h s _ hs).mpr (hat hs)⟩

end Draft

/-! ## Before the first statement -/

theorem mem_keys_fieldsOf {computed : List (NodeId × Node)} {n : NodeId} :
    n ∈ (fieldsOf computed).keys ↔ ∃ node, (n, node) ∈ computed ∧ node.hasField = true := by
  have hfold : ∀ (es : List (NodeId × Node)) (t : Table NodeId Field),
      n ∈ (es.foldl (fun t e => t.set e.1 ⟨Identifier.ofText e.2.name "node" ++ "_" ++ toString t.size, e.2.origin⟩)
        t).keys ↔ n ∈ es.map Prod.fst ∨ n ∈ t.keys := by
    intro es
    induction es with
    | nil => simp
    | cons e es ih =>
        intro t
        rw [List.foldl_cons, ih, Table.mem_keys_set, List.map_cons, List.mem_cons, or_assoc, or_left_comm]
  refine (hfold _ ∅).trans ?_
  rw [List.mem_map]
  constructor
  · rintro (⟨⟨_, node⟩, he, rfl⟩ | hnil)
    · exact ⟨node, List.mem_filter.mp he⟩
    · exact absurd hnil List.not_mem_nil
  · rintro ⟨node, hn, hfield⟩
    exact Or.inl ⟨(n, node), List.mem_filter.mpr ⟨hn, hfield⟩, rfl⟩

section Start

variable {inputs : List NodeId} {params : List String} {entries : List (NodeId × Node)} {n : NodeId}

theorem param_mem_startBindings (hparams : params.length = inputs.length) (hn : n ∈ inputs) :
    (⟨n, 0⟩ : OutPort) ∈ (startBindings inputs params entries).keys := by
  obtain ⟨i, hi⟩ := List.mem_iff_getElem?.mp hn
  have hlt : i < params.length := by
    rw [hparams]
    exact (List.getElem?_eq_some_iff.mp hi).1
  have hzip : (n, params[i]) ∈ inputs.zip params :=
    List.mem_iff_getElem?.mpr ⟨i, List.getElem?_zip_eq_some.mpr ⟨hi, List.getElem?_eq_getElem hlt⟩⟩
  refine Table.mem_keys_setAll.mpr (Or.inl ?_)
  rw [List.map_append, List.mem_append]
  exact Or.inl (List.mem_map.mpr ⟨_, List.mem_map.mpr ⟨_, hzip, rfl⟩, rfl⟩)

theorem number_mem_startBindings {node : Node} (hn : (n, node) ∈ entries) (hconst : node.isConstant = true) :
    (⟨n, 0⟩ : OutPort) ∈ (startBindings inputs params entries).keys := by
  obtain ⟨v, hv⟩ := Node.signal?_of_isConstant hconst
  refine Table.mem_keys_setAll.mpr (Or.inl ?_)
  rw [List.map_append, List.mem_append]
  refine Or.inr (List.mem_map.mpr ⟨(⟨n, 0⟩, .literal v), List.mem_filterMap.mpr ⟨_, hn, ?_⟩, rfl⟩)
  dsimp only
  rw [hv]
  rfl

end Start

theorem supplied_start (hwf : g.WellFormed) (hregular : ∀ n node, g.node? n = some node → node.Regular)
    {params : List String} (hparams : params.length = g.inPorts.length) {ns : List NodeId}
    {entries : List (NodeId × Node)} (hentries : lookUp g ns = .ok entries) :
    Draft.Supplied g ns [] { bindings := startBindings g.inPorts params entries } := by
  obtain ⟨heq, hids, hnodes⟩ := lookUp_eq_ok hentries
  rintro s t ⟨c, hc⟩
  obtain ⟨node, hnode, hlt⟩ := Graph.exists_outgoing?_iff.mp (hwf.src_listed c _ hc)
  dsimp only at hnode hlt
  have hshape := hregular s.node node hnode
  have hport : s.index = 0 → s = ⟨s.node, 0⟩ := fun hzero => by rw [← hzero]
  constructor
  · intro hs
    obtain ⟨o, ho⟩ := Table.mem_keys_iff.mp hs
    rcases startBindings_cases ho with ⟨i, n, name, hn, -, rfl, -⟩ | ⟨n, found, v, hin, hv, rfl, -⟩
    · exact Or.inl (List.mem_of_getElem? hn)
    · have hlisted : n ∈ ns := hids ▸ List.mem_map_of_mem (f := Prod.fst) hin
      exact Or.inr ⟨found, hnodes n found hin, Or.inl ⟨Node.isConstant_of_signal? hv, hlisted⟩⟩
  · rintro (hin | ⟨found, hfound, ⟨hconst, hlisted⟩ | ⟨-, hnil⟩⟩)
    · -- an input terminal has one output
      obtain ⟨found, hfound, hterm⟩ := (hwf.mem_inPorts s.node).mp hin
      obtain rfl := Option.some.inj (hnode.symm.trans hfound)
      rw [(hshape.onePort.1 hterm).2] at hlt
      rw [hport (by omega)]
      exact param_mem_startBindings hparams hin
    · -- and so has a number
      obtain rfl := Option.some.inj (hnode.symm.trans hfound)
      rw [hshape.number hconst] at hlt
      rw [hport (by omega)]
      have hin : (s.node, node) ∈ entries := by
        rw [heq]
        exact List.mem_filterMap.mpr ⟨s.node, hlisted, by rw [hnode]; rfl⟩
      exact number_mem_startBindings hin hconst
    · exact absurd hnil List.not_mem_nil

end Program

namespace Graph

/-! ## The statements in order -/

/-- A computed node comes behind those that are listed before it. -/
theorem computed_eq_append_cons_iff {ns : List NodeId} {done todo : List (NodeId × Node)} {n : NodeId} {node : Node} :
    g.computed ns = done ++ (n, node) :: todo ↔ ∃ before after, ns = before ++ n :: after
      ∧ g.computed before = done ∧ (g.node? n = some node ∧ node.isComputed = true) ∧ g.computed after = todo := by
  have hentry : ∀ m, (((g.node? m).map (m, ·)).filter (·.2.isComputed) = some (n, node)) ↔
      m = n ∧ g.node? n = some node ∧ node.isComputed = true := by
    intro m
    rw [Option.filter_eq_some_iff, Option.map_eq_some_iff]
    constructor
    · rintro ⟨⟨found, hfound, heq⟩, hcomp⟩
      injection heq with hm hnode
      subst hm hnode
      exact ⟨rfl, hfound, hcomp⟩
    · rintro ⟨rfl, hnode, hcomp⟩
      exact ⟨⟨node, hnode, rfl⟩, hcomp⟩
  have hview : ∀ ns, g.computed ns = ns.filterMap fun m => ((g.node? m).map (m, ·)).filter (·.2.isComputed) :=
    fun ns => List.filter_filterMap
  constructor
  · intro h
    rw [hview] at h
    obtain ⟨front, back, rfl, hfront, hback⟩ := List.filterMap_eq_append_iff.mp h
    obtain ⟨skipped, m, after, rfl, hskipped, hm, hafter⟩ := List.filterMap_eq_cons_iff.mp hback
    obtain ⟨rfl, hnode⟩ := (hentry m).mp hm
    refine ⟨front ++ skipped, after, (List.append_assoc _ _ _).symm, ?_, hnode, (hview after).trans hafter⟩
    rw [hview, List.filterMap_append, List.filterMap_eq_nil_iff.mpr hskipped, List.append_nil, hfront]
  · rintro ⟨before, after, rfl, rfl, ⟨hnode, hcomp⟩, rfl⟩
    rw [computed_append, computed_cons hnode hcomp]

theorem atHand_computed {ns before : List NodeId} (hsub : before ⊆ ns) {m : NodeId} :
    g.AtHand ns ((g.computed before).map Prod.fst) m ↔ g.AtHand ns before m := by
  unfold AtHand
  refine or_congr_right (exists_congr fun node => and_congr_right fun hnode => ?_)
  constructor
  · rintro (hconst | ⟨hterm, hmem⟩)
    · exact Or.inl hconst
    · exact Or.inr ⟨hterm, (g.computed_sublist before).subset hmem⟩
  · rintro (hconst | ⟨hterm, hmem⟩)
    · exact Or.inl hconst
    · -- a number needs no statement, but being listed is enough for it
      cases hconst : node.isConstant with
      | true => exact Or.inl ⟨rfl, hsub hmem⟩
      | false =>
          have hcomp := Node.isComputed_iff.mpr ⟨hterm, hconst⟩
          exact Or.inr ⟨hterm, List.mem_map.mpr ⟨(m, node), mem_computed.mpr ⟨hmem, hnode, hcomp⟩, rfl⟩⟩

section Emitted

variable {ns : List NodeId} {d : Program.Draft}

/-- What it takes to write the statement of a node behind those of other nodes. -/
def WritableAfter (g : Graph) (ns : List NodeId) (done : List (NodeId × Node)) (e : NodeId × Node) : Prop :=
  (∀ s i, g.Connects s ⟨e.1, i⟩ → g.AtHand ns (done.map Prod.fst) s.node)
    ∧ ∀ w, e.2.delay = some (.read w) → w ∈ (Program.fieldsOf (g.computed ns)).keys

/-- All statements can be written if each of them can when it is its turn, and then the nodes are all at hand. -/
theorem WellFormed.emitAll_spec (hwf : g.WellFormed) (hregular : ∀ n node, g.node? n = some node → node.Regular)
    (hstart : Program.Draft.Supplied g ns [] d) :
    ((∃ d', (g.computed ns).foldlM (Program.Draft.emit g (Program.fieldsOf (g.computed ns))) d = .ok d')
        ↔ ∀ done e todo, g.computed ns = done ++ e :: todo → g.WritableAfter ns done e)
      ∧ ∀ d', (g.computed ns).foldlM (Program.Draft.emit g (Program.fieldsOf (g.computed ns))) d = .ok d' →
        Program.Draft.Supplied g ns ((g.computed ns).map Prod.fst) d' := by
  have hmem : ∀ {done e todo}, g.computed ns = done ++ e :: todo → e ∈ g.computed ns :=
    fun hall => hall ▸ List.mem_append_cons_self
  have hkeep : ∀ done e todo d d', g.computed ns = done ++ e :: todo →
      Program.Draft.Supplied g ns (done.map Prod.fst) d →
      Program.Draft.emit g (Program.fieldsOf (g.computed ns)) d e = .ok d' →
      Program.Draft.Supplied g ns ((done ++ [e]).map Prod.fst) d' := by
    rintro done ⟨n, node⟩ todo d d' hall hsupplied hemit
    obtain ⟨-, hn, hcomp⟩ := mem_computed.mp (hmem hall)
    rw [List.map_append]
    exact hsupplied.emit hwf.toRegistered hn (Node.isComputed_iff.mp hcomp).1 hemit
  refine ⟨exists_foldlM_iff ?_ hkeep hstart, fun d' hfold => foldlM_induction hkeep hstart hfold⟩
  rintro done ⟨n, node⟩ todo d hall hsupplied
  have hn := (mem_computed.mp (hmem hall)).2.1
  exact hsupplied.exists_emit_iff hwf.toRegistered hn (hregular n node hn)
    fun hfield => Program.mem_keys_fieldsOf.mpr ⟨node, hmem hall, hfield⟩

end Emitted

/-- A listed owner of a line has a field, and nothing else that is read has one. -/
theorem WellFormed.line_mem_fieldsOf (hwf : g.WellFormed) (hregular : ∀ n node, g.node? n = some node → node.Regular)
    {ns : List NodeId} {n w : NodeId} {node : Node} (hn : g.node? n = some node) (hread : node.delay = some (.read w)) :
    w ∈ (Program.fieldsOf (g.computed ns)).keys ↔ w ∈ ns := by
  obtain ⟨writer, hw, hwrite⟩ := hwf.delays n node w hn hread
  rw [Program.mem_keys_fieldsOf]
  constructor
  · rintro ⟨found, hmem, -⟩
    exact (mem_computed.mp hmem).1
  · intro hlisted
    have hshape := hregular w writer hw
    refine ⟨writer, mem_computed.mpr ⟨hlisted, hw, hshape.computed (Node.isDelay_of_isDelayWrite hwrite)⟩, ?_⟩
    unfold Node.hasField Node.isDelayRead
    rw [(hshape.line (Node.isDelayWrite_iff.mp hwrite)).1, hwrite]
    simp

/-- The statements of an arrangement can be written, and its results given, exactly if it is usable. -/
theorem WellFormed.usable_iff (hwf : g.WellFormed) (hregular : ∀ n node, g.node? n = some node → node.Regular)
    {ns : List NodeId} : g.Usable ns ↔ (∀ n ∈ ns, ∃ node, g.node? n = some node)
      ∧ (∀ done e todo, g.computed ns = done ++ e :: todo → g.WritableAfter ns done e)
      ∧ ∀ n ∈ g.outPorts, ∀ s, g.Connects s ⟨n, 0⟩ → g.AtHand ns ((g.computed ns).map Prod.fst) s.node := by
  constructor
  · rintro ⟨hpresent, hinputs, houtputs, hlines⟩
    refine ⟨hpresent, ?_, fun n hn s hs => (atHand_computed fun _ h => h).mpr (houtputs n hn s 0 hs)⟩
    rintro done ⟨n, node⟩ todo hall
    obtain ⟨before, after, hns, rfl, ⟨hn, hcomp⟩, -⟩ := computed_eq_append_cons_iff.mp hall
    obtain ⟨hterm, hconst⟩ := Node.isComputed_iff.mp hcomp
    refine ⟨fun s i hs => ?_, fun w hread => ?_⟩
    · refine (atHand_computed ?_).mpr (hinputs before n after hns node hn hterm hconst s i hs)
      exact hns ▸ List.subset_append_left _ _
    · exact (hwf.line_mem_fieldsOf hregular hn hread).mpr (hlines n (hns ▸ List.mem_append_cons_self) node w hn hread)
  · rintro ⟨hpresent, hwritable, houtputs⟩
    have hturn : ∀ before n after, ns = before ++ n :: after → ∀ node, g.node? n = some node →
        node.isTerminal = false → node.isConstant = false → g.WritableAfter ns (g.computed before) (n, node) := by
      intro before n after hns node hn hterm hconst
      refine hwritable (g.computed before) (n, node) (g.computed after) (computed_eq_append_cons_iff.mpr ?_)
      exact ⟨before, after, hns, rfl, ⟨hn, Node.isComputed_iff.mpr ⟨hterm, hconst⟩⟩, rfl⟩
    refine ⟨hpresent, ?_, ?_, ?_⟩
    · intro before n after hns node hn hterm hconst s i hs
      refine (atHand_computed ?_).mp ((hturn before n after hns node hn hterm hconst).1 s i hs)
      exact hns ▸ List.subset_append_left _ _
    · intro n hn s i hs
      -- an output terminal has one input
      obtain ⟨node, hnode, hterm⟩ := (hwf.mem_outPorts n).mp hn
      obtain ⟨c, hc⟩ := hs
      obtain ⟨found, hfound, hlt⟩ := exists_incoming?_iff.mp (hwf.dst_listed c _ hc)
      obtain rfl := Option.some.inj (hnode.symm.trans hfound)
      rw [((hregular n node hnode).onePort.2 hterm).1] at hlt
      obtain rfl : i = 0 := Nat.lt_one_iff.mp hlt
      exact (atHand_computed fun _ h => h).mp (houtputs n hn s ⟨c, hc⟩)
    · intro n hn node w hnode hread
      obtain ⟨before, after, hns⟩ := List.append_of_mem hn
      have hcomp := (hregular n node hnode).computed (Node.isDelay_of_delay_eq hread)
      obtain ⟨hterm, hconst⟩ := Node.isComputed_iff.mp hcomp
      have hfield := (hturn before n after hns node hnode hterm hconst).2 w hread
      exact (hwf.line_mem_fieldsOf hregular hnode hread).mp hfield

/-- There is a program for the arrangements that are usable, and for no others. -/
theorem WellFormed.exists_program_iff (hwf : g.WellFormed) (hregular : ∀ n node, g.node? n = some node → node.Regular)
    (a : Arrangement) : (∃ p, g.program a = .ok p) ↔ g.Usable a.nodes := by
  rw [hwf.usable_iff hregular]
  constructor
  · rintro ⟨p, hp⟩
    obtain ⟨l⟩ := exists_listing hp
    obtain ⟨-, hids, hnodes⟩ := Program.lookUp_eq_ok l.lookUp
    have hemitted := l.emitted
    rw [l.fields, ← l.computed_eq] at hemitted
    obtain ⟨hiff, hfinal⟩ := hwf.emitAll_spec hregular (Program.supplied_start hwf hregular l.params_length l.lookUp)
    refine ⟨fun n hn => ?_, hiff.mp ⟨_, hemitted⟩, fun n hn s hs => ?_⟩
    · rw [← hids] at hn
      obtain ⟨⟨_, node⟩, hin, rfl⟩ := List.mem_map.mp hn
      exact ⟨node, hnodes _ node hin⟩
    · have hresult := exists_mapM_ok_iff.mp ⟨_, l.results⟩ n hn
      exact (hfinal _ hemitted s _ hs).mp ((Program.Draft.exists_operand_iff hwf.toRegistered).mp hresult s hs)
  · rintro ⟨hpresent, hwritable, houtputs⟩
    obtain ⟨inputs, hinputs⟩ := Program.exists_lookUp fun n hn => by
      obtain ⟨node, hnode, -⟩ := (hwf.mem_inPorts n).mp hn
      exact ⟨node, hnode⟩
    obtain ⟨listed, hlisted⟩ := Program.exists_lookUp hpresent
    have hcomputed : g.computed a.nodes = listed.filter (·.2.isComputed) := by
      unfold Graph.computed
      rw [← (Program.lookUp_eq_ok hlisted).1]
    have hlength : (Identifier.parameters (inputs.map (·.2.terminalName?.getD ""))).length = g.inPorts.length := by
      obtain ⟨-, hids, -⟩ := Program.lookUp_eq_ok hinputs
      rw [(Identifier.parameters_spec _).2.2, List.length_map, ← hids, List.length_map]
    obtain ⟨hiff, hfinal⟩ := hwf.emitAll_spec hregular (Program.supplied_start hwf hregular hlength hlisted)
    obtain ⟨final, hemitted⟩ := hiff.mpr hwritable
    obtain ⟨results, hresults⟩ : ∃ results, (g.outPorts.mapM fun n => final.operand g ⟨n, 0⟩) = .ok results := by
      refine exists_mapM_ok fun n hn => (Program.Draft.exists_operand_iff hwf.toRegistered).mpr fun s hs => ?_
      exact (hfinal final hemitted s _ hs).mpr (houtputs n hn s hs)
    rw [hcomputed] at hemitted
    exact ⟨_, Except.bind_eq_ok_iff.mpr ⟨inputs, hinputs, Except.bind_eq_ok_iff.mpr ⟨listed, hlisted,
      Except.bind_eq_ok_iff.mpr ⟨final, hemitted, Except.bind_eq_ok_iff.mpr ⟨results, hresults, rfl⟩⟩⟩⟩⟩

/-- No statement asks a node for a port that it has not. -/
theorem failsWith_program (hregular : ∀ n node, g.node? n = some node → node.Regular) (a : Arrangement) :
    Program.FailsWith (fun e => ∀ n, e ≠ .missingPort n) (g.program a) := by
  have hlookUp : ∀ ns, Program.FailsWith (fun e => ∀ n, e ≠ .missingPort n) (Program.lookUp g ns) :=
    fun ns => Program.failsWith_lookUp fun n _ _ => by simp
  have hoperand : ∀ (d : Program.Draft) dst, Program.FailsWith (fun e => ∀ n, e ≠ .missingPort n) (d.operand g dst) :=
    fun d dst => Program.Draft.failsWith_operand fun s _ _ => by simp
  refine (hlookUp _).bind fun inputs _ => (hlookUp _).bind fun listed hlisted => ?_
  refine Program.FailsWith.bind (Program.FailsWith.foldlM ?_ _) fun final _ => ?_
  · rintro d ⟨n, node⟩ hmem
    have hnode := (Program.lookUp_eq_ok hlisted).2.2 n node (List.mem_filter.mp hmem).1
    refine Program.Draft.failsWith_emit (hregular n node hnode) (Program.FailsWith.mapM fun i _ => hoperand d ⟨n, i⟩) ?_
    exact fun _ => Program.Draft.failsWith_fieldName fun _ => by simp
  · exact (Program.FailsWith.mapM fun n _ => hoperand final ⟨n, 0⟩).bind fun results _ => Program.FailsWith.ok _

/-! ## Every arrangement of a graph of an editor -/

/--
**A source is generated for the usable arrangements, and for no others.** The graph may be new or read from a record,
and may have gone through any edits that add factory nodes; the arrangement may be any, whether or not it was made for
this graph. Where it is not usable, generation names a node that is missing or an output that nothing stands for. It
never asks a node for a port that the node has not.
-/
theorem source_iff_usable (hg : g.Edited) (a : Arrangement) :
    ((∃ text, a.source g = .ok text) ↔ g.Usable a.nodes)
      ∧ (¬ g.Usable a.nodes →
        (∃ n, a.source g = .error (.missingNode n)) ∨ ∃ port, a.source g = .error (.unbound port)) := by
  obtain ⟨hwf, hbuilt⟩ := hg.rebuilt
  have hregular : ∀ n node, g.node? n = some node → node.Regular := fun n node hn => hbuilt.regular hn
  have hiff : (∃ text, a.source g = .ok text) ↔ g.Usable a.nodes := by
    rw [← hwf.exists_program_iff hregular a]
    unfold Arrangement.source
    constructor
    · rintro ⟨text, h⟩
      obtain ⟨p, hp, -⟩ := Except.map_eq_ok_iff.mp h
      exact ⟨p, hp⟩
    · rintro ⟨p, hp⟩
      exact ⟨p.render, Except.map_eq_ok_iff.mpr ⟨p, hp, rfl⟩⟩
  refine ⟨hiff, fun hnot => ?_⟩
  have hports := (failsWith_program hregular a).map (f := Program.render)
  cases hsource : a.source g with
  | ok text => exact absurd (hiff.mp ⟨text, hsource⟩) hnot
  | error e =>
      cases e with
      | missingNode n => exact Or.inl ⟨n, rfl⟩
      | unbound port => exact Or.inr ⟨port, rfl⟩
      | missingPort n => exact absurd rfl (hports _ hsource n)

/-- One layer with these nodes. -/
def layerOf (ns : List NodeId) : Arrangement := { layers := [ns.map .node] }

theorem loop_connects {s : OutPort} {t : InPort} (h : loop.Connects s t) :
    s = ⟨⟨0⟩, 0⟩ ∧ t = ⟨⟨1⟩, 1⟩ ∨ s = ⟨⟨1⟩, 0⟩ ∧ t = ⟨⟨2⟩, 0⟩ := by
  obtain ⟨c, hc⟩ := h
  have hmem : (⟨c, s, t⟩ : ConnectionId × Connection) ∈
      [(⟨0⟩, ⟨⟨⟨0⟩, 0⟩, ⟨⟨1⟩, 1⟩⟩), (⟨1⟩, ⟨⟨⟨1⟩, 0⟩, ⟨⟨2⟩, 0⟩⟩)] := Table.mem_of_get? hc
  simp only [List.mem_cons, List.not_mem_nil, or_false, Prod.mk.injEq, Connection.mk.injEq] at hmem
  exact hmem.imp And.right And.right

theorem loop_usable : loop.Usable [⟨0⟩, ⟨1⟩, ⟨1⟩] where
  present := by
    intro n hn
    simp only [List.mem_cons, List.not_mem_nil, or_false] at hn
    rcases hn with rfl | rfl | rfl <;> exact ⟨_, rfl⟩
  inputs := by
    intro before n after hsplit node hn hterm hconst s i hs
    rcases loop_connects hs with ⟨rfl, heq⟩ | ⟨rfl, heq⟩
    · -- the owner is fed by the reader that comes first
      injection heq with hn' hi
      subst hn'
      cases before with
      | nil => exact absurd hsplit (by simp)
      | cons m before =>
          injection hsplit with hm
          exact Or.inr ⟨_, rfl, Or.inr ⟨by decide, hm ▸ List.mem_cons_self⟩⟩
    · injection heq with hn' hi
      have hmem : (⟨2⟩ : NodeId) ∈ [⟨0⟩, ⟨1⟩, (⟨1⟩ : NodeId)] := by
        rw [hsplit, hn']
        exact List.mem_append_cons_self
      exact absurd hmem (by decide)
  outputs := fun n hn => absurd hn List.not_mem_nil
  lines := by
    intro n hn node w hnode hread
    have hlink : (loop.node? n).bind Node.delay = some (.read w) := by rw [hnode]; exact hread
    simp only [List.mem_cons, List.not_mem_nil, or_false] at hn
    rcases hn with rfl | rfl | rfl
    · have hw : some (DelayLink.read ⟨1⟩) = some (.read w) := hlink
      injection hw with hw
      injection hw with hw
      exact hw ▸ by decide
    all_goals
      have hw : some DelayLink.write = some (.read w) := hlink
      exact absurd hw (by simp)

/--
Of the line between two readers, the second reader may be left out and the owner listed twice, but the owner may come
neither before the reader that feeds it nor not at all. An arrangement made before the line was removed is not usable.
-/
theorem loop_sources : (∃ text, (layerOf [⟨0⟩, ⟨1⟩, ⟨1⟩]).source loop = .ok text)
    ∧ (¬ ∃ text, (layerOf [⟨1⟩, ⟨0⟩, ⟨2⟩]).source loop = .ok text)
    ∧ (layerOf [⟨0⟩]).source loop = .error (.missingNode ⟨1⟩)
    ∧ (layerOf [⟨0⟩, ⟨1⟩, ⟨2⟩]).source (loop.run [.remove ⟨1⟩]) = .error (.missingNode ⟨0⟩) := by
  have halone : (layerOf [⟨0⟩]).source loop = .error (.missingNode ⟨1⟩) := by cbv
  have hstale : (layerOf [⟨0⟩, ⟨1⟩, ⟨2⟩]).source (loop.run [.remove ⟨1⟩]) = .error (.missingNode ⟨0⟩) := by
    cbv
  refine ⟨(source_iff_usable loop_opened.edited _).1.mpr loop_usable, fun h => ?_, halone, hstale⟩
  -- nothing is listed before the owner
  have husable := (source_iff_usable loop_opened.edited (layerOf [⟨1⟩, ⟨0⟩, ⟨2⟩])).1.mp h
  have hfed := husable.inputs [] ⟨1⟩ [⟨0⟩, ⟨2⟩] rfl _ rfl (by decide) (by decide) ⟨⟨0⟩, 0⟩ 1 ⟨⟨0⟩, rfl⟩
  have hnumber : (loop.node? ⟨0⟩).any Node.isConstant = false := by decide
  rcases hfed with hin | ⟨node, hn, ⟨hconst, -⟩ | ⟨-, hnil⟩⟩
  · exact absurd hin List.not_mem_nil
  · rw [hn, Option.any_some, hconst] at hnumber
    exact absurd hnumber (by simp)
  · exact absurd hnil List.not_mem_nil

end Graph

end SignalGraph
