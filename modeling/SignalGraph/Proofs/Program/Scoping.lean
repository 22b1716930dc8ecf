import Mathlib.Data.List.ReduceOption
import SignalGraph.Program.Printer
import SignalGraph.Proofs.Program.Looks
import SignalGraph.Proofs.Program.Success

/-!
# Names are bound once, before they are used

A statement uses parameters, literals, and variables that statements before it have bound (`Scoped`). While
statements are written, `Draft.Bound` says that what stands for an output is known by then: the variables so far are
those below the next one, in the order in which the body binds them. Each node keeps it (`Bound.emit`), so it holds
of the whole body.

Fields have names of their own. What keeps something has one, a reader of a delay line uses that of the line, and
nothing else uses any (`Program.OwnsFields`).
-/

namespace SignalGraph

/-! ## What statements use and bind -/

namespace Call

/-- What a call is given. -/
def operands : Call → List Operand
  | operator _ left right => [left, right]
  | function _ args => args
  | process _ args => args
  | read _ args => args
  | feedbackRead _ args => args

/-- The field whose method is called. -/
def field? : Call → Option String
  | operator _ _ _ => none
  | function _ _ => none
  | process field _ => some field
  | read field _ => some field
  | feedbackRead field _ => some field

end Call

namespace Statement

def operands : Statement → List Operand
  | write _ value => [value]
  | call _ c => c.operands

def field? : Statement → Option String
  | write field _ => some field
  | call _ c => c.field?

/-- The variables that a statement binds, in the order of its results. -/
def binds : Statement → List Nat
  | write _ _ => []
  | call results _ => results.reduceOption

end Statement

/-- What the operand stands for is known: a literal, one of the parameters, or one of the variables. -/
def Operand.InScope (params : List String) (vars : List Nat) : Operand → Prop
  | param name => name ∈ params
  | var k => k ∈ vars
  | literal _ => True

/-- Statements use what is known before them. -/
def Scoped (params : List String) (body : List Statement) : Prop :=
  ∀ front s back, body = front ++ s :: back → ∀ o ∈ s.operands, o.InScope params (front.flatMap Statement.binds)

section Scoped

variable {params : List String} {body statements : List Statement} {vars vars' : List Nat} {o : Operand}

theorem Operand.InScope.mono (h : o.InScope params vars) (hsub : vars ⊆ vars') : o.InScope params vars' := by
  cases o with
  | param name => exact h
  | var k => exact hsub h
  | literal v => trivial

theorem scoped_nil (params : List String) : Scoped params [] := by
  intro front s back hsplit
  exact absurd hsplit (by simp)

theorem Scoped.append (h : Scoped params body)
    (hused : ∀ s ∈ statements, ∀ o ∈ s.operands, o.InScope params (body.flatMap Statement.binds)) :
    Scoped params (body ++ statements) := by
  intro front s back hsplit o ho
  rcases List.append_eq_append_iff.mp hsplit with ⟨added, rfl, rfl⟩ | ⟨rest, rfl, hrest⟩
  · refine (hused s (List.mem_append_right _ List.mem_cons_self) o ho).mono ?_
    rw [List.flatMap_append]
    exact List.subset_append_left _ _
  · cases rest with
    | nil =>
        rw [List.nil_append] at hrest
        rw [List.append_nil] at hused
        exact hused s (hrest ▸ List.mem_cons_self) o ho
    | cons s' rest =>
        injection hrest with hs _
        subst hs
        exact h front s rest rfl o ho

end Scoped

/-! ## Statements of one node -/

namespace Program.Draft

variable {g : Graph} {fields : Table NodeId Field} {params : List String} {d d' : Draft} {n : NodeId} {node : Node}
  {results : List (Option Nat)}

/-- What stands for an output is known when the next statement is written. -/
def Known (params : List String) (d : Draft) : Prop :=
  ∀ port o, d.bindings.get? port = some o → o.InScope params (List.range d.nextVar)

/-- The names of a draft. -/
structure Bound (params : List String) (d : Draft) : Prop where
  known : d.Known params
  /-- The body binds the variables so far, in order. -/
  numbered : d.body.flatMap Statement.binds = List.range d.nextVar
  used : Scoped params d.body

theorem Known.operand (h : d.Known params) {dst : InPort} {o : Operand} (ho : d.operand g dst = .ok o) :
    o.InScope params (List.range d.nextVar) := by
  rcases operand_eq_ok_iff.mp ho with ⟨-, rfl⟩ | ⟨src, -, hfound⟩
  · trivial
  · exact h src o hfound

theorem Known.operands (h : d.Known params) {ports : List α} {port : α → InPort} {os : List Operand}
    (hos : ports.mapM (fun i => d.operand g (port i)) = .ok os) :
    ∀ o ∈ os, o.InScope params (List.range d.nextVar) := by
  intro o ho
  obtain ⟨i, hi⟩ := List.mem_iff_getElem?.mp ho
  obtain ⟨p, -, hp⟩ := forall₂_getElem? (mapM_eq_ok_iff.mp hos) hi
  exact h.operand hp

/-- The results of a call are the next variables, and each stands for an output. -/
structure Numbers (params : List String) (d : Draft) (results : List (Option Nat)) (d' : Draft) : Prop where
  results : List.range d.nextVar ++ results.reduceOption = List.range d'.nextVar
  known : d'.Known params

theorem Numbers.bindOutput (h : Numbers params d results d') (g : Graph) (port : OutPort) :
    Numbers params d (results ++ [(d'.bindOutput g port).1]) (d'.bindOutput g port).2 := by
  unfold Draft.bindOutput
  split
  · refine ⟨?_, h.known⟩
    rw [List.reduceOption_append, List.reduceOption_singleton]
    exact (congrArg _ (List.append_nil _)).trans h.results
  · constructor
    · rw [List.reduceOption_append, ← List.append_assoc, h.results, List.range_succ]
      rfl
    · intro port' o ho
      dsimp only at ho ⊢
      rw [Table.get?_set] at ho
      split at ho
      · injection ho with ho
        rw [← ho]
        exact List.mem_range.mpr (Nat.lt_succ_self _)
      · exact (h.known port' o ho).mono (List.range_subset.mpr (Nat.le_succ _))

theorem Known.bindOutputs (h : d.Known params) (g : Graph) (n : NodeId) (node : Node) :
    Numbers params d (d.bindOutputs g n node).1 (d.bindOutputs g n node).2 := by
  refine List.foldlRecOn (motive := fun (acc : List (Option Nat) × Draft) => Numbers params d acc.1 acc.2)
    (List.range node.outputs.length) _ ⟨List.append_nil _, h⟩ ?_
  intro acc hacc i _
  exact hacc.bindOutput g ⟨n, i⟩

/-- Statements that use what is known, and bind the next variables. -/
theorem Bound.write (h : d.Bound params) (hnumbers : Numbers params d results d') (hbody : d'.body = d.body)
    {statements : List Statement} (hbinds : statements.flatMap Statement.binds = results.reduceOption)
    (hused : ∀ s ∈ statements, ∀ o ∈ s.operands, o.InScope params (List.range d.nextVar)) :
    (d'.write statements).Bound params := by
  have hadded : (d'.write statements).body = d.body ++ statements := congrArg (· ++ statements) hbody
  refine ⟨hnumbers.known, ?_, ?_⟩
  · rw [hadded, List.flatMap_append, h.numbered, hbinds]
    exact hnumbers.results
  · rw [hadded]
    exact h.used.append (h.numbered ▸ hused)

theorem Calls.operands {args : List Operand} {call : Call} (h : Calls g fields n node args call) :
    call.operands ⊆ args := by
  cases h with
  | operator left right rest hop => simp [Call.operands]
  | process => exact List.Subset.refl _
  | function => exact List.Subset.refl _

/-- A look behind a write binds the one output of its node, if that is read. -/
theorem binds_looks (hone : results.length = 1) (call : Call) :
    (if results.any (·.isSome) then [Statement.call (results.take 1) call] else []).flatMap Statement.binds
      = results.reduceOption := by
  obtain ⟨result, rfl⟩ := List.length_eq_one_iff.mp hone
  cases result with
  | none => rfl
  | some k => rfl

/-- The statements of a node keep names bound. -/
theorem Bound.emit (h : d.Bound params) (hone : node.isDelay = true → node.outputs.length = 1)
    (hemit : Draft.emit g fields d (n, node) = .ok d') : d'.Bound params := by
  cases emit_eq_ok_iff.mp hemit with
  | call hplain hargs hcall =>
      refine h.write (h.known.bindOutputs g n node) (d.bindOutputs_keeps g n node).1 (List.append_nil _) ?_
      intro s hs o ho
      rw [List.mem_singleton.mp hs] at ho
      exact h.known.operands hargs o (hcall.operands ho)
  | write hwrite hargs _ hbound =>
      have hscope := h.known.operands hargs
      have hnoted : ({ d with written := d.written ++ [n] } : Draft).Bound params := ⟨h.known, h.numbered, h.used⟩
      have hnumbers := hnoted.known.bindOutputs g n node
      obtain ⟨hbody, -⟩ := bindOutputs_keeps { d with written := d.written ++ [n] } g n node
      obtain ⟨hlen, -⟩ := binds_bindOutputs { d with written := d.written ++ [n] } g n node
      rw [hbound] at hnumbers hbody hlen
      refine hnoted.write hnumbers hbody (binds_looks (hlen.trans (hone (Node.isDelay_of_delay_eq hwrite))) _) ?_
      intro s hs o ho
      rcases List.mem_cons.mp hs with rfl | hs
      · rw [List.mem_singleton.mp ho]
        exact hscope _ (List.mem_cons_of_mem _ List.mem_cons_self)
      · split at hs
        · rw [List.mem_singleton.mp hs] at ho
          rw [List.mem_singleton.mp ho]
          exact hscope _ List.mem_cons_self
        · exact absurd hs List.not_mem_nil
  | read writer hread hargs _ hbound =>
      have hnumbers := h.known.bindOutputs g n node
      obtain ⟨hbody, -⟩ := d.bindOutputs_keeps g n node
      obtain ⟨hlen, -⟩ := binds_bindOutputs d g n node
      rw [hbound] at hnumbers hbody hlen
      have hrest := List.length_eq_zero_iff.mp (Nat.succ.inj (hlen.trans (hone (Node.isDelay_of_delay_eq hread))))
      refine h.write hnumbers hbody ?_ ?_
      · rw [hrest]
        exact List.append_nil _
      · intro s hs o ho
        rw [List.mem_singleton.mp hs] at ho
        refine h.known.operands hargs o ?_
        split at ho <;> exact ho

/-- The statements of all nodes keep names bound. -/
theorem Bound.emitAll (h : d.Bound params) {rest : List (NodeId × Node)}
    (hone : ∀ n node, (n, node) ∈ rest → node.isDelay = true → node.outputs.length = 1)
    (hemit : rest.foldlM (Draft.emit g fields) d = .ok d') : d'.Bound params := by
  refine foldlM_induction (P := fun _ d => d.Bound params) ?_ h hemit
  rintro done ⟨n, node⟩ todo d d' hsplit hbound hstep
  exact hbound.emit (hone n node (hsplit ▸ List.mem_append_cons_self)) hstep

/-! ## Fields of one node -/

/-- What holds of the nodes that keep something. -/
structure Keeps (node : Node) : Prop where
  operator : node.stateful = true → node.isOperator = false
  delay : node.isDelay = true → node.stateful = true

/-- The statements of a node use the field of the node, or of the line that it reads, if the node keeps something. -/
def UsesField (g : Graph) (fields : Table NodeId Field) (n : NodeId) (node : Node) (statements : List Statement) :
    Prop :=
  if node.stateful then
    ∃ f, fields.get? ((g.delayWriteOf? n).getD n) = some f ∧ ∀ s ∈ statements, s.field? = some f.name
  else ∀ s ∈ statements, s.field? = none

theorem usesField_of_fieldName (hstate : node.stateful = true) {field : String}
    (hfield : fieldName g fields n = .ok field) {statements : List Statement}
    (h : ∀ s ∈ statements, s.field? = some field) : UsesField g fields n node statements := by
  obtain ⟨f, hf, rfl⟩ := fieldName_eq_ok_iff.mp hfield
  unfold UsesField
  rw [if_pos hstate]
  exact ⟨f, hf, h⟩

theorem usesField_of_calls (hkeeps : Keeps node) {args : List Operand} {call : Call}
    (h : Calls g fields n node args call) (results : List (Option Nat)) :
    UsesField g fields n node [.call results call] := by
  have hnone (hstate : node.stateful = false) (hcall : call.field? = none) :
      UsesField g fields n node [.call results call] := by
    unfold UsesField
    rw [if_neg (by rw [hstate]; simp)]
    simp [Statement.field?, hcall]
  cases h with
  | operator left right rest hop =>
      refine hnone ?_ rfl
      by_contra hstate
      rw [hkeeps.operator (Bool.eq_true_of_not_eq_false hstate)] at hop
      exact absurd hop (by simp)
  | process hop hstate hfield =>
      refine usesField_of_fieldName hstate hfield ?_
      intro s hs
      rw [List.mem_singleton.mp hs]
      rfl
  | function hop hstate => exact hnone hstate rfl

theorem usesField_of_emit (hkeeps : Keeps node) (h : emit g fields d (n, node) = .ok d') :
    ∃ statements, d'.body = d.body ++ statements ∧ UsesField g fields n node statements := by
  cases emit_eq_ok_iff.mp h with
  | call _ _ hcall => exact ⟨_, congrArg (· ++ _) (d.bindOutputs_keeps g n node).1, usesField_of_calls hkeeps hcall _⟩
  | write hwrite _ hfield hbound =>
      have hbody := (bindOutputs_keeps { d with written := d.written ++ [n] } g n node).1
      rw [hbound] at hbody
      refine ⟨_, congrArg (· ++ _) hbody,
        usesField_of_fieldName (hkeeps.delay (Node.isDelay_of_delay_eq hwrite)) hfield ?_⟩
      intro s hs
      rcases List.mem_cons.mp hs with rfl | hs
      · rfl
      · split at hs
        · rw [List.mem_singleton.mp hs]
          rfl
        · exact absurd hs List.not_mem_nil
  | read writer hread _ hfield hbound =>
      have hbody := (d.bindOutputs_keeps g n node).1
      rw [hbound] at hbody
      refine ⟨_, congrArg (· ++ _) hbody,
        usesField_of_fieldName (hkeeps.delay (Node.isDelay_of_delay_eq hread)) hfield ?_⟩
      intro s hs
      rw [List.mem_singleton.mp hs]
      split <;> rfl

/-- What holds of whatever a node adds to the body holds of what is found for the node. -/
theorem of_sections {P : NodeId → Node → List Statement → Prop} {rest : List (NodeId × Node)}
    (hemit : ∀ n node d d', (n, node) ∈ rest → emit g fields d (n, node) = .ok d' →
      ∃ statements, d'.body = d.body ++ statements ∧ P n node statements)
    {ss : List (NodeId × List Statement)} (hss : sections g fields d rest = .ok ss) {statements : List Statement}
    (h : (n, statements) ∈ ss) : ∃ node, (n, node) ∈ rest ∧ P n node statements := by
  induction rest generalizing d ss with
  | nil =>
      injection hss with hss
      rw [← hss] at h
      exact absurd h List.not_mem_nil
  | cons entry rest ih =>
      obtain ⟨d₁, hd₁, hss⟩ := Except.bind_eq_ok_iff.mp hss
      obtain ⟨more, hmore, hss⟩ := Except.bind_eq_ok_iff.mp hss
      injection hss with hss
      rw [← hss] at h
      rcases List.mem_cons.mp h with heq | h
      · injection heq with hn hstatements
        obtain ⟨added, hbody, hadded⟩ := hemit entry.1 entry.2 d d₁ List.mem_cons_self hd₁
        rw [hbody, List.drop_left] at hstatements
        subst hn hstatements
        exact ⟨entry.2, List.mem_cons_self, hadded⟩
      · obtain ⟨node, hin, hfound⟩ := ih (fun n node d d' hin => hemit n node d d' (List.mem_cons_of_mem _ hin)) hmore h
        exact ⟨node, List.mem_cons_of_mem _ hin, hfound⟩

/-- The fields of the statements that are found for each node. -/
theorem usesField_of_sections {rest : List (NodeId × Node)} {ss : List (NodeId × List Statement)}
    (hkeeps : ∀ n node, (n, node) ∈ rest → Keeps node) (hss : sections g fields d rest = .ok ss)
    {statements : List Statement} (h : (n, statements) ∈ ss) :
    ∃ node, (n, node) ∈ rest ∧ UsesField g fields n node statements :=
  of_sections (fun n node _ _ hin hd => usesField_of_emit (hkeeps n node hin) hd) hss h

end Program.Draft

theorem Graph.AllBare.keeps {g : Graph} (h : g.AllBare fun node => ∃ resolve, node.Rebuilds resolve) {n : NodeId}
    {node : Node} (hn : g.node? n = some node) : Program.Draft.Keeps node := by
  obtain ⟨resolve, hnode⟩ := h n node hn
  exact ⟨fun hstate => (hnode.of_stateful hstate).2, hnode.stateful_of_isDelay⟩

/-! ## Whole programs -/

/-- The line that initialises a field. -/
def Field.initialisation (f : Field) : String := Program.indented 2 ("self." ++ f.name ++ ".init(config);")

namespace Program

/-- The lines that initialise the fields. -/
def initialisations (p : Program) : List String := p.fields.values.map Field.initialisation

/-- The method that initialises the fields. -/
def initialisation (p : Program) : String :=
  renderHead 1 "init" ["&mut self", "config: &" ++ moduleOf p.imports standardPackage ++ "::" ++ configType] "" ++
    String.join p.initialisations ++ indented 1 "\x7d"

/-- The names of parameters and variables, and where they are used. -/
structure NamesScoped (p : Program) : Prop where
  /-- No two parameters or variables have one name. -/
  distinct : (p.params ++ (p.body.flatMap Statement.binds).map Identifier.variableName).Nodup
  /-- No parameter is called `v` and a number. -/
  params : ∀ name ∈ p.params, ¬ ∃ digit digits, name.toList = 'v' :: digit :: digits ∧
    ∀ c ∈ digit :: digits, c.isDigit = true
  /-- Variables are numbered in the order in which they are bound. -/
  numbered : ∃ k, p.body.flatMap Statement.binds = List.range k
  /-- Statements use what is bound before them. -/
  used : Scoped p.params p.body
  /-- Results are bound in the body. -/
  results : ∀ o ∈ p.results, o.InScope p.params (p.body.flatMap Statement.binds)

end Program

theorem Identifier.isVariable_of_digits {name : String} {digit : Char} {digits : List Char}
    (hname : name.toList = 'v' :: digit :: digits) (hdigits : ∀ c ∈ digit :: digits, c.isDigit = true) :
    isVariable name = true := by
  unfold isVariable
  rw [hname]
  exact List.all_eq_true.mpr hdigits

section Listing

variable {g : Graph} {order : List NodeId} {p : Program}

/-- Before the first statement, outputs have parameters and literals only. -/
theorem Listing.start_bound (l : Listing g order p) :
    ({ bindings := Program.startBindings g.inPorts p.params l.listed } : Program.Draft).Bound p.params := by
  refine ⟨?_, rfl, scoped_nil _⟩
  intro port o ho
  rcases startBindings_cases ho with ⟨i, n, name, -, hname, -, rfl⟩ | ⟨_, _, v, -, -, -, rfl⟩
  · exact List.mem_of_getElem? hname
  · trivial

theorem Listing.namesScoped (l : Listing g order p)
    (hone : ∀ n node, g.node? n = some node → node.isDelay = true → node.outputs.length = 1) : p.NamesScoped := by
  have hbound : l.final.Bound p.params :=
    l.start_bound.emitAll (fun n node hin => hone n node (l.mem_computed.mp hin).2.1) l.emitted
  have hvars : p.body.flatMap Statement.binds = List.range l.final.nextVar := l.body ▸ hbound.numbered
  refine ⟨?_, ?_, ⟨_, hvars⟩, l.body ▸ hbound.used, ?_⟩
  · rw [hvars, List.nodup_append]
    refine ⟨l.params_nodup, List.nodup_range.map fun i j => Identifier.variableName_injective, ?_⟩
    rintro name hname _ hvar rfl
    obtain ⟨k, -, rfl⟩ := List.mem_map.mp hvar
    exact absurd (l.params_variable _ hname) (by rw [Identifier.isVariable_variableName]; simp)
  · rintro name hname ⟨digit, digits, hlist, hdigits⟩
    exact absurd (l.params_variable name hname) (by rw [Identifier.isVariable_of_digits hlist hdigits]; simp)
  · rw [hvars]
    exact hbound.known.operands l.results

/-- A program that has fields is written as a type. -/
theorem Program.render_of_fields (p : Program) (h : p.fields.values ≠ []) :
    p.render = generatedHeader ++ "\n\n" ++ renderImports p.imports ++ p.renderStruct := by
  have hfields : p.fields.isEmpty = false := by
    refine Bool.eq_false_iff.mpr fun hempty => h ?_
    unfold Table.values
    rw [List.isEmpty_iff.mp hempty]
    rfl
  unfold render
  rw [hfields, if_neg (by simp)]

end Listing

namespace Graph

end Graph

end SignalGraph
