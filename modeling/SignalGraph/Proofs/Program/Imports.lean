import SignalGraph.Manifest
import SignalGraph.Proofs.Program.Lines
import SignalGraph.Proofs.Program.Scoping

/-!
# Imports

A program imports the packages of its nodes (`Listing.mem_imports`), each under a name of its own. A node calls a
function of its own package under that name (`Program.Draft.names_of_sections`), and the types of fields are written
likewise.

What has no package is the exception. A function without one is called as if there were a package with an empty path,
which then is imported too; what keeps something without one has a type of the standard library. A manifest may have
both, so the imports are in order if and only if all that is written for has a package, or is an operator
(`source_imports`).
-/

namespace SignalGraph

namespace Node

variable {node : Node}

theorem not_isOperator_of_pkg (h : node.origin.pkg ≠ "") : node.isOperator = false := by
  unfold isOperator
  rw [Bool.eq_false_iff.mpr (mt Origin.isBuiltin_iff.mp h)]
  rfl

theorem not_isOperator_of_isFunction (h : node.isFunction = true) : node.isOperator = false := by
  unfold isFunction at h
  rw [Bool.and_eq_true, Bool.and_eq_true, Bool.not_eq_true'] at h
  simpa using h.1.2

theorem stateful_of_hasField (h : node.hasField = true) : node.stateful = true := by
  unfold hasField at h
  rw [Bool.and_eq_true] at h
  exact h.1

/-- What is built without a package and is no operator is called, or keeps something of its own. -/
theorem Rebuilds.hasField_or_isFunction {resolve : Origin → Option Capability} (h : node.bare.Rebuilds resolve)
    (hpkg : node.origin.pkg = "") (hop : node.isOperator = false) : node.hasField = true ∨ node.isFunction = true := by
  have hdelay : node.isDelay = false := by
    refine Bool.eq_false_iff.mpr fun hd => ?_
    rw [(h.delay_shape hd).1] at hpkg
    exact absurd hpkg (by decide)
  unfold hasField isFunction isDelayRead
  rw [hdelay, hop]
  cases node.stateful with
  | true => exact Or.inl rfl
  | false => exact Or.inr rfl

end Node

/-! ## What is called -/

/-- An operator is that of the node, and a function has its origin. -/
def Call.Names (node : Node) : Call → Prop
  | operator op _ _ => op = node.name
  | function origin _ => origin = node.origin ∧ node.isFunction = true
  | _ => True

/-- The statement calls nothing but what the node stands for. -/
def Statement.Names (node : Node) : Statement → Prop
  | write _ _ => True
  | call _ c => c.Names node

namespace Program.Draft

variable {g : Graph} {fields : Table NodeId Field} {d d' : Draft} {n : NodeId} {node : Node}

theorem Calls.names (hplain : node.delay = none) {args : List Operand} {call : Call}
    (h : Calls g fields n node args call) : call.Names node := by
  cases h with
  | operator => rfl
  | process => trivial
  | function hop hstate =>
      refine ⟨rfl, ?_⟩
      unfold Node.isFunction Node.isDelay
      rw [hplain, hop, hstate]
      rfl

/-- A node calls itself, or a method of what it keeps. -/
theorem names_of_emit (h : emit g fields d (n, node) = .ok d') :
    ∃ statements, d'.body = d.body ++ statements ∧ ∀ s ∈ statements, s.Names node := by
  cases emit_eq_ok_iff.mp h with
  | call hplain _ hcall =>
      refine ⟨_, congrArg (· ++ _) (d.bindOutputs_keeps g n node).1, fun s hs => ?_⟩
      rw [List.mem_singleton.mp hs]
      exact hcall.names hplain
  | write _ _ _ hbound =>
      have hbody := (bindOutputs_keeps { d with written := d.written ++ [n] } g n node).1
      rw [hbound] at hbody
      refine ⟨_, congrArg (· ++ _) hbody, fun s hs => ?_⟩
      rcases List.mem_cons.mp hs with rfl | hs
      · trivial
      · split at hs
        · rw [List.mem_singleton.mp hs]
          trivial
        · exact absurd hs List.not_mem_nil
  | read writer _ _ _ hbound =>
      have hbody := (d.bindOutputs_keeps g n node).1
      rw [hbound] at hbody
      refine ⟨_, congrArg (· ++ _) hbody, fun s hs => ?_⟩
      rw [List.mem_singleton.mp hs]
      split <;> trivial

theorem names_of_sections {rest : List (NodeId × Node)} {ss : List (NodeId × List Statement)}
    (hss : sections g fields d rest = .ok ss) {statements : List Statement} (h : (n, statements) ∈ ss) :
    ∃ node, (n, node) ∈ rest ∧ ∀ s ∈ statements, s.Names node :=
  of_sections (P := fun _ node statements => ∀ s ∈ statements, s.Names node)
    (fun _ _ _ _ _ => names_of_emit) hss h

end Program.Draft

/-! ## Statements on one line -/

theorem Operand.InScope.oneLine_render {params : List String} {vars : List Nat} {o : Operand}
    (h : o.InScope params vars) (hparams : ∀ name ∈ params, OneLine name) : OneLine o.render := by
  cases o with
  | param name => exact hparams name h
  | var k => exact Identifier.oneLine_variableName k
  | literal v => exact oneLine_literal v

section Statement

variable {imports : Table String String} {node : Node}

theorem oneLine_methodCall {field method : String} {args : List Operand} (hfield : OneLine field)
    (hmethod : OneLine method) (hargs : ∀ o ∈ args, OneLine o.render) :
    OneLine (Program.methodCall field method args) := by
  unfold Program.methodCall
  simp only [oneLine_append]
  refine ⟨⟨⟨⟨by decide, hfield⟩, by decide⟩, hmethod⟩, Program.oneLine_parenthesised ?_⟩
  intro s hs
  obtain ⟨o, ho, rfl⟩ := List.mem_map.mp hs
  exact hargs o ho

theorem oneLine_renderCall (hmodule : ∀ pkg, OneLine (Program.moduleOf imports pkg)) {c : Call}
    (hoperands : ∀ o ∈ c.operands, OneLine o.render) (hfield : ∀ field, c.field? = some field → OneLine field)
    (hnames : c.Names node) (hname : OneLine node.origin.name) : OneLine (Program.renderCall imports c) := by
  cases c with
  | operator op left right =>
      unfold Program.renderCall
      simp only [oneLine_append]
      refine ⟨⟨⟨⟨hoperands left List.mem_cons_self, by decide⟩, ?_⟩, by decide⟩,
        hoperands right (List.mem_cons_of_mem _ List.mem_cons_self)⟩
      exact (show op = node.origin.name from hnames) ▸ hname
  | function origin args =>
      unfold Program.renderCall
      simp only [oneLine_append]
      refine ⟨⟨⟨hmodule _, by decide⟩, hnames.1 ▸ hname⟩, Program.oneLine_parenthesised ?_⟩
      intro s hs
      obtain ⟨o, ho, rfl⟩ := List.mem_map.mp hs
      exact hoperands o ho
  | process field args => exact oneLine_methodCall (hfield field rfl) (by decide) hoperands
  | read field args => exact oneLine_methodCall (hfield field rfl) (by decide) hoperands
  | feedbackRead field args => exact oneLine_methodCall (hfield field rfl) (by decide) hoperands

theorem oneLine_renderPattern {results : List (Option Nat)} {pattern : String}
    (h : Program.renderPattern results = some pattern) : OneLine pattern := by
  have hresult : ∀ r : Option Nat, OneLine ((r.map Identifier.variableName).getD Program.discard) := by
    intro r
    cases r with
    | none => decide
    | some k => exact Identifier.oneLine_variableName k
  unfold Program.renderPattern at h
  split at h
  · exact absurd h (by simp)
  · injection h with h
    exact h ▸ hresult _
  · split at h
    · injection h with h
      rw [← h]
      decide
    · injection h with h
      rw [← h]
      refine Program.oneLine_parenthesised ?_
      intro s hs
      obtain ⟨r, -, rfl⟩ := List.mem_map.mp hs
      exact hresult r

theorem oneLine_renderStatement (hmodule : ∀ pkg, OneLine (Program.moduleOf imports pkg)) {s : Statement}
    (hoperands : ∀ o ∈ s.operands, OneLine o.render) (hfield : ∀ field, s.field? = some field → OneLine field)
    (hnames : s.Names node) (hname : OneLine node.origin.name) : OneLine (Program.renderStatement imports s) := by
  cases s with
  | write field value =>
      exact oneLine_append.mpr ⟨oneLine_methodCall (hfield field rfl) (by decide) hoperands, by decide⟩
  | call results c =>
      have hcall : OneLine (Program.renderCall imports c) := oneLine_renderCall hmodule hoperands hfield hnames hname
      unfold Program.renderStatement
      dsimp only
      split
      · exact oneLine_append.mpr ⟨hcall, by decide⟩
      · rename_i pattern hpattern
        simp only [oneLine_append]
        exact ⟨⟨⟨⟨by decide, oneLine_renderPattern hpattern⟩, by decide⟩, hcall⟩, by decide⟩

end Statement

theorem Program.oneLine_params {g : Graph} {a : Arrangement} {p : Program} (h : g.program a = .ok p) :
    ∀ name ∈ p.params, OneLine name := by
  obtain ⟨inputs, -, h⟩ := Except.bind_eq_ok_iff.mp h
  obtain ⟨listed, -, h⟩ := Except.bind_eq_ok_iff.mp h
  obtain ⟨draft, -, h⟩ := Except.bind_eq_ok_iff.mp h
  obtain ⟨results, -, h⟩ := Except.bind_eq_ok_iff.mp h
  injection h with h
  rw [← h]
  exact Identifier.oneLine_parameters _

/-! ## What is imported -/

namespace Program

theorem mem_packages {listed computed : List Node} {pkg : String} :
    pkg ∈ packages listed computed ↔ (pkg = standardPackage ∧ ∃ node ∈ listed, node.stateful = true)
      ∨ ∃ node ∈ computed, node.origin.pkg = pkg ∧ (pkg = "" → node.isFunction = true) := by
  unfold packages
  rw [List.mem_append, List.mem_append, or_assoc]
  refine or_congr ?_ ⟨?_, ?_⟩
  · split
    · rename_i hany
      rw [List.mem_singleton]
      exact (and_iff_left (List.any_eq_true.mp hany)).symm
    · rename_i hnone
      refine iff_of_false List.not_mem_nil ?_
      rintro ⟨-, node, hin, hstate⟩
      exact hnone (List.any_eq_true.mpr ⟨node, hin, hstate⟩)
  · rintro (h | h)
    · obtain ⟨node, hin, rfl⟩ := List.mem_map.mp h
      obtain ⟨hin, hpackage⟩ := List.mem_filter.mp hin
      refine ⟨node, hin, rfl, fun hempty => ?_⟩
      rw [Origin.isBuiltin_iff.mpr hempty] at hpackage
      exact absurd hpackage (by simp)
    · split at h
      · rename_i hany
        obtain ⟨node, hin, hfunction⟩ := List.any_eq_true.mp hany
        rw [Bool.and_eq_true, Origin.isBuiltin_iff] at hfunction
        exact ⟨node, hin, hfunction.1.trans (List.mem_singleton.mp h).symm, fun _ => hfunction.2⟩
      · exact absurd h List.not_mem_nil
  · rintro ⟨node, hin, rfl, hfunction⟩
    by_cases hempty : node.origin.pkg = ""
    · refine Or.inr ?_
      rw [hempty, if_pos]
      · exact List.mem_singleton_self _
      · refine List.any_eq_true.mpr ⟨node, hin, ?_⟩
        rw [Origin.isBuiltin_iff.mpr hempty, hfunction hempty]
        rfl
    · refine Or.inl (List.mem_map.mpr ⟨node, List.mem_filter.mpr ⟨hin, ?_⟩, rfl⟩)
      rw [Bool.eq_false_iff.mpr (mt Origin.isBuiltin_iff.mp hempty)]
      rfl

/-- The path of a package is as empty as its name. -/
theorem importPath_eq_empty {pkg : String} : importPath pkg = "" ↔ pkg = "" := by
  constructor
  · intro h
    have hchars := congrArg String.toList h
    unfold importPath Text.replaceChar at hchars
    rw [String.toList_ofList, String.toList_empty, List.flatMap_eq_nil_iff] at hchars
    -- a character leaves itself or two others
    refine String.toList_eq_nil_iff.mp (List.eq_nil_iff_forall_not_mem.mpr fun c hc => ?_)
    have hnone := hchars c hc
    split at hnone <;> exact absurd hnone (by simp)
  · rintro rfl
    rfl

/-- The imports of a program for the nodes of an order, with the statements `ss` of each node. -/
structure OwnsImports (p : Program) (g : Graph) (order : List NodeId) (ss : List (NodeId × List Statement)) : Prop where
  /-- The packages of all that is written for and is no operator, with the standard library if anything keeps state. -/
  needed : ∀ pkg, pkg ∈ p.imports.keys ↔ pkg ≠ "" ∧
    ((pkg = standardPackage ∧ ∃ n ∈ order, ∃ node, g.node? n = some node ∧ node.stateful = true)
      ∨ ∃ n node, (n, node) ∈ g.computed order ∧ node.isOperator = false ∧ node.origin.pkg = pkg)
  /-- Each has a path. -/
  paths : ∀ pkg ∈ p.imports.keys, importPath pkg ≠ ""
  /-- No two have one name. -/
  distinct : p.imports.values.Nodup
  /-- A node calls a function under the name of its own package. -/
  calls : ∀ n statements node, (n, statements) ∈ ss → g.node? n = some node →
    ∀ results origin args, .call results (.function origin args) ∈ statements →
      ∃ module, p.imports.get? node.origin.pkg = some module ∧ renderCall p.imports (.function origin args)
        = module ++ "::" ++ node.name ++ parenthesised (args.map (·.render))
  /-- The type of a field is that of its own node, under the name of the package. -/
  fields : ∀ n f, p.fields.get? n = some f → ∃ node module, g.node? n = some node
    ∧ p.imports.get? node.origin.pkg = some module
    ∧ declaration p.imports f = indented 1 (f.name ++ ": " ++ module ++ "::" ++ node.name ++ ",")
  /-- That is how the fields are declared. -/
  declared : p.fields.values ≠ [] → ∃ before after,
    p.render = before ++ String.join (p.fields.values.map (declaration p.imports)) ++ after

/-- The declarations of fields are part of the text of a program that has some. -/
theorem declarations_of_render (p : Program) (h : p.fields.values ≠ []) : ∃ before after,
    p.render = before ++ String.join (p.fields.values.map (declaration p.imports)) ++ after := by
  have hdeclaration : declaration p.imports = fun f =>
    indented 1 (f.name ++ ": " ++ moduleOf p.imports f.origin.pkg ++ "::" ++ f.origin.name ++ ",") := rfl
  rw [p.render_of_fields h, hdeclaration]
  unfold renderStruct
  dsimp only
  let name := Identifier.ofTypeText p.name "Graph"
  refine ⟨generatedHeader ++ "\n\n" ++ renderImports p.imports ++ "#[derive(Debug, Default)]\n" ++ "pub struct " ++
      name ++ " \x7b\n", "\x7d\n\n" ++ "impl " ++ name ++ " \x7b\n" ++ p.initialisation ++ "\n" ++
      renderHead 1 "process" ("&mut self" :: renderParams p.params) (renderResultType p.results) ++
      String.join ((Text.lines p.renderBody).map (indented 1)) ++ renderResults 2 p.results ++
      indented 1 "\x7d" ++ "\x7d\n", ?_⟩
  have hlines : p.initialisations = p.fields.values.map fun f => indented 2 ("self." ++ f.name ++ ".init(config);") :=
    rfl
  unfold initialisation
  rw [hlines]
  simp only [String.append_assoc, name]

theorem moduleOf_of_get? {imports : Table String String} {pkg module : String} (h : imports.get? pkg = some module) :
    moduleOf imports pkg = module := by
  unfold moduleOf
  rw [h]
  rfl

end Program

section Listing

variable {g : Graph} {order : List NodeId} {p : Program} {ss : List (NodeId × List Statement)}

theorem Listing.mem_listed (l : Listing g order p) {n : NodeId} {node : Node} :
    (n, node) ∈ l.listed ↔ n ∈ order ∧ g.node? n = some node := by
  rw [(Program.lookUp_eq_ok l.lookUp).1, List.mem_filterMap]
  constructor
  · rintro ⟨m, hm, hnode⟩
    obtain ⟨found, hfound, heq⟩ := Option.map_eq_some_iff.mp hnode
    injection heq with hn hsame
    subst hn hsame
    exact ⟨hm, hfound⟩
  · rintro ⟨hn, hnode⟩
    exact ⟨n, hn, by rw [hnode]; rfl⟩

/-- A package is imported for the nodes that are written for; the empty one only if it has a function. -/
theorem Listing.mem_imports (l : Listing g order p) {pkg : String} :
    pkg ∈ p.imports.keys ↔
      (pkg = standardPackage ∧ ∃ n ∈ order, ∃ node, g.node? n = some node ∧ node.stateful = true)
        ∨ ∃ n node, (n, node) ∈ g.computed order ∧ node.origin.pkg = pkg ∧ (pkg = "" → node.isFunction = true) := by
  rw [l.imports, (Program.aliases_spec _).2, Program.mem_packages, l.computed_eq]
  refine or_congr (and_congr_right fun _ => ?_) ?_
  · constructor
    · rintro ⟨node, hin, hstate⟩
      obtain ⟨⟨n, node⟩, hlisted, rfl⟩ := List.mem_map.mp hin
      obtain ⟨hn, hnode⟩ := l.mem_listed.mp hlisted
      exact ⟨n, hn, node, hnode, hstate⟩
    · rintro ⟨n, hn, node, hnode, hstate⟩
      exact ⟨node, List.mem_map.mpr ⟨_, l.mem_listed.mpr ⟨hn, hnode⟩, rfl⟩, hstate⟩
  · constructor
    · rintro ⟨node, hin, hpkg⟩
      obtain ⟨⟨n, node⟩, hlisted, rfl⟩ := List.mem_map.mp hin
      exact ⟨n, node, hlisted, hpkg⟩
    · rintro ⟨n, node, hlisted, hpkg⟩
      exact ⟨node, List.mem_map.mpr ⟨_, hlisted, rfl⟩, hpkg⟩

theorem Listing.imported (l : Listing g order p) {n : NodeId} {node : Node} (hn : (n, node) ∈ g.computed order)
    (hpkg : node.origin.pkg = "" → node.isFunction = true) : ∃ module, p.imports.get? node.origin.pkg = some module :=
  Table.mem_keys_iff.mp (l.mem_imports.mpr (Or.inr ⟨n, node, hn, rfl, hpkg⟩))

/-- Where nothing lacks a package but operators, the empty one is not imported. -/
theorem Listing.mem_imports_of_packaged (l : Listing g order p)
    (h : ∀ n node, (n, node) ∈ g.computed order → node.origin.pkg = "" → node.isOperator = true) {pkg : String} :
    pkg ∈ p.imports.keys ↔ pkg ≠ "" ∧
      ((pkg = standardPackage ∧ ∃ n ∈ order, ∃ node, g.node? n = some node ∧ node.stateful = true)
        ∨ ∃ n node, (n, node) ∈ g.computed order ∧ node.isOperator = false ∧ node.origin.pkg = pkg) := by
  rw [l.mem_imports]
  constructor
  · rintro (⟨rfl, hstate⟩ | ⟨n, node, hn, rfl, hfunction⟩)
    · exact ⟨by decide, Or.inl ⟨rfl, hstate⟩⟩
    · by_cases hpkg : node.origin.pkg = ""
      · exact absurd (h n node hn hpkg) (by rw [Node.not_isOperator_of_isFunction (hfunction hpkg)]; simp)
      · exact ⟨hpkg, Or.inr ⟨n, node, hn, Node.not_isOperator_of_pkg hpkg, rfl⟩⟩
  · rintro ⟨hpkg, hstate | ⟨n, node, hn, -, rfl⟩⟩
    · exact Or.inl hstate
    · exact Or.inr ⟨n, node, hn, rfl, fun hempty => absurd hempty hpkg⟩

/-- Without a package, a function imports the empty one, and the type of a field needs it. -/
theorem Listing.isOperator_of_ownsImports (l : Listing g order p) (hnodup : order.Nodup)
    (hbuilt : g.AllBare fun node => ∃ resolve, node.Rebuilds resolve) (h : p.OwnsImports g order ss) {n : NodeId}
    {node : Node} (hn : (n, node) ∈ g.computed order) (hpkg : node.origin.pkg = "") : node.isOperator = true := by
  have hdeclares := l.declares hnodup
  rw [← l.computed_eq] at hdeclares
  by_contra hop
  obtain ⟨resolve, hnode⟩ := hbuilt n node (Graph.mem_computed.mp hn).2.1
  have hempty : "" ∈ p.imports.keys := by
    rcases hnode.hasField_or_isFunction hpkg (Bool.eq_false_iff.mpr hop) with hfield | hfunction
    · obtain ⟨f, hf⟩ := hdeclares.fields.complete n node hn hfield
      obtain ⟨found, module, hfound, hmodule, -⟩ := h.fields n f hf
      rw [(Graph.mem_computed.mp hn).2.1] at hfound
      injection hfound with hfound
      rw [← hfound, hpkg] at hmodule
      exact Table.mem_keys_iff.mpr ⟨module, hmodule⟩
    · exact hpkg ▸ hdeclares.imported n node hn hfunction
  exact ((h.needed "").mp hempty).1 rfl

/-- Where nothing lacks a package but operators, functions and fields are under the names of their packages. -/
theorem Listing.ownsImports_of_packaged (l : Listing g order p) (hnodup : order.Nodup)
    (hbuilt : g.AllBare fun node => ∃ resolve, node.Rebuilds resolve)
    (hss : Program.Draft.sections g p.fields { bindings := Program.startBindings g.inPorts p.params l.listed }
      (l.listed.filter (·.2.isComputed)) = .ok ss)
    (h : ∀ n node, (n, node) ∈ g.computed order → node.origin.pkg = "" → node.isOperator = true) :
    p.OwnsImports g order ss := by
  have hdeclares := l.declares hnodup
  rw [← l.computed_eq] at hdeclares hss
  refine ⟨fun pkg => l.mem_imports_of_packaged h, ?_, hdeclares.modules, ?_, ?_, p.declarations_of_render⟩
  · intro pkg hpkg
    exact mt Program.importPath_eq_empty.mp ((l.mem_imports_of_packaged h).mp hpkg).1
  · intro n statements node hin hnode results origin args hcall
    obtain ⟨found, hn, hnames⟩ := Program.Draft.names_of_sections hss hin
    have hsame := (Graph.mem_computed.mp hn).2.1
    rw [hnode] at hsame
    injection hsame with hsame
    subst hsame
    obtain ⟨rfl, hfunction⟩ := hnames _ hcall
    obtain ⟨module, hmodule⟩ := l.imported hn fun _ => hfunction
    refine ⟨module, hmodule, ?_⟩
    show Program.moduleOf p.imports node.origin.pkg ++ "::" ++ node.name ++ _ = _
    rw [Program.moduleOf_of_get? hmodule]
  · intro n f hf
    obtain ⟨node, hn, hfield, horigin⟩ := hdeclares.fields.sound n f hf
    obtain ⟨resolve, hnode⟩ := hbuilt n node (Graph.mem_computed.mp hn).2.1
    have hop : node.isOperator = false := (hnode.of_stateful (Node.stateful_of_hasField hfield)).2
    obtain ⟨module, hmodule⟩ := l.imported hn fun hempty => absurd (h n node hn hempty) (by rw [hop]; simp)
    refine ⟨node, module, (Graph.mem_computed.mp hn).2.1, hmodule, ?_⟩
    unfold Program.declaration
    rw [horigin, Program.moduleOf_of_get? hmodule]
    rfl

/-- The imports are in order if and only if nothing lacks a package but operators. -/
theorem Listing.ownsImports_iff (l : Listing g order p) (hnodup : order.Nodup)
    (hbuilt : g.AllBare fun node => ∃ resolve, node.Rebuilds resolve)
    (hss : Program.Draft.sections g p.fields { bindings := Program.startBindings g.inPorts p.params l.listed }
      (l.listed.filter (·.2.isComputed)) = .ok ss) :
    p.OwnsImports g order ss ↔
      ∀ n node, (n, node) ∈ g.computed order → node.origin.pkg = "" → node.isOperator = true :=
  ⟨fun h _ _ => l.isOperator_of_ownsImports hnodup hbuilt h, l.ownsImports_of_packaged hnodup hbuilt hss⟩

/-- Nothing that the program is written from has a line feed if the packages and names of its nodes have none. -/
theorem Listing.onLines (l : Listing g order p) (hnodup : order.Nodup)
    (hbuilt : g.AllBare fun node => ∃ resolve, node.Rebuilds resolve)
    (hss : Program.Draft.sections g p.fields { bindings := Program.startBindings g.inPorts p.params l.listed }
      (l.listed.filter (·.2.isComputed)) = .ok ss) (hbody : p.body = ss.flatMap Prod.snd) (hscoped : p.NamesScoped)
    (hparams : ∀ name ∈ p.params, OneLine name)
    (hnames : ∀ n node, (n, node) ∈ g.computed order → OneLine node.origin.pkg ∧ OneLine node.origin.name) :
    p.OnLines := by
  have hfields := (l.declares hnodup).fields
  rw [← l.computed_eq] at hfields hss
  have hkeeps : ∀ n node, (n, node) ∈ g.computed order → Program.Draft.Keeps node :=
    fun n node hn => hbuilt.keeps (Graph.mem_computed.mp hn).2.1
  have himports : ∀ e ∈ p.imports.entries, OneLine e.1 ∧ OneLine e.2 := by
    rintro ⟨pkg, module⟩ he
    have hget := Table.mem_entries_iff.mp he
    refine ⟨?_, ?_⟩
    · rcases l.mem_imports.mp (Table.mem_keys_iff.mpr ⟨module, hget⟩) with ⟨rfl, -⟩ | ⟨n, node, hn, rfl, -⟩
      · show OneLine standardPackage
        decide
      · exact (hnames n node hn).1
    · have hvalue := Table.mem_values_iff.mpr ⟨pkg, hget⟩
      rw [l.imports] at hvalue
      exact Program.oneLine_aliases _ module hvalue
  have hmodule : ∀ pkg, OneLine (Program.moduleOf p.imports pkg) :=
    Program.oneLine_moduleOf fun e he => (himports e he).2
  have hfieldNames : ∀ f ∈ p.fields.values, OneLine f.name := by
    rw [l.fields]
    exact Program.oneLine_fieldsOf _
  refine ⟨himports, hparams, ?_, ?_, ?_⟩
  · intro f hf
    refine ⟨hfieldNames f hf, ?_⟩
    obtain ⟨n, hget⟩ := Table.mem_values_iff.mp hf
    obtain ⟨node, hn, -, horigin⟩ := hfields.sound n f hget
    exact horigin ▸ (hnames n node hn).2
  · intro s hs
    have hin := hs
    rw [hbody, List.mem_flatMap] at hin
    obtain ⟨⟨n, statements⟩, hin, hstatement⟩ := hin
    obtain ⟨node, hn, hcalls⟩ := Program.Draft.names_of_sections hss hin
    obtain ⟨keeper, -, huses⟩ := Program.Draft.usesField_of_sections hkeeps hss hin
    refine oneLine_renderStatement hmodule ?_ ?_ (hcalls s hstatement) (hnames n node hn).2
    · obtain ⟨front, back, hsplit⟩ := List.append_of_mem hs
      exact fun o ho => (hscoped.used front s back hsplit o ho).oneLine_render hparams
    · intro field hfield
      unfold Program.Draft.UsesField at huses
      split at huses
      · obtain ⟨f, hf, hall⟩ := huses
        rw [hall s hstatement] at hfield
        injection hfield with hfield
        exact hfield ▸ hfieldNames f (Table.mem_values_iff.mpr ⟨_, hf⟩)
      · rw [huses s hstatement] at hfield
        exact absurd hfield (by simp)
  · exact fun o ho => (hscoped.results o ho).oneLine_render hparams

end Listing

namespace Graph

variable {g : Graph}

/--
**The imports of a program.** The source of a graph of factory nodes is written whatever the settings of the
arrangement. Where no package and no name has a line feed, the lines that import something are those of the imports, one
for each package. The imports are in order if and only if all that is written for has a package or is an operator: then they are
the packages of the nodes, with the standard library if anything keeps state, each with a path and a name of its own,
and functions and fields are under the name of their own package.
-/
theorem source_imports (hg : g.Edited) (config : ArrangeConfig) :
    ∃ p ss, g.program (g.arrange config) = .ok p ∧ g.source config = .ok p.render
      ∧ g.sections (g.arrange config) = .ok ss ∧ p.body = ss.flatMap Prod.snd
      ∧ ((∀ n node, (n, node) ∈ g.computed (g.arrange config).nodes →
            OneLine node.origin.pkg ∧ OneLine node.origin.name) →
          useLines p.render = p.imports.entries.map fun e => Program.importLine e.1 e.2)
      ∧ (p.OwnsImports g (g.arrange config).nodes ss ↔
          ∀ n node, (n, node) ∈ g.computed (g.arrange config).nodes →
            node.origin.pkg = "" → node.isOperator = true) := by
  obtain ⟨hwf, hbuilt⟩ := hg.rebuilt
  obtain ⟨p, hp⟩ := hg.exists_program config
  have hnodup : (g.arrange config).nodes.Nodup := (hwf.arrange_nodes config).nodup_iff.mpr hwf.nodup
  obtain ⟨l⟩ := exists_listing hp
  obtain ⟨ss, hss, hbody, -⟩ := Program.Draft.sections_spec l.emitted
  have hstatements : p.body = ss.flatMap Prod.snd := by
    rw [l.body, hbody]
    rfl
  refine ⟨p, ss, hp, Except.map_eq_ok_iff.mpr ⟨p, hp, rfl⟩, ?_, hstatements, ?_,
    l.ownsImports_iff hnodup hbuilt hss⟩
  · exact Except.bind_eq_ok_iff.mpr ⟨p, hp, Except.bind_eq_ok_iff.mpr ⟨l.listed, l.lookUp, hss⟩⟩
  · intro hnames
    have hscoped := l.namesScoped fun n node hn hd => (hbuilt.delay_shape hn hd).2
    exact (l.onLines hnodup hbuilt hss hstatements hscoped (Program.oneLine_params hp) hnames).useLines_render

/-! ## A function of a package -/

/-- A function. -/
def doubling : Capability := .function ⟨[⟨"x", .f32⟩], [⟨"", .f32⟩]⟩

/-- A manifest that has the function in a package. -/
def doubler (pkg : String) : Manifest := .ofEntries [(⟨pkg, "twice"⟩, doubling)]

/-- A graph of the function alone. -/
def doubled (pkg : String) : Graph := (empty "doubled").run [.add (.provided ⟨pkg, "twice"⟩ doubling)]

section Doubled

variable {pkg : String} (hbuiltin : Node.builtin? ⟨pkg, "twice"⟩ = none)

include hbuiltin

theorem doubled_reachable : (doubled pkg).Reachable (Edit.Builds (doubler pkg).resolve) := by
  have hresolve : (doubler pkg).resolve ⟨pkg, "twice"⟩ = some doubling :=
    Table.get?_setAll_of_mem _ (by simp) List.mem_cons_self
  have hroom : 0 + 1 < 2 ^ 32 := by decide
  refine ⟨"doubled", [.add (.provided ⟨pkg, "twice"⟩ doubling)], ?_, roomFor_of_length hroom hroom, rfl⟩
  intro e he
  rw [List.mem_singleton.mp he]
  exact Or.inl ⟨_, Node.build_of_resolve hbuiltin hresolve rfl⟩

/-- Whatever the settings, there is but one order. -/
theorem program_doubled (hnodes : (doubled pkg).allNodes = [⟨0⟩]) (config : ArrangeConfig) :
    ((doubled pkg).arrange config).nodes = [⟨0⟩]
      ∧ (doubled pkg).program ((doubled pkg).arrange config) = (doubled pkg).program (.ofNodes [⟨0⟩]) := by
  have hwf : (doubled pkg).WellFormed := (doubled_reachable hbuiltin).editedBy.rebuilds.1
  have horder : ((doubled pkg).arrange config).nodes = [⟨0⟩] :=
    List.perm_singleton.mp (hnodes ▸ hwf.arrange_nodes config)
  refine ⟨horder, ?_⟩
  unfold program
  rw [horder]
  rfl

end Doubled

/-- The function of a package is imported with the package. -/
theorem doubled_imports : ∃ p ss, (doubled "my/fx").program ((doubled "my/fx").arrange { }) = .ok p
    ∧ useLines p.render = ["use my::fx as fx;"]
    ∧ p.OwnsImports (doubled "my/fx") ((doubled "my/fx").arrange { }).nodes ss := by
  have hbuiltin : Node.builtin? ⟨"my/fx", "twice"⟩ = none := by decide
  obtain ⟨hnodes, hprogram⟩ := program_doubled hbuiltin (by decide) { }
  obtain ⟨p, ss, hp, -, -, -, hlines, howns⟩ :=
    source_imports ((doubled_reachable hbuiltin).mono fun e he => ⟨_, he⟩).edited { }
  have himports : ((doubled "my/fx").program (.ofNodes [⟨0⟩])).toOption.map (·.imports.entries)
      = some [("my/fx", "fx")] := by decide
  rw [← hprogram, hp] at himports
  injection himports with himports
  dsimp only at himports
  have hcomputed : ∀ e ∈ (doubled "my/fx").computed [⟨0⟩],
      (OneLine e.2.origin.pkg ∧ OneLine e.2.origin.name) ∧ e.2.origin.pkg ≠ "" := by decide
  refine ⟨p, ss, hp, ?_, howns.mpr ?_⟩
  · rw [hlines, himports]
    · decide
    · rw [hnodes]
      exact fun n node hn => (hcomputed _ hn).1
  · rw [hnodes]
    exact fun n node hn hpkg => absurd hpkg (hcomputed _ hn).2

/--
A function without a package is imported from an empty path, which stands in the text. A package whose name has a line
feed leaves two lines behind.
-/
theorem imports_mislead :
    (¬∀ (m : Manifest) (g : Graph) (config : ArrangeConfig) (p : Program) ss, g.Reachable (Edit.Builds m.resolve) →
      g.program (g.arrange config) = .ok p → g.sections (g.arrange config) = .ok ss →
        p.OwnsImports g (g.arrange config).nodes ss)
    ∧ (doubled "").source { } = .ok (generatedHeader ++
      "\n\nuse  as pkg;\n\npub fn doubled() \x7b\n    let _ = pkg::twice(0.0);\n\x7d\n")
    ∧ ((doubled "a\nuse b").source { }).toOption.map useLines = some ["use a", "use b as a_use_b;"] := by
  have hbuiltin : Node.builtin? ⟨"", "twice"⟩ = none := by decide
  have hfeed : Node.builtin? ⟨"a\nuse b", "twice"⟩ = none := by decide
  have hprogram := (program_doubled hbuiltin (by decide) { }).2
  obtain ⟨p, hp⟩ := ((doubled_reachable hbuiltin).mono fun e he => ⟨_, he⟩).edited.exists_program { }
  obtain ⟨ss, hss, -, -⟩ := sections_of_program hp
  have hparts : ((doubled "").program (.ofNodes [⟨0⟩])).toOption.map (fun p => (p.imports.keys, p.render))
      = some ([""], generatedHeader ++
        "\n\nuse  as pkg;\n\npub fn doubled() \x7b\n    let _ = pkg::twice(0.0);\n\x7d\n") := by
    decide
  rw [← hprogram, hp] at hparts
  injection hparts with hparts
  injection hparts with hkeys htext
  refine ⟨fun hall => ?_, Except.map_eq_ok_iff.mpr ⟨p, hp, htext⟩, ?_⟩
  · exact (hall (doubler "") (doubled "") { } p ss (doubled_reachable hbuiltin) hp hss).paths ""
      (hkeys ▸ List.mem_cons_self) rfl
  · unfold source Arrangement.source
    rw [(program_doubled hfeed (by decide) { }).2]
    decide +kernel

end Graph

end SignalGraph
