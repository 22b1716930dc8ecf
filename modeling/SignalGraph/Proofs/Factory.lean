import Mathlib.Data.List.DropRight
import SignalGraph.Capability
import SignalGraph.Program.Generate
import SignalGraph.Proofs.Graph.Run

/-!
# Nodes that are built from their origins

`Built` lists what the factory makes. A node that was built can be built again from its own origin, and the
origin alone decides what comes out (`build_again`): a mark, an operator and a number are never confused, and a
number keeps the text without the blanks around it.

Renaming a terminal gives the terminal that would have been built under the other name. So in every graph of
factory nodes, all nodes but the readers of delay lines are what their origins build (`Rebuilds`).
-/

namespace SignalGraph

namespace Text

theorem trim_trim (p : Char → Bool) (s : String) : trim p (trim p s) = trim p s := by
  have hfirst : ((s.toList.dropWhile p).rdropWhile p).dropWhile p = (s.toList.dropWhile p).rdropWhile p := by
    rw [List.dropWhile_eq_self_iff]
    intro hpos
    -- the first character is the one that was left after dropping
    have hprefix := List.rdropWhile_prefix p (l := s.toList.dropWhile p)
    rw [List.IsPrefix.getElem hprefix hpos]
    exact List.dropWhile_get_zero_not p s.toList (Nat.lt_of_lt_of_le hpos hprefix.length_le)
  have hlast := List.rdropWhile_idempotent p (s.toList.dropWhile p)
  unfold trim
  rw [String.toList_ofList]
  unfold List.rdropWhile at hfirst hlast
  rw [hfirst, hlast]

end Text

namespace Node

/-! ## Marks, operators and numbers -/

/-- A name that starts with a mark is not read as a number. -/
theorem parseConstant?_terminalMark (d : Direction) (name : String) :
    parseConstant? (terminalMark d ++ name) = none := by
  have hread : Decimal.read? (terminalMark d ++ name).toList = none := by
    rw [String.toList_append]
    cases d <;> rfl
  unfold parseConstant?
  rw [hread]
  rfl

/-- Terminals are no numbers. -/
theorem isConstant_of_isTerminalOf {n : Node} {d : Direction} (h : n.isTerminalOf d = true) :
    n.isConstant = false := by
  obtain ⟨-, name, hname⟩ := isTerminalOf_iff.mp h
  unfold isConstant constantValue?
  rw [hname, parseConstant?_terminalMark d name]
  split <;> rfl

theorem parseConstant?_operator {op : String} (h : op ∈ operators) : parseConstant? op = none := by
  unfold operators at h
  simp only [List.mem_cons, List.not_mem_nil, or_false] at h
  rcases h with rfl | rfl | rfl | rfl <;> rfl

theorem terminalMark_not_operator (d : Direction) (name : String) : terminalMark d ++ name ∉ operators := by
  intro h
  unfold operators at h
  simp only [List.mem_cons, List.not_mem_nil, or_false] at h
  rcases h with h | h | h | h <;>
    · have hl := congrArg String.toList h
      cases d <;> simp [terminalMark] at hl

/-! ## What the factory makes -/

def operator (op : String) : Node := .ofNames ⟨"", op⟩ ["", ""] [""]

def number (text : String) : Node := .ofNames ⟨"", text⟩ [] [""]

def provided (origin : Origin) (c : Capability) : Node :=
  { Node.ofNames origin (c.process.params.map (·.name)) (c.process.results.map (·.name)) with
    stateful := c.isStateful }

/-- The nodes that can be built, with the origins that they are built from. -/
inductive Built (resolve : Origin → Option Capability) : Origin → Node → Prop where
  | delay : Built resolve delayOrigin delayWrite
  | terminal (d : Direction) (name : String) : Built resolve ⟨"", terminalMark d ++ name⟩ (.terminal d name)
  | operator {op : String} (h : op ∈ operators) : Built resolve ⟨"", op⟩ (operator op)
  | number {text : String} (hvalue : (parseConstant? (Text.trim Text.isBlank text)).isSome = true) :
      Built resolve ⟨"", text⟩ (number (Text.trim Text.isBlank text))
  | provided {origin : Origin} {c : Capability} (hbuiltin : builtin? origin = none)
      (hresolve : resolve origin = some c) (husable : c.isUsable = true) : Built resolve origin (provided origin c)

section Built

variable {resolve : Origin → Option Capability} {origin : Origin} {node : Node}

theorem builtin?_delay : builtin? delayOrigin = some delayWrite := rfl

theorem builtin?_terminal (d : Direction) (name : String) :
    builtin? ⟨"", terminalMark d ++ name⟩ = some (.terminal d name) := by
  have hself : ∀ d', Text.stripPrefix? (terminalMark d') (terminalMark d' ++ name) = some name :=
    fun d' => Text.stripPrefix?_eq_some_iff.mpr rfl
  unfold builtin?
  rw [if_neg (by simp [delayOrigin, standardPackage]), if_neg (by simp [Origin.isBuiltin])]
  cases d with
  | input =>
      dsimp only
      rw [hself .input]
  | output =>
      have hnot : Text.stripPrefix? (terminalMark .input) (terminalMark .output ++ name) = none := by
        rw [Option.eq_none_iff_forall_ne_some]
        intro t ht
        exact terminalMark_ne t name (Text.stripPrefix?_eq_some_iff.mp ht).symm
      dsimp only
      rw [hnot, hself .output]

/-- A name without a mark is that of an operator or of a number. -/
theorem builtin?_unmarked {text : String} (h : ∀ d name, text ≠ terminalMark d ++ name) :
    builtin? ⟨"", text⟩ = (operator? text <|> constant? text) := by
  have hnot : ∀ d, Text.stripPrefix? (terminalMark d) text = none := by
    intro d
    rw [Option.eq_none_iff_forall_ne_some]
    intro t ht
    exact h d t (Text.stripPrefix?_eq_some_iff.mp ht)
  unfold builtin?
  rw [if_neg (by simp [delayOrigin, standardPackage]), if_neg (by simp [Origin.isBuiltin])]
  dsimp only
  rw [hnot .input, hnot .output]

theorem builtin?_operator {op : String} (h : op ∈ operators) : builtin? ⟨"", op⟩ = some (operator op) := by
  rw [builtin?_unmarked (fun d name heq => terminalMark_not_operator d name (heq ▸ h))]
  unfold operator?
  rw [if_pos (List.contains_iff_mem.mpr h)]
  rfl

theorem builtin?_number {text : String} (h : (parseConstant? text).isSome = true)
    (htrim : Text.trim Text.isBlank text = text) : builtin? ⟨"", text⟩ = some (number text) := by
  have hmark : ∀ d name, text ≠ terminalMark d ++ name := by
    rintro d name rfl
    rw [parseConstant?_terminalMark] at h
    exact absurd h (by simp)
  have hop : text ∉ operators := by
    intro hop
    rw [parseConstant?_operator hop] at h
    exact absurd h (by simp)
  rw [builtin?_unmarked hmark]
  unfold operator? constant?
  dsimp only
  rw [if_neg (by rwa [List.contains_iff_mem]), htrim, if_pos h]
  rfl

theorem built_of_mark {d : Direction} {name : String} (hb : origin.isBuiltin = true)
    (hname : Text.stripPrefix? (terminalMark d) origin.name = some name) :
    Built resolve origin (.terminal d name) := by
  have hpkg : origin.pkg = "" := Origin.isBuiltin_iff.mp hb
  have horigin : origin = ⟨"", terminalMark d ++ name⟩ := by
    rw [← hpkg, ← Text.stripPrefix?_eq_some_iff.mp hname]
  rw [horigin]
  exact .terminal d name

theorem built_of_unmarked (hb : origin.isBuiltin = true)
    (h : (operator? origin.name <|> constant? origin.name) = some node) : Built resolve origin node := by
  have hpkg : origin.pkg = "" := Origin.isBuiltin_iff.mp hb
  have horigin : origin = ⟨"", origin.name⟩ := by rw [← hpkg]
  rw [horigin]
  unfold operator? constant? at h
  dsimp only at h
  by_cases hop : operators.contains origin.name = true
  · rw [if_pos hop] at h
    injection h with h
    rw [← h]
    exact .operator (List.contains_iff_mem.mp hop)
  · -- what is no operator has to be a number
    rw [if_neg hop, Option.orElse_eq_orElse, Option.orElse_none] at h
    split at h
    · rename_i hvalue
      injection h with h
      rw [← h]
      exact .number hvalue
    · exact absurd h (by simp)

theorem built_of_builtin? (h : builtin? origin = some node) : Built resolve origin node := by
  unfold builtin? at h
  split at h
  · rename_i horigin
    injection h with h
    rw [← h, horigin]
    exact .delay
  split at h
  · exact absurd h (by simp)
  rename_i hb
  have hb' : origin.isBuiltin = true := by simpa using hb
  -- the factory looks for the mark of an input, then for that of an output
  split at h
  · rename_i name hname
    injection h with h
    rw [← h]
    exact built_of_mark hb' hname
  split at h
  · rename_i name hname
    injection h with h
    rw [← h]
    exact built_of_mark hb' hname
  · exact built_of_unmarked hb' h

theorem build_of_builtin? (h : builtin? origin = some node) : build resolve origin = .ok node := by
  unfold build
  rw [h]

/-- A usable capability makes a node with a port for each parameter and result. -/
theorem toNode?_eq_some_iff {c : Capability} :
    c.toNode? origin = some node ↔ c.isUsable = true ∧ node = provided origin c := by
  unfold Capability.toNode?
  split
  · rename_i husable
    rw [Option.some.injEq, eq_comm]
    exact (and_iff_right husable).symm
  · rename_i hnot
    exact ⟨fun h => absurd h (by simp), fun h => absurd h.1 hnot⟩

theorem build_of_resolve {c : Capability} (hbuiltin : builtin? origin = none) (hresolve : resolve origin = some c)
    (husable : c.isUsable = true) : build resolve origin = .ok (provided origin c) := by
  unfold build
  rw [hbuiltin]
  dsimp only
  rw [hresolve]
  dsimp only
  rw [toNode?_eq_some_iff.mpr ⟨husable, rfl⟩]

/-- What is built is built in, or it is made of a usable capability. -/
theorem build_cases (h : build resolve origin = .ok node) :
    builtin? origin = some node
      ∨ builtin? origin = none ∧ ∃ c, resolve origin = some c ∧ c.isUsable = true ∧ node = provided origin c := by
  unfold build at h
  split at h
  · rename_i found hfound
    injection h with h
    exact Or.inl (h ▸ hfound)
  · rename_i hnone
    split at h
    · exact absurd h (by simp)
    · rename_i c hresolve
      split at h
      · exact absurd h (by simp)
      · rename_i made hmade
        injection h with h
        obtain ⟨husable, heq⟩ := toNode?_eq_some_iff.mp hmade
        exact Or.inr ⟨hnone, c, hresolve, husable, h ▸ heq⟩

theorem built_of_build (h : build resolve origin = .ok node) : Built resolve origin node := by
  rcases build_cases h with hbuiltin | ⟨hnone, c, hresolve, husable, rfl⟩
  · exact built_of_builtin? hbuiltin
  · exact .provided hnone hresolve husable

/-- A node that was built is built again from its own origin. -/
theorem Built.build_again (h : Built resolve origin node) : build resolve node.origin = .ok node := by
  cases h with
  | delay => exact build_of_builtin? builtin?_delay
  | terminal d name =>
      have horigin : (Node.terminal d name).origin = ⟨"", terminalMark d ++ name⟩ := by cases d <;> rfl
      rw [horigin]
      exact build_of_builtin? (builtin?_terminal d name)
  | operator hop => exact build_of_builtin? (builtin?_operator hop)
  | number hvalue => exact build_of_builtin? (builtin?_number hvalue (Text.trim_trim _ _))
  | provided hnone hresolve husable => exact build_of_resolve hnone hresolve husable

theorem Built.unconnected (h : Built resolve origin node) : node.Unconnected := by
  cases h with
  | delay => exact delayWrite_unconnected
  | terminal d name => exact terminal_unconnected d name
  | operator _ => exact ofNames_unconnected _ _ _
  | number _ => exact ofNames_unconnected _ _ _
  | provided _ _ _ =>
      intro p hp
      exact ofNames_unconnected origin _ _ p hp

/-- The only node with a part in a delay line is the owner of a line. -/
theorem Built.delay_cases (h : Built resolve origin node) : node.delay = none ∨ node = delayWrite := by
  cases h with
  | delay => exact Or.inr rfl
  | terminal d name => cases d <;> exact Or.inl rfl
  | operator _ => exact Or.inl rfl
  | number _ => exact Or.inl rfl
  | provided _ _ _ => exact Or.inl rfl

/-- A node has no more ports than a signature may have, and two are always enough for what is built in. -/
theorem Built.ports_le {bound : Nat} (hbound : 2 ≤ bound)
    (hsignatures : ∀ o c, resolve o = some c → c.process.params.length ≤ bound ∧ c.process.results.length ≤ bound)
    (h : Built resolve origin node) : node.inputs.length ≤ bound ∧ node.outputs.length ≤ bound := by
  cases h with
  | delay => exact ⟨hbound, Nat.le_of_succ_le hbound⟩
  | terminal d name =>
      cases d with
      | input => exact ⟨Nat.zero_le _, Nat.le_of_succ_le hbound⟩
      | output => exact ⟨Nat.le_of_succ_le hbound, Nat.zero_le _⟩
  | operator _ => exact ⟨hbound, Nat.le_of_succ_le hbound⟩
  | number _ => exact ⟨Nat.zero_le _, Nat.le_of_succ_le hbound⟩
  | provided _ hresolve _ =>
      obtain ⟨hparams, hresults⟩ := hsignatures _ _ hresolve
      unfold Node.provided Node.ofNames
      simp only [List.length_map]
      exact ⟨hparams, hresults⟩

/-- A marked node that was built is a terminal of that direction. -/
theorem Built.eq_terminal (h : Built resolve origin node) {d : Direction} {name : String}
    (horigin : node.origin = ⟨"", terminalMark d ++ name⟩) : node = .terminal d name := by
  have hagain := h.build_again
  unfold build at hagain
  rw [horigin, builtin?_terminal] at hagain
  injection hagain with hagain
  exact hagain.symm

end Built

/-! ## Graphs of factory nodes -/

/-- A node is what its origin builds, or a reader of a delay line. -/
def Rebuilds (resolve : Origin → Option Capability) (node : Node) : Prop :=
  build resolve node.origin = .ok node ∨ ∃ w, node = delayRead w

end Node

/-- The edit adds no node but those that can be built. -/
def Edit.Builds (resolve : Origin → Option Capability) : Edit → Prop
  | add node => (∃ origin, Node.build resolve origin = .ok node) ∨ ∃ w, node = .delayRead w
  | _ => True

section Builds

variable {resolve : Origin → Option Capability}

theorem Edit.Builds.rebuilds {node : Node} (h : (Edit.add node).Builds resolve) : node.Rebuilds resolve := by
  rcases h with ⟨origin, h⟩ | h
  · exact Or.inl (Node.built_of_build h).build_again
  · exact Or.inr h

theorem Node.Rebuilds.unconnected {node : Node} (h : node.Rebuilds resolve) : node.Unconnected := by
  rcases h with h | ⟨w, rfl⟩
  · exact (Node.built_of_build h).unconnected
  · exact Node.delayRead_unconnected w

theorem Edit.Builds.clean {e : Edit} (h : e.Builds resolve) : e.Clean := by
  cases e with
  | add node => exact h.rebuilds.unconnected
  | _ => trivial

/-- A terminal under another name is the terminal of that name. -/
theorem Node.bare_renamedTerminal {node node' : Node} {name : String}
    (h : ∀ d, node.isTerminalOf d = true → ∃ t, node.bare = .terminal d t)
    (hren : Graph.renamedTerminal? node name = some node') : ∃ d, node'.bare = .terminal d name := by
  obtain ⟨origin, stateful, inputs, outputs, delay⟩ := node
  unfold Graph.renamedTerminal? at hren
  dsimp only at hren
  split at hren
  · rename_i hin
    obtain ⟨t, ht⟩ := h .input hin
    injection ht with horigin hstate hinputs houtputs hdelay
    have hempty : inputs = [] := List.map_eq_nil_iff.mp hinputs
    obtain ⟨port, hport, -⟩ := List.map_eq_singleton_iff.mp houtputs
    dsimp only at horigin hstate hdelay hport
    injection hren with hren
    refine ⟨.input, ?_⟩
    rw [← hren, horigin, hstate, hempty, hport, hdelay]
    rfl
  · split at hren
    · rename_i hout
      obtain ⟨t, ht⟩ := h .output hout
      injection ht with horigin hstate hinputs houtputs hdelay
      have hempty : outputs = [] := List.map_eq_nil_iff.mp houtputs
      obtain ⟨port, hport, -⟩ := List.map_eq_singleton_iff.mp hinputs
      dsimp only at horigin hstate hdelay hport
      injection hren with hren
      refine ⟨.output, ?_⟩
      rw [← hren, horigin, hstate, hempty, hport, hdelay]
      rfl
    · exact absurd hren (by simp)

/-- A node with the mark of a terminal is that terminal, but for its connections. -/
theorem Node.Rebuilds.eq_terminal {node : Node} (h : node.bare.Rebuilds resolve) {d : Direction}
    (hd : node.isTerminalOf d = true) : ∃ t, node.bare = .terminal d t := by
  obtain ⟨hb, t, ht⟩ := Node.isTerminalOf_iff.mp hd
  have hpkg : node.origin.pkg = "" := Origin.isBuiltin_iff.mp hb
  have horigin : node.bare.origin = ⟨"", terminalMark d ++ t⟩ := by
    show node.origin = _
    rw [← hpkg, ← ht]
  rcases h with h | ⟨w, hw⟩
  · exact ⟨t, (Node.built_of_build h).eq_terminal horigin⟩
  · rw [hw] at horigin
    have hno := congrArg Origin.pkg horigin
    exact absurd hno (by simp [Node.delayRead, Node.ofNames, delayOrigin, standardPackage])

/-- Renaming a terminal that was built gives one that is built under the other name. -/
theorem Node.Rebuilds.renamed {node node' : Node} {name : String} (h : node.bare.Rebuilds resolve)
    (hren : Graph.renamedTerminal? node name = some node') : node'.bare.Rebuilds resolve := by
  obtain ⟨d, hd⟩ := Node.bare_renamedTerminal (fun d hd => h.eq_terminal hd) hren
  rw [hd]
  exact Or.inl (Node.Built.terminal d name).build_again

/-- The three kinds of nodes that a loader tells apart. -/
theorem Node.Rebuilds.delay_cases {node : Node} (h : node.bare.Rebuilds resolve) :
    (node.delay = none ∧ Node.build resolve node.origin = .ok node.bare)
      ∨ (node.delay = some .write ∧ node.bare = delayWrite) ∨ ∃ w, node.delay = some (.read w) ∧ node.bare = delayRead w := by
  have hdelay : node.bare.delay = node.delay := rfl
  rcases h with hbuild | ⟨w, hw⟩
  · rcases (Node.built_of_build hbuild).delay_cases with hnone | hwrite
    · exact Or.inl ⟨hnone, hbuild⟩
    · exact Or.inr (Or.inl ⟨by rw [← hdelay, hwrite]; rfl, hwrite⟩)
  · exact Or.inr (Or.inr ⟨w, by rw [← hdelay, hw]; rfl, hw⟩)

/-- A node with a part in a delay line is of the kind of delays, keeps state, and has one output. -/
theorem Node.Rebuilds.delay_shape {node : Node} (h : node.bare.Rebuilds resolve) (hd : node.isDelay = true) :
    node.origin = delayOrigin ∧ node.outputs.length = 1 := by
  have hshape : node.bare.origin = delayOrigin ∧ node.bare.outputs.length = 1 := by
    rcases h.delay_cases with ⟨hnone, -⟩ | ⟨-, hwrite⟩ | ⟨w, -, hread⟩
    · unfold Node.isDelay at hd
      rw [hnone] at hd
      exact absurd hd (by simp)
    · rw [hwrite]
      exact ⟨rfl, rfl⟩
    · rw [hread]
      exact ⟨rfl, rfl⟩
  have hlen : node.bare.outputs.length = node.outputs.length := List.length_map _
  exact ⟨hshape.1, hlen ▸ hshape.2⟩

theorem Node.Rebuilds.ports_le {node : Node} {bound : Nat} (hbound : 2 ≤ bound)
    (hsignatures : ∀ o c, resolve o = some c → c.process.params.length ≤ bound ∧ c.process.results.length ≤ bound)
    (h : node.bare.Rebuilds resolve) : node.inputs.length ≤ bound ∧ node.outputs.length ≤ bound := by
  have hlengths : node.bare.inputs.length = node.inputs.length ∧ node.bare.outputs.length = node.outputs.length :=
    ⟨List.length_map _, List.length_map _⟩
  rw [← hlengths.1, ← hlengths.2]
  rcases h with hbuild | ⟨w, hw⟩
  · exact (Node.built_of_build hbuild).ports_le hbound hsignatures
  · rw [hw]
    exact ⟨Nat.le_of_succ_le hbound, Nat.le_of_succ_le hbound⟩

/-- What is of the kind of delays has a package, so it is neither a number nor a terminal. -/
theorem Node.isComputed_of_delayOrigin {node : Node} (h : node.origin = delayOrigin) : node.isComputed = true := by
  have hb : node.origin.isBuiltin = false := by
    rw [h]
    rfl
  unfold Node.isComputed Node.isConstant Node.constantValue? Node.isTerminal Node.isInputTerminal
    Node.isOutputTerminal Node.isTerminalOf
  rw [hb]
  rfl

namespace Graph

theorem lasting_rebuilds : Lasting (Node.Rebuilds resolve) where
  terminal d name := Or.inl (Node.Built.terminal d name).build_again
  delayRead w := Or.inr ⟨w, rfl⟩
  renamed _ _ _ h hren := h.renamed hren

/-- Edits that add factory nodes leave every node what its origin builds, or a reader of a delay line. -/
theorem AllBare.run_rebuilds {g : Graph} {es : List Edit} (h : g.AllBare (Node.Rebuilds resolve)) (hwf : g.WellFormed)
    (hes : ∀ e ∈ es, e.Builds resolve) (hroom : g.RoomFor es) :
    (g.run es).WellFormed ∧ (g.run es).AllBare (Node.Rebuilds resolve) := by
  refine h.run (fun e he => he.clean) lasting_rebuilds ?_ hwf hes hroom
  intro node he
  rw [he.rebuilds.unconnected.bare_eq]
  exact he.rebuilds

/-- The same if the factory may know something else at each edit. -/
theorem AllBare.run_rebuilt {g : Graph} {es : List Edit} (h : g.AllBare fun node => ∃ resolve, node.Rebuilds resolve)
    (hwf : g.WellFormed) (hes : ∀ e ∈ es, ∃ resolve, e.Builds resolve) (hroom : g.RoomFor es) :
    (g.run es).WellFormed ∧ (g.run es).AllBare fun node => ∃ resolve, node.Rebuilds resolve := by
  refine h.run ?_ ⟨?_, ?_, ?_⟩ ?_ hwf hes hroom
  · rintro e ⟨resolve, he⟩
    exact he.clean
  · intro d name
    exact ⟨fun _ => none, lasting_rebuilds.terminal d name⟩
  · intro w
    exact ⟨fun _ => none, lasting_rebuilds.delayRead w⟩
  · rintro node node' name ⟨resolve, hnode⟩ hren
    exact ⟨resolve, hnode.renamed hren⟩
  · rintro node ⟨resolve, he⟩
    rw [he.rebuilds.unconnected.bare_eq]
    exact ⟨resolve, he.rebuilds⟩

/-- A node with a part in a delay line is of the kind of delays and has one output. -/
theorem AllBare.delay_shape {g : Graph} (h : g.AllBare fun node => ∃ resolve, node.Rebuilds resolve) {n : NodeId}
    {node : Node} (hn : g.node? n = some node) (hd : node.isDelay = true) :
    node.origin = delayOrigin ∧ node.outputs.length = 1 := by
  obtain ⟨resolve, hnode⟩ := h n node hn
  exact hnode.delay_shape hd

end Graph

end Builds

end SignalGraph
