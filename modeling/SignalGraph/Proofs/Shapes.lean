import SignalGraph.Proofs.Factory
import SignalGraph.Proofs.Graph.Checking

/-!
# The ports of factory nodes

The statements of a program take ports for granted: both operands of an operator, the time and the value of a
delay, the output that a reader is bound to, the output of a number. Nodes that the factory makes have them
(`Node.Regular`). What a package provides has the ports of its signature, which may be any; it is told from
numbers, operators and terminals by its name, for the factory looks for those first.
-/

namespace SignalGraph

/-! ## The text of a number -/

namespace Decimal

theorem not_isBlank_of_isDigit {c : Char} (h : c.isDigit = true) : Text.isBlank c = false := by
  unfold Char.isDigit at h
  rw [Bool.and_eq_true, decide_eq_true_eq, decide_eq_true_eq] at h
  have hlow : 48 ≤ c.toNat := UInt32.le_iff_toNat_le.mp h.1
  have hhigh : c.toNat ≤ 57 := UInt32.le_iff_toNat_le.mp h.2
  have hspace : (c == ' ') = false := by
    rw [beq_eq_false_iff_ne]
    rintro rfl
    exact absurd hlow (by decide)
  unfold Text.isBlank
  simp only [hspace, Bool.or_eq_false_iff, Bool.and_eq_false_iff, decide_eq_false_iff_not, beq_eq_false_iff_ne,
    true_and]
  omega

theorem mem_splitSign {cs : List Char} {c : Char} (h : c ∈ cs) :
    c = '-' ∨ c = '+' ∨ c ∈ (splitSign cs).2 := by
  unfold splitSign
  split
  · exact (List.mem_cons.mp h).imp_right Or.inr
  · exact Or.inr (List.mem_cons.mp h)
  · exact Or.inr (Or.inr h)

theorem not_isBlank_of_readExponent? {cs : List Char} {e : Int} (h : readExponent? cs = some e) :
    ∀ c ∈ cs, Text.isBlank c = false := by
  cases cs with
  | nil => simp
  | cons first cs =>
      unfold readExponent? at h
      dsimp only at h
      split at h
      · rename_i hletter
        split at h
        · exact absurd h (by simp)
        · rename_i hdigits
          rw [Bool.or_eq_true, not_or, Bool.not_eq_true, Bool.not_eq_true, Bool.not_eq_false', List.all_eq_true]
            at hdigits
          rw [Bool.or_eq_true, beq_iff_eq, beq_iff_eq] at hletter
          intro c hc
          rcases List.mem_cons.mp hc with rfl | hc
          · rcases hletter with rfl | rfl <;> rfl
          · rcases mem_splitSign hc with rfl | rfl | hc
            · rfl
            · rfl
            · exact not_isBlank_of_isDigit (hdigits.2 c hc)
      · exact absurd h (by simp)

/-- A number has no blanks, neither around it nor inside. -/
theorem not_isBlank_of_read? {cs : List Char} {d : Decimal} (h : read? cs = some d) :
    ∀ c ∈ cs, Text.isBlank c = false := by
  have hdigits : ∀ cs : List Char, ∀ c ∈ cs.takeWhile Char.isDigit, Text.isBlank c = false :=
    fun cs c hc => not_isBlank_of_isDigit (List.mem_takeWhile_imp hc)
  have htail : ∀ {cs : List Char} {e : Int}, readExponent? (cs.dropWhile Char.isDigit) = some e →
      ∀ c ∈ cs, Text.isBlank c = false := by
    intro cs e he c hc
    rw [← List.takeWhile_append_dropWhile (p := Char.isDigit) (l := cs)] at hc
    rcases List.mem_append.mp hc with hc | hc
    · exact hdigits cs c hc
    · exact not_isBlank_of_readExponent? he c hc
  have hbody : ∀ c ∈ (splitSign cs).2, Text.isBlank c = false := by
    unfold read? at h
    dsimp only at h
    split at h
    · rename_i rest hrest
      split at h
      · exact absurd h (by simp)
      · obtain ⟨e, he, -⟩ := Option.map_eq_some_iff.mp h
        intro c hc
        rw [← List.takeWhile_append_dropWhile (p := Char.isDigit) (l := (splitSign cs).2), hrest] at hc
        rcases List.mem_append.mp hc with hc | hc
        · exact hdigits _ c hc
        · rcases List.mem_cons.mp hc with rfl | hc
          · rfl
          · exact htail he c hc
    · split at h
      · exact absurd h (by simp)
      · obtain ⟨e, he, -⟩ := Option.map_eq_some_iff.mp h
        exact htail he
  intro c hc
  rcases mem_splitSign hc with rfl | rfl | hc
  · rfl
  · rfl
  · exact hbody c hc

end Decimal

theorem Text.trim_eq_self {p : Char → Bool} {s : String} (h : ∀ c ∈ s.toList, p c = false) : trim p s = s := by
  have hdrop : ∀ cs : List Char, (∀ c ∈ cs, p c = false) → cs.dropWhile p = cs := by
    intro cs hcs
    cases cs with
    | nil => rfl
    | cons c cs => rw [List.dropWhile_cons, hcs c List.mem_cons_self, if_neg Bool.false_ne_true]
  unfold trim
  rw [hdrop _ h, hdrop _ (fun c hc => h c (List.mem_reverse.mp hc)), List.reverse_reverse, String.ofList_toList]

namespace Node

/-! ## Names of built-in nodes -/

theorem trim_of_parseConstant? {text : String} (h : (parseConstant? text).isSome = true) :
    Text.trim Text.isBlank text = text := by
  obtain ⟨v, hv⟩ := Option.isSome_iff_exists.mp h
  obtain ⟨d, hd, -⟩ := Option.bind_eq_some_iff.mp hv
  exact Text.trim_eq_self (Decimal.not_isBlank_of_read? hd)

section Builtin

variable {node : Node}

theorem origin_of_isBuiltin (h : node.origin.isBuiltin = true) : node.origin = ⟨"", node.origin.name⟩ := by
  have hpkg : node.origin.pkg = "" := Origin.isBuiltin_iff.mp h
  rw [← hpkg]

/-- The factory makes numbers of itself. -/
theorem builtin?_of_isConstant (h : node.isConstant = true) :
    builtin? node.origin = some (number node.origin.name) := by
  unfold isConstant constantValue? at h
  split at h
  · rename_i hb
    rw [origin_of_isBuiltin hb]
    exact builtin?_number h (trim_of_parseConstant? h)
  · exact absurd h (by simp)

theorem builtin?_of_isOperator (h : node.isOperator = true) :
    builtin? node.origin = some (operator node.origin.name) := by
  unfold isOperator at h
  rw [Bool.and_eq_true] at h
  rw [origin_of_isBuiltin h.1]
  exact builtin?_operator (List.contains_iff_mem.mp h.2)

theorem builtin?_of_isTerminalOf {d : Direction} (h : node.isTerminalOf d = true) :
    ∃ name, builtin? node.origin = some (terminal d name) := by
  obtain ⟨hb, name, hname⟩ := isTerminalOf_iff.mp h
  rw [origin_of_isBuiltin hb, hname]
  exact ⟨name, builtin?_terminal d name⟩

end Builtin

/-! ## Ports -/

/-- A node has the ports that its statements take for granted. -/
structure Regular (node : Node) : Prop where
  onePort : node.OnePort
  /-- A number is an output. -/
  number : node.isConstant = true → node.outputs.length = 1
  /-- An operator has two operands. -/
  operator : node.isOperator = true → node.inputs.length = 2
  /-- The owner of a delay line keeps it, and is given a time and a value. -/
  line : node.delay = some .write → node.stateful = true ∧ node.inputs.length = 2
  /-- A reader of a delay line has an output for what it reads. -/
  look : ∀ w, node.delay = some (.read w) → node.outputs.length = 1
  /-- A statement is written for every part in a delay line. -/
  computed : node.isDelay = true → node.isComputed = true

theorem regular_bare {node : Node} : node.bare.Regular ↔ node.Regular := by
  have hin : node.bare.inputs.length = node.inputs.length := List.length_map _
  have hout : node.bare.outputs.length = node.outputs.length := List.length_map _
  constructor
  · rintro ⟨hone, hnumber, hoperator, hline, hlook, hcomp⟩
    rw [hin] at hoperator hline
    rw [hout] at hnumber
    exact ⟨(onePort_bare node).mp hone, hnumber, hoperator, hline, fun w hw => hout ▸ hlook w hw, hcomp⟩
  · rintro ⟨hone, hnumber, hoperator, hline, hlook, hcomp⟩
    rw [← hin] at hoperator hline
    rw [← hout] at hnumber
    exact ⟨(onePort_bare node).mpr hone, hnumber, hoperator, hline, fun w hw => hout ▸ hlook w hw, hcomp⟩

variable {resolve : Origin → Option Capability}

/-- What the factory makes of itself can be told by the name. -/
theorem regular_of_build {node : Node} (h : build resolve node.origin = .ok node) (hdelay : node.delay = none) :
    node.Regular := by
  have hsame : ∀ {found : Node}, builtin? node.origin = some found → node = found := by
    intro found hfound
    unfold build at h
    rw [hfound] at h
    injection h with h
    exact h.symm
  exact {
    onePort := by
      constructor
      · intro hin
        obtain ⟨name, hname⟩ := builtin?_of_isTerminalOf (d := .input) hin
        rw [hsame hname]
        exact ⟨rfl, rfl⟩
      · intro hout
        obtain ⟨name, hname⟩ := builtin?_of_isTerminalOf (d := .output) hout
        rw [hsame hname]
        exact ⟨rfl, rfl⟩
    number := by
      intro hnumber
      rw [hsame (builtin?_of_isConstant hnumber)]
      rfl
    operator := by
      intro hoperator
      rw [hsame (builtin?_of_isOperator hoperator)]
      rfl
    line := by
      intro hwrite
      exact absurd hwrite (by simp [hdelay])
    look := by
      intro w hread
      exact absurd hread (by simp [hdelay])
    computed := by
      intro hpart
      exact absurd hpart (by simp [isDelay, hdelay]) }

/-- A delay has a package, so it is neither a number nor an operator. -/
theorem regular_delayWrite : delayWrite.Regular where
  onePort := ⟨fun h => absurd h (by decide), fun h => absurd h (by decide)⟩
  number := fun h => absurd h (by decide)
  operator := fun h => absurd h (by decide)
  line := fun _ => ⟨rfl, rfl⟩
  look := fun w h => absurd h (by simp [delayWrite])
  computed := fun _ => isComputed_of_delayOrigin rfl

theorem regular_delayRead (w : NodeId) : (delayRead w).Regular where
  onePort := onePort_delayRead w
  number := fun _ => rfl
  operator := fun h =>
    absurd h (by simp [isOperator, delayRead, ofNames, delayOrigin, standardPackage, Origin.isBuiltin])
  line := fun h => absurd h (by simp [delayRead])
  look := fun _ _ => rfl
  computed := fun _ => isComputed_of_delayOrigin rfl

theorem Rebuilds.regular {node : Node} (h : node.Rebuilds resolve) : node.Regular := by
  rcases h with hbuild | ⟨w, rfl⟩
  · rcases (built_of_build hbuild).delay_cases with hnone | rfl
    · exact regular_of_build hbuild hnone
    · exact regular_delayWrite
  · exact regular_delayRead w

/-- What is built in without a package keeps nothing, so statements are written for what does. -/
theorem Rebuilds.of_stateful {node : Node} (h : node.Rebuilds resolve) (hstate : node.stateful = true) :
    node.isComputed = true ∧ node.isOperator = false := by
  have hnot : ∀ {found : Node}, builtin? node.origin = some found → found.delay = none → found.stateful = false →
      False := by
    intro found hfound hnone hstateless
    rcases h with hbuild | ⟨w, rfl⟩
    · unfold build at hbuild
      rw [hfound] at hbuild
      injection hbuild with hbuild
      rw [← hbuild, hstateless] at hstate
      exact absurd hstate (by simp)
    · rw [show (delayRead w).origin = delayOrigin from rfl, builtin?_delay] at hfound
      injection hfound with hfound
      rw [← hfound] at hnone
      exact absurd hnone (by simp [delayWrite])
  have hterminal : ∀ d, node.isTerminalOf d = false := by
    intro d
    refine Bool.eq_false_iff.mpr fun hmark => ?_
    obtain ⟨name, hname⟩ := builtin?_of_isTerminalOf hmark
    cases d <;> exact hnot hname rfl rfl
  refine ⟨?_, Bool.eq_false_iff.mpr fun hop => hnot (builtin?_of_isOperator hop) rfl rfl⟩
  unfold isComputed isTerminal isInputTerminal isOutputTerminal
  rw [hterminal, hterminal, Bool.eq_false_iff.mpr fun hconst => hnot (builtin?_of_isConstant hconst) rfl rfl]
  rfl

/-- Every part in a delay line keeps something. -/
theorem Rebuilds.stateful_of_isDelay {node : Node} (h : node.Rebuilds resolve) (hd : node.isDelay = true) :
    node.stateful = true := by
  rcases h with hbuild | ⟨w, rfl⟩
  · rcases (built_of_build hbuild).delay_cases with hnone | rfl
    · exact absurd hd (by simp [isDelay, hnone])
    · rfl
  · rfl

end Node

/-- Every node of a graph of factory nodes has its ports, whatever is connected to them. -/
theorem Graph.AllBare.regular {g : Graph} (h : g.AllBare fun node => ∃ resolve, node.Rebuilds resolve) {n : NodeId}
    {node : Node} (hn : g.node? n = some node) : node.Regular := by
  obtain ⟨resolve, hnode⟩ := h n node hn
  exact Node.regular_bare.mp hnode.regular

end SignalGraph
