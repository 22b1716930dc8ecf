import Mathlib.Data.Prod.Lex
import Mathlib.Data.String.Basic
import SignalGraph.Manifest
import SignalGraph.Proofs.Factory
import SignalGraph.Proofs.Program.Names

/-!
# The node kinds that are shown and those that are built

A manifest is asked twice for what it has under an origin: the factory builds a node of it, and a listing shows what can
be built. The listing looks at capabilities only, but the factory makes what is built in before it looks there. So they
agree on an origin that is not built in, and on one that is built in if the manifest says the same of it
(`discovery_agrees_iff`).

A line of a listing can be read: whatever the name in front, the numbers of ports and the mark for state are at its end
(`listingLine_injective`).
-/

namespace SignalGraph

/-! ## The order of origins -/

namespace Origin

/-- By package, and then by name. -/
def Before (a b : Origin) : Prop := a.pkg < b.pkg ∨ a.pkg = b.pkg ∧ a.name < b.name

theorem before_iff {a b : Origin} : a.Before b ↔ toLex (a.pkg, a.name) < toLex (b.pkg, b.name) := by
  rw [Prod.Lex.toLex_lt_toLex]
  rfl

theorem le_iff {a b : Origin} : a.le b = true ↔ toLex (a.pkg, a.name) ≤ toLex (b.pkg, b.name) := by
  rw [Prod.Lex.toLex_le_toLex]
  unfold le
  cases hpkg : compare a.pkg b.pkg with
  | lt =>
      have hlt := compare_lt_iff_lt.mp hpkg
      simp [hlt]
  | gt =>
      have hgt := compare_gt_iff_gt.mp hpkg
      simp [hgt.not_gt, hgt.ne']
  | eq =>
      have heq := compare_eq_iff_eq.mp hpkg
      simp [heq, compare_le_iff_le]

theorem before_of_le {a b : Origin} (hle : a.le b = true) (hne : a ≠ b) : a.Before b := by
  refine before_iff.mpr (lt_of_le_of_ne (le_iff.mp hle) fun heq => hne ?_)
  have hpair := toLex.injective heq
  injection hpair with hpkg hname
  cases a
  cases b
  exact congrArg₂ Origin.mk hpkg hname

end Origin

/-! ## Lines of a listing -/

namespace Manifest

/-- A number behind a blank can be read off the end of a line. -/
theorem number_at_end {as bs : List Char} {m n : Nat}
    (h : as ++ ' ' :: (toString m).toList = bs ++ ' ' :: (toString n).toList) : as = bs ∧ m = n := by
  have hread : ∀ (cs : List Char) (k : Nat),
      (cs ++ ' ' :: (toString k).toList).reverse.takeWhile Char.isDigit = (toString k).toList.reverse := by
    intro cs k
    have hdigits : ∀ c ∈ (toString k).toList.reverse, c.isDigit = true := by
      intro c hc
      exact Identifier.isDigit_of_mem_toString (List.mem_reverse.mp hc)
    rw [List.reverse_append, List.reverse_cons, List.append_assoc, List.takeWhile_append_of_pos hdigits]
    -- the reading stops at the blank
    show (toString k).toList.reverse ++ [] = _
    exact List.append_nil _
  have hnumber : m = n := by
    have hm := hread as m
    rw [h, hread bs n] at hm
    exact Identifier.toString_inj (List.reverse_injective hm.symm)
  rw [hnumber] at h
  exact ⟨List.append_cancel_right h, hnumber⟩

/-- What stands behind the numbers of a line. -/
def lineEnd (stateful : Bool) : List Char := (" out" ++ if stateful then "  stateful" else "").toList

theorem toList_listingLine (label : String) (inputs outputs : Nat) (stateful : Bool) :
    (listingLine label inputs outputs stateful).toList =
      ((Text.padRight 20 label).toList ++ ' ' :: (toString inputs).toList ++ " in ".toList)
        ++ ' ' :: (toString outputs).toList ++ lineEnd stateful := by
  unfold listingLine lineEnd
  simp [String.toList_append]

/-- Two lines are the same only if they state the same, whatever the names in front. -/
theorem listingLine_injective {label label' : String} {i i' o o' : Nat} {s s' : Bool}
    (h : listingLine label i o s = listingLine label' i' o' s') : i = i' ∧ o = o' ∧ s = s' := by
  have hchars := congrArg String.toList h
  rw [toList_listingLine, toList_listingLine] at hchars
  have hend : ∀ b, lineEnd b ≠ [] := by decide
  have hlast : (lineEnd s).getLast? = (lineEnd s').getLast? := by
    rw [← List.getLast?_append_of_ne_nil _ (hend s), hchars, List.getLast?_append_of_ne_nil _ (hend s')]
  have hstate : s = s' := (show ∀ b b', (lineEnd b).getLast? = (lineEnd b').getLast? → b = b' by decide) s s' hlast
  rw [hstate] at hchars
  obtain ⟨hfront, ho⟩ := number_at_end (List.append_cancel_right hchars)
  obtain ⟨-, hi⟩ := number_at_end (List.append_cancel_right hfront)
  exact ⟨hi, ho, hstate⟩

/-- A line states the numbers of ports of a node and whether it keeps state. -/
def States (line : String) (node : Node) : Prop :=
  ∃ label, line = listingLine label node.inputs.length node.outputs.length node.stateful

variable {m : Manifest} {o : Origin} {c : Capability}

/-! ## What is shown -/

theorem mem_candidates_iff : o ∈ m.candidates ↔ ∃ c, m.resolve o = some c ∧ c.isUsable = true := by
  unfold candidates
  rw [List.mem_mergeSort, List.mem_map]
  constructor
  · rintro ⟨⟨o', c⟩, hmem, rfl⟩
    obtain ⟨hmem, hsome⟩ := List.mem_filter.mp hmem
    obtain ⟨node, hnode⟩ := Option.isSome_iff_exists.mp hsome
    exact ⟨c, Table.get?_of_mem hmem, (Node.toNode?_eq_some_iff.mp hnode).1⟩
  · rintro ⟨c, hc, husable⟩
    have hnode : c.toNode? o = some (Node.provided o c) := Node.toNode?_eq_some_iff.mpr ⟨husable, rfl⟩
    exact ⟨(o, c), List.mem_filter.mpr ⟨Table.mem_of_get? hc, Option.isSome_iff_exists.mpr ⟨_, hnode⟩⟩, rfl⟩

/-- Candidates are in order, and none is there twice. -/
theorem candidates_ascending (m : Manifest) : m.candidates.Pairwise Origin.Before := by
  have hsorted : m.candidates.Pairwise fun a b => a.le b = true := by
    refine List.pairwise_mergeSort ?_ ?_ _
    · intro a b c hab hbc
      exact Origin.le_iff.mpr ((Origin.le_iff.mp hab).trans (Origin.le_iff.mp hbc))
    · intro a b
      rw [Bool.or_eq_true, Origin.le_iff, Origin.le_iff]
      exact le_total _ _
  have hnodup : m.candidates.Nodup :=
    (List.mergeSort_perm _ _).nodup_iff.mpr (m.entries.nodup.sublist (List.filter_sublist.map Prod.fst))
  exact (hsorted.and hnodup).imp fun h => Origin.before_of_le h.1 h.2

/--
What each line of a listing is for. The line of numbers is for every origin that is a number, and a built-in origin of
the manifest may have a second line.
-/
inductive ListedFor (m : Manifest) (pkg : Option String) : Origin → String → Prop where
  | operator {op : String} (hop : op ∈ operators) (hpkg : pkg.all (· == "") = true) :
      ListedFor m pkg ⟨"", op⟩ (listingLine op 2 1 false)
  | number {o : Origin} {text : String} (ho : Node.builtin? o = some (.number text)) (hpkg : pkg.all (· == "") = true) :
      ListedFor m pkg o (listingLine "<number>" 0 1 false)
  | delay (hpkg : pkg.all (· == standardPackage) = true) :
      ListedFor m pkg delayOrigin (listingLine delayOrigin.label 2 1 true)
  | candidate {o : Origin} {c : Capability} (ho : o ∈ m.candidates) (hc : m.resolve o = some c)
      (hpkg : pkg.all (· == o.pkg) = true) :
      ListedFor m pkg o (listingLine o.label c.process.params.length c.process.results.length c.isStateful)

theorem builtin?_zero : Node.builtin? ⟨"", "0"⟩ = some (.number "0") := by decide

theorem mem_candidateLines_iff {pkg : Option String} {line : String} :
    (line ∈ (m.candidates.filter fun origin => pkg.all (· == origin.pkg)).filterMap fun origin => do
      let capability ← m.resolve origin
      let node ← capability.toNode? origin
      pure (listingLine origin.label node.inputs.length node.outputs.length capability.isStateful)) ↔
    ∃ o c, o ∈ m.candidates ∧ m.resolve o = some c ∧ pkg.all (· == o.pkg) = true
      ∧ line = listingLine o.label c.process.params.length c.process.results.length c.isStateful := by
  rw [List.mem_filterMap]
  constructor
  · rintro ⟨o, ho, hline⟩
    obtain ⟨ho, hpkg⟩ := List.mem_filter.mp ho
    obtain ⟨c, hc, hline⟩ := Option.bind_eq_some_iff.mp hline
    obtain ⟨node, hnode, hline⟩ := Option.bind_eq_some_iff.mp hline
    injection hline with hline
    rw [(Node.toNode?_eq_some_iff.mp hnode).2] at hline
    refine ⟨o, c, ho, hc, hpkg, ?_⟩
    rw [← hline]
    simp [Node.provided, Node.ofNames]
  · rintro ⟨o, c, ho, hc, hpkg, rfl⟩
    obtain ⟨c', hc', husable⟩ := mem_candidates_iff.mp ho
    rw [hc] at hc'
    injection hc' with heq
    have hnode : c.toNode? o = some (Node.provided o c) := Node.toNode?_eq_some_iff.mpr ⟨heq ▸ husable, rfl⟩
    refine ⟨o, List.mem_filter.mpr ⟨ho, hpkg⟩, ?_⟩
    rw [hc, Option.bind_eq_bind, Option.bind_some, hnode, Option.bind_eq_bind, Option.bind_some]
    simp [Node.provided, Node.ofNames]

/-- Every line is for some origin, and there is a line for everything that is listed. -/
theorem mem_listing_iff {pkg : Option String} {line : String} :
    line ∈ m.listing pkg ↔ ∃ o, m.ListedFor pkg o line := by
  unfold listing
  dsimp only
  rw [List.mem_append, List.mem_append, mem_candidateLines_iff]
  constructor
  · rintro ((hline | hline) | ⟨o, c, ho, hc, hpkg, rfl⟩)
    · split at hline
      · rename_i hpkg
        unfold builtinLines at hline
        rcases List.mem_append.mp hline with hline | hline
        · obtain ⟨op, hop, rfl⟩ := List.mem_map.mp hline
          exact ⟨_, .operator hop hpkg⟩
        · rw [List.mem_singleton.mp hline]
          exact ⟨⟨"", "0"⟩, .number builtin?_zero hpkg⟩
      · exact absurd hline List.not_mem_nil
    · split at hline
      · rename_i hpkg
        rw [List.mem_singleton.mp hline]
        exact ⟨_, .delay hpkg⟩
      · exact absurd hline List.not_mem_nil
    · exact ⟨o, .candidate ho hc hpkg⟩
  · rintro ⟨o, hlisted⟩
    cases hlisted with
    | operator hop hpkg =>
        rw [if_pos hpkg]
        exact Or.inl (Or.inl (List.mem_append_left _ (List.mem_map_of_mem hop)))
    | number ho hpkg =>
        rw [if_pos hpkg]
        exact Or.inl (Or.inl (List.mem_append_right _ (List.mem_singleton.mpr rfl)))
    | delay hpkg =>
        rw [if_pos hpkg]
        exact Or.inl (Or.inr (List.mem_singleton.mpr rfl))
    | candidate ho hc hpkg => exact Or.inr ⟨_, _, ho, hc, hpkg, rfl⟩

/-! ## What is shown and what is built -/

end Manifest

/-- A capability has as many ports as a node, and keeps state if the node does. -/
def Capability.Describes (c : Capability) (node : Node) : Prop :=
  c.process.params.length = node.inputs.length ∧ c.process.results.length = node.outputs.length
    ∧ c.isStateful = node.stateful

namespace Manifest

variable {m : Manifest} {o : Origin} {c : Capability}

theorem exists_build_iff (hc : m.resolve o = some c) :
    (∃ node, Node.build m.resolve o = .ok node) ↔ Node.builtin? o ≠ none ∨ c.isUsable = true := by
  cases hbuiltin : Node.builtin? o with
  | some found => exact ⟨fun _ => Or.inl (by simp), fun _ => ⟨found, Node.build_of_builtin? hbuiltin⟩⟩
  | none =>
      constructor
      · rintro ⟨node, hnode⟩
        unfold Node.build at hnode
        rw [hbuiltin, hc] at hnode
        dsimp only at hnode
        split at hnode
        · exact absurd hnode (by simp)
        · rename_i found hfound
          exact Or.inr (Node.toNode?_eq_some_iff.mp hfound).1
      · rintro (hbuilt | husable)
        · exact absurd rfl hbuilt
        · exact ⟨_, Node.build_of_resolve hbuiltin hc husable⟩

/-- A line for a built-in origin states what is built, but for a candidate line. -/
theorem states_of_listedFor (hc : m.resolve o = some c) {pkg : Option String} {line : String}
    (hsame : ∀ node, Node.builtin? o = some node → c.isUsable = true → pkg.all (· == o.pkg) = true → c.Describes node)
    (hlisted : m.ListedFor pkg o line) : ∃ node, Node.build m.resolve o = .ok node ∧ States line node := by
  cases hlisted with
  | @operator op hop hpkg => exact ⟨_, Node.build_of_builtin? (Node.builtin?_operator hop), op, rfl⟩
  | number ho hpkg => exact ⟨_, Node.build_of_builtin? ho, "<number>", rfl⟩
  | delay hpkg => exact ⟨_, Node.build_of_builtin? Node.builtin?_delay, delayOrigin.label, rfl⟩
  | @candidate _ c' ho hc' hpkg =>
      rw [hc] at hc'
      injection hc' with heq
      obtain ⟨c'', hc'', husable⟩ := mem_candidates_iff.mp ho
      rw [hc] at hc''
      injection hc'' with heq'
      cases hbuiltin : Node.builtin? o with
      | some node =>
          obtain ⟨hin, hout, hstate⟩ := hsame node hbuiltin (heq' ▸ husable) hpkg
          refine ⟨node, Node.build_of_builtin? hbuiltin, o.label, ?_⟩
          rw [← heq, hin, hout, hstate]
      | none =>
          refine ⟨_, Node.build_of_resolve hbuiltin hc (heq' ▸ husable), o.label, ?_⟩
          rw [← heq]
          simp [Node.provided, Node.ofNames]

/--
**What is shown and what can be built.** Of every manifest, the candidates are in strict order, and the lines of a
listing are those of `ListedFor`. A registered origin is a candidate just when it can be built, if and only if it is not
built in or the manifest has something usable for it. All lines for it state the node that is built, if and only if the
capability of a built-in origin that is shown as a candidate has the ports and the state of what is built in.
-/
theorem discovery_agrees_iff (m : Manifest) :
    m.candidates.Pairwise Origin.Before
      ∧ (∀ pkg line, line ∈ m.listing pkg ↔ ∃ o, m.ListedFor pkg o line)
      ∧ ∀ o c, m.resolve o = some c →
        ((o ∈ m.candidates ↔ ∃ node, Node.build m.resolve o = .ok node) ↔
          Node.builtin? o = none ∨ c.isUsable = true)
        ∧ ∀ pkg : Option String,
          (∀ line, m.ListedFor pkg o line → ∃ node, Node.build m.resolve o = .ok node ∧ States line node) ↔
            ∀ node, Node.builtin? o = some node → c.isUsable = true → pkg.all (· == o.pkg) = true →
              c.Describes node := by
  refine ⟨m.candidates_ascending, fun pkg line => mem_listing_iff, fun o c hc => ?_⟩
  have hcandidate : o ∈ m.candidates ↔ c.isUsable = true := by
    rw [mem_candidates_iff, hc]
    simp
  refine ⟨?_, fun pkg => ⟨?_, fun hsame line => states_of_listedFor hc hsame⟩⟩
  · rw [hcandidate, exists_build_iff hc]
    tauto
  · intro hstates node hbuiltin husable hpkg
    obtain ⟨built, hbuilt, label, hline⟩ := hstates _ (.candidate (hcandidate.mpr husable) hc hpkg)
    rw [Node.build_of_builtin? hbuiltin] at hbuilt
    injection hbuilt with heq
    rw [heq]
    exact listingLine_injective hline

/-! ## A manifest that has a delay of its own -/

/-- A function under the origin of delays. -/
def ownDelay (kind : ValueKind) : Manifest := .ofEntries [(delayOrigin, .function ⟨[⟨"x", kind⟩], [⟨"", .f32⟩]⟩)]

/--
A delay can be built whatever the manifest says. If the manifest has something there that cannot be used, the delay is
no candidate; if it can be used, there is a line with its ports, which are not those of a delay.
-/
theorem own_delay_misleads :
    (¬∀ (m : Manifest) o c, m.resolve o = some c →
      (o ∈ m.candidates ↔ ∃ node, Node.build m.resolve o = .ok node))
    ∧ ¬∀ (m : Manifest) o c pkg line, m.resolve o = some c → m.ListedFor pkg o line →
      ∃ node, Node.build m.resolve o = .ok node ∧ States line node := by
  refine ⟨fun hall => ?_, fun hall => ?_⟩
  · have hno : delayOrigin ∉ (ownDelay .f64).candidates := by
      rw [mem_candidates_iff]
      rintro ⟨c, hc, husable⟩
      have heq : c = _ := (Option.some.inj (hc.symm.trans rfl))
      rw [heq] at husable
      exact absurd husable (by decide)
    exact hno ((hall (ownDelay .f64) delayOrigin _ rfl).mpr ⟨_, Node.build_of_builtin? Node.builtin?_delay⟩)
  · have hcandidate : delayOrigin ∈ (ownDelay .f32).candidates := mem_candidates_iff.mpr ⟨_, rfl, rfl⟩
    obtain ⟨node, hnode, label, hline⟩ :=
      hall (ownDelay .f32) delayOrigin _ none _ rfl (.candidate hcandidate rfl rfl)
    rw [Node.build_of_builtin? Node.builtin?_delay] at hnode
    injection hnode with hnode
    rw [← hnode] at hline
    exact absurd (listingLine_injective hline).1 (by decide)

/-- The standard manifest has nothing that is built in, so it shows what can be built. -/
theorem standard_shows_built :
    (∀ o c, Manifest.standard.resolve o = some c →
      (o ∈ Manifest.standard.candidates ↔ ∃ node, Node.build Manifest.standard.resolve o = .ok node)
      ∧ ∀ line, Manifest.standard.ListedFor none o line →
        ∃ node, Node.build Manifest.standard.resolve o = .ok node ∧ States line node) := by
  intro o c hc
  have hall : ∀ e ∈ Manifest.standard.entries.entries, Node.builtin? e.1 = none := by decide
  have hbuiltin : Node.builtin? o = none := hall (o, c) (Table.mem_of_get? hc)
  obtain ⟨-, -, hagrees⟩ := discovery_agrees_iff Manifest.standard
  obtain ⟨hcandidate, hlines⟩ := hagrees o c hc
  refine ⟨hcandidate.mpr (Or.inl hbuiltin), (hlines none).mpr ?_⟩
  intro node hnode
  rw [hbuiltin] at hnode
  exact absurd hnode (by simp)

end Manifest

end SignalGraph
