import SignalGraph.Proofs.Arrangement.Flow
import SignalGraph.Proofs.Program.Correct
import SignalGraph.Proofs.Program.Order

/-!
# How readers look into their delay lines

A reader looks into its line by one of two methods, and the order of the arrangement decides by which: it sees
the new signal if the writer is listed before it. The layers fix that order for a reader and a writer of
different layers. Within a layer the settings decide, for slots are moved there to save crossings
(`layouts_change_results`).

The methods are all that the settings can change: programs that look by the same methods give the same results
(`results_of_looks`).
-/

namespace SignalGraph

/-! ## The statements of each node -/

/-- The method by which a call looks into a delay line. -/
def Call.look? : Call → Option Method
  | read _ _ => some .read
  | feedbackRead _ _ => some .feedbackRead
  | _ => none

namespace Program.Draft

/-- The statements that are written for each of some nodes. -/
def sections (g : Graph) (fields : Table NodeId Field) :
    Draft → List (NodeId × Node) → Except GenerateError (List (NodeId × List Statement))
  | _, [] => .ok []
  | d, entry :: rest => do
    let d' ← emit g fields d entry
    let more ← sections g fields d' rest
    pure ((entry.1, d'.body.drop d.body.length) :: more)

variable {g : Graph} {fields : Table NodeId Field} {d d' : Draft} {n : NodeId} {node : Node}

/-- The statements of a node, when the lines of some nodes are written already. -/
inductive Stated (g : Graph) (fields : Table NodeId Field) (written : List NodeId) (n : NodeId) (node : Node) :
    List Statement → Prop where
  /-- A node without a part in a line makes a call. -/
  | call (results : List (Option Nat)) (call : Call) (hplain : node.delay = none) :
      Stated g fields written n node [.call results call]
  /-- The owner of a line writes it first. -/
  | write {field : String} (value : Operand) {looks : List Statement} (hwrite : node.delay = some .write)
      (hfield : fieldName g fields n = .ok field) (hlooks : ∀ s ∈ looks, ∃ results call, s = .call results call) :
      Stated g fields written n node (.write field value :: looks)
  /-- A reader looks into its line once, and whether the line has been written decides by which method. -/
  | read {w : NodeId} {field : String} (result : Option Nat) (args : List Operand)
      (hread : node.delay = some (.read w)) (hfield : fieldName g fields n = .ok field) :
      Stated g fields written n node
        [.call [result] (if w ∈ written then .read field args else .feedbackRead field args)]

/-- What is written for a node. -/
structure Emitted (g : Graph) (fields : Table NodeId Field) (d : Draft) (n : NodeId) (node : Node) (d' : Draft) :
    Prop where
  /-- The statements of the node are added. -/
  body : ∃ statements, d'.body = d.body ++ statements ∧ Stated g fields d.written n node statements
  /-- The owner of a delay line is noted. -/
  written : ∀ m, m ∈ d'.written ↔ m ∈ d.written ∨ m = n ∧ node.isDelayWrite = true

theorem emitted_of_emit (h : emit g fields d (n, node) = .ok d') : Emitted g fields d n node d' := by
  cases emit_eq_ok_iff.mp h with
  | call hplain _ _ =>
      obtain ⟨hbody, hwritten⟩ := d.bindOutputs_keeps g n node
      refine ⟨⟨_, congrArg (· ++ _) hbody, .call _ _ hplain⟩, ?_⟩
      intro m
      rw [Node.isDelayWrite, hplain]
      simp [write, hwritten]
  | write hwrite _ hfield hbound =>
      obtain ⟨hbody, hwritten⟩ := bindOutputs_keeps { d with written := d.written ++ [n] } g n node
      rw [hbound] at hbody hwritten
      dsimp only at hwritten
      refine ⟨⟨_, congrArg (· ++ _) hbody, .write _ hwrite hfield ?_⟩, ?_⟩
      · intro s hs
        split at hs
        · exact ⟨_, _, List.mem_singleton.mp hs⟩
        · exact absurd hs List.not_mem_nil
      · intro m
        rw [Node.isDelayWrite_iff.mpr hwrite]
        simp [write, hwritten]
  | read writer hread _ hfield hbound =>
      obtain ⟨hbody, hwritten⟩ := d.bindOutputs_keeps g n node
      rw [hbound] at hbody hwritten
      dsimp only at hwritten
      refine ⟨⟨_, congrArg (· ++ _) hbody, .read _ _ hread hfield⟩, ?_⟩
      intro m
      rw [Node.isDelayWrite_of_read hread]
      simp [write, hwritten]

/-- The statements of a reader. -/
theorem Stated.of_read {written : List NodeId} {statements : List Statement}
    (h : Stated g fields written n node statements) {w : NodeId} (hread : node.delay = some (.read w)) :
    ∃ field result args, fieldName g fields n = .ok field ∧ statements
      = [.call [result] (if w ∈ written then .read field args else .feedbackRead field args)] := by
  cases h with
  | call _ _ hplain => exact absurd (hplain.symm.trans hread) (by simp)
  | write _ hwrite => exact absurd (hwrite.symm.trans hread) (by simp)
  | read result args hread' hfield =>
      rw [hread] at hread'
      injection hread' with hw
      injection hw with hw
      exact ⟨_, result, args, hfield, by rw [hw]⟩

/-- Cut up node by node, the body is what it is. -/
theorem sections_spec {rest : List (NodeId × Node)} (h : rest.foldlM (emit g fields) d = .ok d') :
    ∃ ss, sections g fields d rest = .ok ss ∧ d'.body = d.body ++ ss.flatMap Prod.snd
      ∧ ss.map Prod.fst = rest.map Prod.fst := by
  induction rest generalizing d with
  | nil =>
      injection h with h
      exact ⟨[], rfl, by rw [h, List.flatMap_nil, List.append_nil], rfl⟩
  | cons entry rest ih =>
      rw [List.foldlM_cons] at h
      obtain ⟨d₁, hd₁, h⟩ := Except.bind_eq_ok_iff.mp h
      obtain ⟨ss, hss, hbody, hids⟩ := ih h
      obtain ⟨⟨statements, hadded, -⟩, -⟩ := emitted_of_emit hd₁
      refine ⟨(entry.1, d₁.body.drop d.body.length) :: ss, ?_, ?_, ?_⟩
      · unfold sections
        exact Except.bind_eq_ok_iff.mpr ⟨d₁, hd₁, Except.bind_eq_ok_iff.mpr ⟨ss, hss, rfl⟩⟩
      · rw [hbody, List.flatMap_cons, hadded, List.drop_left, List.append_assoc]
      · rw [List.map_cons, List.map_cons, hids]

/-- The statements of the first nodes come first. -/
theorem sections_append {front rest : List (NodeId × Node)} {d₁ : Draft} {ss : List (NodeId × List Statement)}
    (hfront : front.foldlM (emit g fields) d = .ok d₁) (hss : sections g fields d (front ++ rest) = .ok ss) :
    ∃ ss₁ ss₂, sections g fields d front = .ok ss₁ ∧ sections g fields d₁ rest = .ok ss₂ ∧ ss = ss₁ ++ ss₂ := by
  induction front generalizing d ss with
  | nil =>
      injection hfront with hfront
      exact ⟨[], ss, rfl, hfront ▸ hss, rfl⟩
  | cons entry front ih =>
      rw [List.foldlM_cons] at hfront
      obtain ⟨d₀, hd₀, hfront⟩ := Except.bind_eq_ok_iff.mp hfront
      obtain ⟨d', hd', hss⟩ := Except.bind_eq_ok_iff.mp hss
      obtain ⟨more, hmore, hss⟩ := Except.bind_eq_ok_iff.mp hss
      injection hss with hss
      rw [hd₀] at hd'
      injection hd' with hd'
      subst hd'
      obtain ⟨ss₁, ss₂, hss₁, hss₂, rfl⟩ := ih hfront hmore
      refine ⟨(entry.1, d₀.body.drop d.body.length) :: ss₁, ss₂, ?_, hss₂, hss.symm⟩
      exact Except.bind_eq_ok_iff.mpr ⟨d₀, hd₀, Except.bind_eq_ok_iff.mpr ⟨ss₁, hss₁, rfl⟩⟩

theorem written_of_foldlM {front : List (NodeId × Node)} (h : front.foldlM (emit g fields) d = .ok d') (m : NodeId) :
    m ∈ d'.written ↔ m ∈ d.written ∨ ∃ found, (m, found) ∈ front ∧ found.isDelayWrite = true := by
  induction front generalizing d with
  | nil =>
      injection h with h
      rw [h]
      simp
  | cons entry front ih =>
      rw [List.foldlM_cons] at h
      obtain ⟨d₁, hd₁, h⟩ := Except.bind_eq_ok_iff.mp h
      have hemitted : Emitted g fields d entry.1 entry.2 d₁ := emitted_of_emit hd₁
      rw [ih h, hemitted.written]
      constructor
      · rintro ((hm | ⟨rfl, hw⟩) | ⟨found, hin, hw⟩)
        · exact Or.inl hm
        · exact Or.inr ⟨entry.2, List.mem_cons_self, hw⟩
        · exact Or.inr ⟨found, List.mem_cons_of_mem _ hin, hw⟩
      · rintro (hm | ⟨found, hin, hw⟩)
        · exact Or.inl (Or.inl hm)
        · rcases List.mem_cons.mp hin with heq | hin
          · exact Or.inl (Or.inr ⟨by rw [← heq], by rw [← heq]; exact hw⟩)
          · exact Or.inr ⟨found, hin, hw⟩

/-- The statements of a node, found among those of all nodes. -/
theorem exists_section {front rest : List (NodeId × Node)} {ss : List (NodeId × List Statement)}
    (h : (front ++ (n, node) :: rest).foldlM (emit g fields) d = .ok d')
    (hss : sections g fields d (front ++ (n, node) :: rest) = .ok ss) :
    ∃ ss₁ statements ss₂ written, ss = ss₁ ++ (n, statements) :: ss₂
      ∧ ss₁.map Prod.fst = front.map Prod.fst ∧ Stated g fields written n node statements
      ∧ ∀ m, m ∈ written ↔ m ∈ d.written ∨ ∃ found, (m, found) ∈ front ∧ found.isDelayWrite = true := by
  rw [List.foldlM_append] at h
  obtain ⟨d₁, hfront, h⟩ := Except.bind_eq_ok_iff.mp h
  rw [List.foldlM_cons] at h
  obtain ⟨d₂, hemit, -⟩ := Except.bind_eq_ok_iff.mp h
  obtain ⟨ss₁, rest', hss₁, hrest, rfl⟩ := sections_append hfront hss
  obtain ⟨d₂', hemit', hrest⟩ := Except.bind_eq_ok_iff.mp hrest
  obtain ⟨ss₂, -, hrest⟩ := Except.bind_eq_ok_iff.mp hrest
  injection hrest with hrest
  rw [hemit] at hemit'
  injection hemit' with hemit'
  subst hemit'
  obtain ⟨ss₁', hss₁', -, hids⟩ := sections_spec hfront
  rw [hss₁] at hss₁'
  injection hss₁' with hss₁'
  obtain ⟨⟨statements, hadded, hstated⟩, -⟩ := emitted_of_emit hemit
  refine ⟨ss₁, statements, ss₂, d₁.written, ?_, hss₁' ▸ hids, hstated, written_of_foldlM hfront⟩
  rw [← hrest, hadded, List.drop_left]

end Program.Draft

namespace Graph

/-- The statements that the program of a graph has for each node. -/
def sections (g : Graph) (a : Arrangement) : Except GenerateError (List (NodeId × List Statement)) := do
  let p ← g.program a
  let listed ← Program.lookUp g a.nodes
  Program.Draft.sections g p.fields { bindings := Program.startBindings g.inPorts p.params listed }
    (listed.filter (·.2.isComputed))

/-- The method by which the program of a graph looks into the line of a reader. -/
def methodOf? (g : Graph) (a : Arrangement) (n : NodeId) : Option Method :=
  match (g.sections a).toOption.bind (·.lookup n) with
  | some [.call _ call] => call.look?
  | _ => none

variable {g : Graph} {a : Arrangement} {p : Program}

/-- The statements of all nodes, one node after the other, are the body. -/
theorem sections_of_program (hp : g.program a = .ok p) :
    ∃ ss, g.sections a = .ok ss ∧ p.body = ss.flatMap Prod.snd
      ∧ ss.map Prod.fst = (g.computed a.nodes).map Prod.fst := by
  obtain ⟨l⟩ := exists_listing hp
  obtain ⟨ss, hss, hbody, hids⟩ := Program.Draft.sections_spec l.emitted
  refine ⟨ss, ?_, ?_, ?_⟩
  · exact Except.bind_eq_ok_iff.mpr ⟨p, hp, Except.bind_eq_ok_iff.mpr ⟨l.listed, l.lookUp, hss⟩⟩
  · rw [l.body, hbody]
    rfl
  · rw [hids, l.computed_eq]

/-- The statements of a computed node. The lines that are written by then are those of the nodes in front. -/
theorem exists_section {ss : List (NodeId × List Statement)} (hp : g.program a = .ok p) (hss : g.sections a = .ok ss)
    {front back : List (NodeId × Node)} {n : NodeId} {node : Node}
    (hsplit : g.computed a.nodes = front ++ (n, node) :: back) :
    ∃ ss₁ statements ss₂ written, ss = ss₁ ++ (n, statements) :: ss₂
      ∧ ss₁.map Prod.fst = front.map Prod.fst ∧ Program.Draft.Stated g p.fields written n node statements
      ∧ ∀ m, m ∈ written ↔ ∃ found, (m, found) ∈ front ∧ found.isDelayWrite = true := by
  obtain ⟨l⟩ := exists_listing hp
  obtain ⟨p', hp', hss⟩ := Except.bind_eq_ok_iff.mp hss
  obtain ⟨listed, hlisted, hss⟩ := Except.bind_eq_ok_iff.mp hss
  rw [hp] at hp'
  injection hp' with hp'
  rw [l.lookUp] at hlisted
  injection hlisted with hlisted
  rw [← hp', ← hlisted, ← l.computed_eq, hsplit] at hss
  have hemitted := l.emitted
  rw [← l.computed_eq, hsplit] at hemitted
  obtain ⟨ss₁, statements, ss₂, written, heq, hids, hstated, hwritten⟩ :=
    Program.Draft.exists_section hemitted hss
  refine ⟨ss₁, statements, ss₂, written, heq, hids, hstated, ?_⟩
  intro m
  rw [hwritten, or_iff_right List.not_mem_nil]

/-- A reader has one statement, which looks into its line as the order says. -/
theorem WellFormed.section_of_read (hwf : g.WellFormed)
    (hdelay : ∀ n node, g.node? n = some node → node.isDelay = true → node.isComputed = true)
    (hp : g.program a = .ok p) (hnodup : a.nodes.Nodup) {ss : List (NodeId × List Statement)}
    (hss : g.sections a = .ok ss) {n w : NodeId} {node : Node} (hn : n ∈ a.nodes) (hnode : g.node? n = some node)
    (hread : node.delay = some (.read w)) :
    ∃ ss₁ ss₂ field result args, Program.Draft.fieldName g p.fields n = .ok field
      ∧ ss = ss₁ ++ (n, [.call [result]
        (if a.nodes.idxOf w < a.nodes.idxOf n then .read field args else .feedbackRead field args)]) :: ss₂
      ∧ n ∉ ss₁.map Prod.fst ∧ (w ∈ ss₁.map Prod.fst ↔ a.nodes.idxOf w < a.nodes.idxOf n) := by
  have hcomp := hdelay n node hnode (Node.isDelay_of_delay_eq hread)
  obtain ⟨front, back, hsplit⟩ := List.append_of_mem (mem_computed.mpr ⟨hn, hnode, hcomp⟩)
  have hids := hnodup.sublist (g.computed_sublist a.nodes)
  rw [hsplit, List.map_append, List.map_cons] at hids
  obtain ⟨ss₁, statements, ss₂, written, rfl, hfront, hstated, hwritten⟩ := exists_section hp hss hsplit
  obtain ⟨field, result, args, hfield, rfl⟩ := hstated.of_read hread
  -- the lines written so far are those of the writers in front of the reader
  obtain ⟨writer, hw, hwrite⟩ := hwf.delays n node w hnode hread
  have hwcomp := hdelay w writer hw (Node.isDelay_of_isDelayWrite hwrite)
  have hbefore := mem_done_iff hnodup hsplit hw hwcomp
  have hmem : w ∈ written ↔ a.nodes.idxOf w < a.nodes.idxOf n := by
    rw [← hbefore, hwritten w]
    constructor
    · rintro ⟨found, hin, -⟩
      exact List.mem_map_of_mem hin
    · intro hin
      obtain ⟨⟨m, found⟩, hfound, rfl⟩ := List.mem_map.mp hin
      have hmem : (m, found) ∈ g.computed a.nodes := by
        rw [hsplit]
        exact List.mem_append_left _ hfound
      have hsame := (mem_computed.mp hmem).2.1
      rw [hw] at hsame
      injection hsame with hsame
      exact ⟨found, hfound, hsame ▸ hwrite⟩
  refine ⟨ss₁, ss₂, field, result, args, hfield, by simp only [hmem], ?_, ?_⟩
  · rw [hfront]
    exact (not_mem_of_nodup_append_cons hids).1
  · rw [hfront]
    exact hbefore

/-- A reader looks into its line as the order says. -/
theorem WellFormed.methodOf?_of_read (hwf : g.WellFormed)
    (hdelay : ∀ n node, g.node? n = some node → node.isDelay = true → node.isComputed = true)
    (hp : g.program a = .ok p) (hnodup : a.nodes.Nodup) {n w : NodeId} {node : Node} (hn : n ∈ a.nodes)
    (hnode : g.node? n = some node) (hread : node.delay = some (.read w)) :
    g.methodOf? a n = some (lookIn a.nodes w n) := by
  obtain ⟨ss, hss, -, -⟩ := sections_of_program hp
  obtain ⟨ss₁, ss₂, field, result, args, -, rfl, hnot, -⟩ :=
    hwf.section_of_read hdelay hp hnodup hss hn hnode hread
  have hfirst : ss₁.lookup n = none := by
    refine List.lookup_eq_none_iff.mpr ?_
    rintro entry hentry
    exact bne_iff_ne.mpr fun heq => hnot (heq ▸ List.mem_map_of_mem hentry)
  unfold methodOf?
  rw [hss]
  dsimp only [Except.toOption]
  rw [Option.bind_some, List.lookup_append, hfirst, Option.none_or, List.lookup_cons_self]
  dsimp only
  unfold lookIn
  split <;> rfl

/-! ## Layers -/

/-- A reader and a writer of different layers stand in the order of their layers, whatever the settings. -/
theorem WellFormed.lookIn_of_layers (hwf : g.WellFormed) (config : ArrangeConfig) {i j : Nat}
    {layer layer' : List NodeId} {w n : NodeId} (hi : g.assignLayers.layers[i]? = some layer) (hw : w ∈ layer)
    (hj : g.assignLayers.layers[j]? = some layer') (hn : n ∈ layer') (hij : i ≠ j) :
    lookIn (g.arrange config).nodes w n = if i < j then .read else .feedbackRead := by
  unfold lookIn
  rcases Nat.lt_or_gt_of_ne hij with hlt | hgt
  · rw [if_pos hlt, if_pos (hwf.idxOf_lt_of_layers config hi hw hj hn hlt)]
  · have hbehind := hwf.idxOf_lt_of_layers config hj hn hi hw hgt
    rw [if_neg (Nat.lt_asymm hgt), if_neg (Nat.lt_asymm hbehind)]

/-- A node that reads no line looks behind no write, so the readers alone decide whether all looks are the same. -/
theorem looksIn_congr {order order' : List NodeId} (h : ∀ n node w, g.node? n = some node →
    node.delay = some (.read w) → lookIn order w n = lookIn order' w n) (n : NodeId) :
    g.looksIn order n = g.looksIn order' n := by
  unfold looksIn delayWriteOf?
  cases hn : g.node? n with
  | none => rfl
  | some node =>
      rw [Option.bind_some]
      cases hd : node.delay with
      | none => rfl
      | some link =>
          cases link with
          | write =>
              dsimp only [Option.map_some, Option.getD_some]
              unfold lookIn
              rw [if_neg (Nat.lt_irrefl _), if_neg (Nat.lt_irrefl _)]
          | read w => exact h n node w hn hd

/-! ## Two layouts -/

/-- Programs whose readers look into their lines alike give the same results, invocation after invocation. -/
theorem results_of_looks {V S : Type} {a₁ a₂ : Arrangement} {p₁ p₂ : Program}
    (hg : g.Edited) (l₁ : Listing g a₁.nodes p₁) (l₂ : Listing g a₂.nodes p₂) (hperm : a₁.nodes.Perm a₂.nodes) (hnodup : a₂.nodes.Nodup)
    (hlooks : ∀ n, g.looksIn a₁.nodes n = g.looksIn a₂.nodes n) {I : Interpretation V S} (hI : I.LooksOnly)
    {argss : List (List V)} (hargs : ∀ args ∈ argss, args.length = g.inPorts.length) {kept : NodeId → S}
    {fields₁ fields₂ : String → S} (h₁ : p₁.Holds fields₁ kept) (h₂ : p₂.Holds fields₂ kept) :
    ∃ results, p₁.runAll? I argss fields₁ = some results ∧ p₂.runAll? I argss fields₂ = some results := by
  obtain ⟨hwf, hbuilt⟩ := hg.rebuilt
  induction argss generalizing kept fields₁ fields₂ with
  | nil => exact ⟨[], rfl, rfl⟩
  | cons args argss ih =>
      have hlen := hargs args List.mem_cons_self
      obtain ⟨out₁, fields₁', kept₁, hrun₁, hpass₁, hholds₁⟩ := l₁.run hwf (hperm.nodup_iff.mpr hnodup)
        (fun n node hn hd => hbuilt.delay_shape hn hd) I hlen h₁
      obtain ⟨out₂, fields₂', kept₂, hrun₂, hpass₂, hholds₂⟩ := l₂.run hwf hnodup
        (fun n node hn hd => hbuilt.delay_shape hn hd) I hlen h₂
      -- both programs pass over one graph, so they end in one state of it and the induction goes on from there
      have hsame := hwf.evaluate?_eq_of_looks
        (fun n node hn hd => Node.isComputed_of_delayOrigin (hbuilt.delay_shape hn hd).1) hI hperm hnodup hlooks
        hpass₁ hpass₂
      injection hsame with hout hkept
      rw [hkept] at hholds₁
      obtain ⟨results, hall₁, hall₂⟩ := ih (fun args' h => hargs args' (List.mem_cons_of_mem _ h)) hholds₁ hholds₂
      refine ⟨out₁ :: results, ?_, ?_⟩
      · unfold Program.runAll?
        rw [hrun₁, Option.bind_some, hall₁]
        rfl
      · unfold Program.runAll?
        rw [hrun₂, Option.bind_some, hall₂, hout]
        rfl

/--
**What the layout can change of a program.** A reader looks into its line behind the write if the writer is
listed before it, and before the write otherwise; two layouts can differ in that only for a reader and a
writer of one layer. If all readers look into their lines alike, the programs of both layouts give the same
results for every sequence of invocations, as long as looking into a line leaves it as it is.
-/
theorem layouts_differ_in_looks (hg : g.Edited) (c₁ c₂ : ArrangeConfig) {text₁ text₂ : String}
    (h₁ : g.source c₁ = .ok text₁) (h₂ : g.source c₂ = .ok text₂) :
    (∀ n node w, g.node? n = some node → node.delay = some (.read w) →
      (∀ c ∈ [c₁, c₂], g.methodOf? (g.arrange c) n = some (lookIn (g.arrange c).nodes w n))
        ∧ ∀ (i j : Nat) (layer layer' : List NodeId), i ≠ j → g.assignLayers.layers[i]? = some layer → w ∈ layer →
          g.assignLayers.layers[j]? = some layer' → n ∈ layer' →
          g.methodOf? (g.arrange c₁) n = g.methodOf? (g.arrange c₂) n)
      ∧ ∃ p₁ p₂, g.program (g.arrange c₁) = .ok p₁ ∧ p₁.render = text₁
        ∧ g.program (g.arrange c₂) = .ok p₂ ∧ p₂.render = text₂
        ∧ ((∀ n node w, g.node? n = some node → node.delay = some (.read w) →
            g.methodOf? (g.arrange c₁) n = g.methodOf? (g.arrange c₂) n) →
          ∀ (V S : Type) (I : Interpretation V S), I.LooksOnly → ∀ (argss : List (List V)) (kept : NodeId → S)
            (fields₁ fields₂ : String → S), (∀ args ∈ argss, args.length = g.inPorts.length) →
            p₁.Holds fields₁ kept → p₂.Holds fields₂ kept →
            ∃ results, p₁.runAll? I argss fields₁ = some results ∧ p₂.runAll? I argss fields₂ = some results) := by
  obtain ⟨hwf, hbuilt⟩ := hg.rebuilt
  have hdelay : ∀ n node, g.node? n = some node → node.isDelay = true → node.isComputed = true :=
    fun n node hn hd => Node.isComputed_of_delayOrigin (hbuilt.delay_shape hn hd).1
  have hnodup : ∀ c, (g.arrange c).nodes.Nodup := fun c => (hwf.arrange_nodes c).nodup_iff.mpr hwf.nodup
  obtain ⟨p₁, hp₁, htext₁⟩ := Except.map_eq_ok_iff.mp h₁
  obtain ⟨p₂, hp₂, htext₂⟩ := Except.map_eq_ok_iff.mp h₂
  have hmethod : ∀ c p, g.program (g.arrange c) = .ok p → ∀ n node w, g.node? n = some node →
      node.delay = some (.read w) → g.methodOf? (g.arrange c) n = some (lookIn (g.arrange c).nodes w n) := by
    intro c p hp n node w hn hread
    have hlisted := (hwf.arrange_nodes c).mem_iff.mpr (hwf.mem_allNodes.mpr ⟨node, hn⟩)
    exact hwf.methodOf?_of_read hdelay hp (hnodup c) hlisted hn hread
  refine ⟨?_, p₁, p₂, hp₁, htext₁, hp₂, htext₂, ?_⟩
  · intro n node w hn hread
    refine ⟨?_, ?_⟩
    · intro c hc
      rcases List.mem_pair.mp hc with rfl | rfl
      · exact hmethod _ p₁ hp₁ n node w hn hread
      · exact hmethod _ p₂ hp₂ n node w hn hread
    · intro i j layer layer' hij hi hw hj hin
      rw [hmethod c₁ p₁ hp₁ n node w hn hread, hmethod c₂ p₂ hp₂ n node w hn hread,
        hwf.lookIn_of_layers c₁ hi hw hj hin hij, hwf.lookIn_of_layers c₂ hi hw hj hin hij]
  · intro hsame V S I hI argss kept fields₁ fields₂ hargs hholds₁ hholds₂
    obtain ⟨l₁⟩ := exists_listing hp₁
    obtain ⟨l₂⟩ := exists_listing hp₂
    refine results_of_looks hg l₁ l₂ ((hwf.arrange_nodes c₁).trans (hwf.arrange_nodes c₂).symm) (hnodup c₂) ?_
      hI hargs hholds₁ hholds₂
    refine looksIn_congr ?_
    intro n node w hn hd
    have heq := hsame n node w hn hd
    rw [hmethod c₁ p₁ hp₁ n node w hn hd, hmethod c₂ p₂ hp₂ n node w hn hd] at heq
    injection heq

/-! ## Layouts that matter -/

theorem methodOf?_congr {a b : Arrangement} (g : Graph) (h : a.nodes = b.nodes) (n : NodeId) :
    g.methodOf? a n = g.methodOf? b n := by
  unfold methodOf? sections
  rw [program_congr g h, h]

/-- Two readers of one line, whose ways to the outputs cross. -/
def taps : Graph where
  name := "taps"
  arena := .ofList [
    (⟨0⟩, .delayWrite),
    (⟨1⟩, { Node.delayRead ⟨0⟩ with outputs := [⟨"", [⟨0⟩]⟩] }),
    (⟨2⟩, { Node.delayRead ⟨0⟩ with outputs := [⟨"", [⟨1⟩]⟩] }),
    (⟨3⟩, { Node.terminal .output "y" with inputs := [⟨"y", [⟨1⟩]⟩] }),
    (⟨4⟩, { Node.terminal .output "z" with inputs := [⟨"z", [⟨0⟩]⟩] })]
  body := [⟨0⟩, ⟨1⟩, ⟨2⟩]
  outPorts := [⟨3⟩, ⟨4⟩]
  connections := .ofList [(⟨0⟩, ⟨⟨⟨1⟩, 0⟩, ⟨⟨4⟩, 0⟩⟩), (⟨1⟩, ⟨⟨⟨2⟩, 0⟩, ⟨⟨3⟩, 0⟩⟩)]
  nextNode := 5
  nextConnection := 2

theorem taps_reachable : taps.Reachable fun e => ∃ resolve, e.Builds resolve := by
  refine ⟨"taps", [.add .delayWrite, .addRead ⟨0⟩, .addRead ⟨0⟩, .insert .output 0 "y", .insert .output 1 "z",
    .connect ⟨⟨1⟩, 0⟩ ⟨⟨4⟩, 0⟩, .connect ⟨⟨2⟩, 0⟩ ⟨⟨3⟩, 0⟩], ?_, ?_, ?_⟩
  · intro e he
    refine ⟨fun _ => none, ?_⟩
    simp only [List.mem_cons, List.not_mem_nil, or_false] at he
    rcases he with rfl | rfl | rfl | rfl | rfl | rfl | rfl
    case inl => exact Or.inl ⟨delayOrigin, rfl⟩
    all_goals trivial
  · exact roomFor_of_length (by simp [empty]) (by simp [empty])
  · cbv

theorem taps_reads {n w : NodeId} {node : Node} (hn : taps.node? n = some node)
    (hread : node.delay = some (.read w)) : n ∈ ([⟨1⟩, ⟨2⟩] : List NodeId) ∧ w ∈ ([⟨0⟩] : List NodeId) := by
  have hlinks : taps.arena.entries.map (fun entry => (entry.1, entry.2.delay))
      = [(⟨0⟩, some .write), (⟨1⟩, some (.read ⟨0⟩)), (⟨2⟩, some (.read ⟨0⟩)), (⟨3⟩, none), (⟨4⟩, none)] := by
    decide
  have hmem := List.mem_map_of_mem (f := fun entry => (entry.1, entry.2.delay)) (Table.mem_of_get? hn)
  rw [hlinks] at hmem
  simp only [List.mem_cons, Prod.mk.injEq, hread, List.not_mem_nil, or_false] at hmem
  rcases hmem with ⟨-, h⟩ | ⟨hid, hw⟩ | ⟨hid, hw⟩ | ⟨-, h⟩ | ⟨-, h⟩
  case inr.inl => simp_all
  case inr.inr.inl => simp_all
  all_goals simp at h

theorem taps_assignLayers : taps.assignLayers = {
    layers := [[⟨1⟩, ⟨2⟩], [⟨0⟩], [⟨3⟩, ⟨4⟩]]
    nodeLayers := .ofList [(⟨0⟩, 1), (⟨3⟩, 2), (⟨2⟩, 0), (⟨4⟩, 2), (⟨1⟩, 0)] } :=
  assignLayers_of_ranks [-1, 0, 1] [[⟨1⟩, ⟨2⟩], [⟨0⟩], [⟨3⟩, ⟨4⟩]] (by decide)
    (by decide) (by decide) (by decide) (by cbv)

theorem taps_unsearched : (taps.arrange { iterations := 0 }).nodes = [⟨1⟩, ⟨2⟩, ⟨0⟩, ⟨3⟩, ⟨4⟩] := by
  unfold arrange
  rw [taps_assignLayers]
  decide

theorem taps_searched : (taps.arrange { strategy := .exhaustive }).nodes = [⟨2⟩, ⟨1⟩, ⟨0⟩, ⟨3⟩, ⟨4⟩] := by
  unfold arrange
  rw [taps_assignLayers]
  decide

theorem echo_searched : (echo.arrange { strategy := .exhaustive }).nodes = [⟨0⟩, ⟨1⟩, ⟨2⟩, ⟨3⟩, ⟨4⟩] := by
  unfold arrange
  rw [echo_assignLayers]
  decide

/-- The readers of `taps` change places, but both still look into the line before the write. -/
theorem taps_same_results : ∃ p₁ p₂, taps.program (taps.arrange { iterations := 0 }) = .ok p₁
    ∧ taps.program (taps.arrange { strategy := .exhaustive }) = .ok p₂
    ∧ ∃ results, p₁.runAll? lastWritten [[], []] (fun _ => 3) = some results
      ∧ p₂.runAll? lastWritten [[], []] (fun _ => 3) = some results := by
  obtain ⟨q₁, hq₁⟩ : ∃ q, taps.program (taps.arrange { iterations := 0 }) = .ok q := by
    rw [program_congr taps (b := .ofNodes [⟨1⟩, ⟨2⟩, ⟨0⟩, ⟨3⟩, ⟨4⟩]) taps_unsearched]
    exact Except.exists_of_isOk (by decide)
  obtain ⟨q₂, hq₂⟩ : ∃ q, taps.program (taps.arrange { strategy := .exhaustive }) = .ok q := by
    rw [program_congr taps (b := .ofNodes [⟨2⟩, ⟨1⟩, ⟨0⟩, ⟨3⟩, ⟨4⟩]) taps_searched]
    exact Except.exists_of_isOk (by decide)
  obtain ⟨hlooks, p₁, p₂, hp₁, -, hp₂, -, hresults⟩ := layouts_differ_in_looks taps_reachable.edited { iterations := 0 }
    { strategy := .exhaustive } (Except.map_eq_ok_iff.mpr ⟨q₁, hq₁, rfl⟩) (Except.map_eq_ok_iff.mpr ⟨q₂, hq₂, rfl⟩)
  refine ⟨p₁, p₂, hp₁, hp₂, hresults ?_ Int Int lastWritten (fun _ _ _ => ⟨rfl, rfl⟩) [[], []] (fun _ => 3)
    (fun _ => 3) (fun _ => 3) (by simp [taps]) (fun _ _ _ => rfl) (fun _ _ _ => rfl)⟩
  intro n node w hn hread
  -- the writer lies in the layer behind the readers
  have hlayers := taps_reads hn hread
  refine (hlooks n node w hn hread).2 1 0 [⟨0⟩] [⟨1⟩, ⟨2⟩] (by decide) ?_ hlayers.2 ?_ hlayers.1
  · rw [taps_assignLayers]
    rfl
  · rw [taps_assignLayers]
    rfl

/--
Saving a crossing moves the writer of `echo` in front of the reader, which then sees the new signal. In `taps`
it moves one reader in front of the other, which matters to looks that change the line.
-/
theorem layouts_change_results :
    (echo.Reachable fun e => ∃ resolve, e.Builds resolve)
      ∧ echo.methodOf? (echo.arrange { iterations := 0 }) ⟨2⟩ = some .feedbackRead
      ∧ echo.methodOf? (echo.arrange { strategy := .exhaustive }) ⟨2⟩ = some .read
      ∧ (echo.program (echo.arrange { iterations := 0 })).toOption.bind
        (·.runAll? lastWritten [[5]] fun _ => 3) = some [[5, 3]]
      ∧ (echo.program (echo.arrange { strategy := .exhaustive })).toOption.bind
        (·.runAll? lastWritten [[5]] fun _ => 3) = some [[5, 5]]
      ∧ (taps.Reachable fun e => ∃ resolve, e.Builds resolve)
      ∧ (∀ c ∈ [{ iterations := 0 }, { strategy := .exhaustive }], ∀ n ∈ [⟨1⟩, ⟨2⟩],
        taps.methodOf? (taps.arrange c) n = some .feedbackRead)
      ∧ (taps.program (taps.arrange { iterations := 0 })).toOption.bind
        (·.runAll? lookCounting [[]] fun _ => 3) = some [[4, 3]]
      ∧ (taps.program (taps.arrange { strategy := .exhaustive })).toOption.bind
        (·.runAll? lookCounting [[]] fun _ => 3) = some [[3, 4]] := by
  have hecho₁ : _ = (Arrangement.ofNodes [⟨0⟩, ⟨2⟩, ⟨1⟩, ⟨3⟩, ⟨4⟩]).nodes := echo_unsearched
  have hecho₂ : _ = (Arrangement.ofNodes [⟨0⟩, ⟨1⟩, ⟨2⟩, ⟨3⟩, ⟨4⟩]).nodes := echo_searched
  have htaps₁ : _ = (Arrangement.ofNodes [⟨1⟩, ⟨2⟩, ⟨0⟩, ⟨3⟩, ⟨4⟩]).nodes := taps_unsearched
  have htaps₂ : _ = (Arrangement.ofNodes [⟨2⟩, ⟨1⟩, ⟨0⟩, ⟨3⟩, ⟨4⟩]).nodes := taps_searched
  refine ⟨echo_reachable, ?_, ?_, ?_, ?_, taps_reachable, ?_, ?_, ?_⟩
  · rw [methodOf?_congr echo hecho₁]
    decide
  · rw [methodOf?_congr echo hecho₂]
    decide
  · rw [program_congr echo hecho₁]
    decide
  · rw [program_congr echo hecho₂]
    decide
  · intro c hc n hn
    rcases List.mem_pair.mp hc with rfl | rfl
    · rw [methodOf?_congr taps htaps₁]
      rcases List.mem_pair.mp hn with rfl | rfl <;> decide
    · rw [methodOf?_congr taps htaps₂]
      rcases List.mem_pair.mp hn with rfl | rfl <;> decide
  · rw [program_congr taps htaps₁]
    decide
  · rw [program_congr taps htaps₂]
    decide

end Graph

end SignalGraph
