import SignalGraph.Proofs.Graph.WellFormed
import SignalGraph.Proofs.Program.Semantics
import SignalGraph.Proofs.Sequence

/-!
# The order of a pass

A pass over a graph invokes every node once, after the nodes that feed it. Behind the pass each node has
settled: what it has emitted and what it keeps follow from the signals at its inputs, as they are in the end
(`Settled`). Where a look into a delay line leaves the line as it is, that mentions the order in one place
only, namely whether a reader sees its line before or behind the write. So two passes in which all readers see
the same end alike (`evaluate?_eq_of_looks`).
-/

namespace SignalGraph

variable {V S : Type}

/-- Looking into a delay line leaves the line as it is. -/
def Interpretation.LooksOnly (I : Interpretation V S) : Prop :=
  ∀ kind held args, (I.method kind .read held args).2 = held ∧ (I.method kind .feedbackRead held args).2 = held

/-! ## What a node gives -/

/-- What invoking a node gives. -/
structure Effect (V S : Type) where
  /-- The signals at its outputs, where there are any. -/
  signals : Nat → Option V
  /-- What the node keeps afterwards. -/
  next : S

/-- What a node gives, from what it keeps, from what is in the line that it reads, and from its inputs. -/
def Node.effect? (I : Interpretation V S) (consumed : Bool) (look : Method) (held line : S) (args : List V)
    (node : Node) : Option (Effect V S) :=
  match node.delay with
  | some .write => match args with
    | time :: value :: _ =>
      let next := (I.method node.origin .write held [value]).2
      some ⟨fun i => if consumed then some ((I.method node.origin .read next [time]).1 i) else none, next⟩
    | _ => none
  | some (.read _) => some ⟨fun i => some ((I.method node.origin look line args).1 i), held⟩
  | none =>
    if node.isOperator then match args with
      | l :: r :: _ => some ⟨fun _ => some (I.operator node.name l r), held⟩
      | _ => none
    else if node.stateful then
      let out := I.method node.origin .process held args
      some ⟨fun i => some (out.1 i), out.2⟩
    else some ⟨fun i => some (I.function node.origin args i), held⟩

/-- What a node finds in the line that it reads: what is kept afterwards, or what was kept before. -/
def Node.lineOf (look : Method) (before after : NodeId → S) (n : NodeId) (node : Node) : S :=
  match node.delay with
  | some (.read w) => if look = .read then after w else before w
  | _ => before n

namespace Graph

variable {g : Graph} {I : Interpretation V S} {e e' : Evaluation V S} {n : NodeId} {node : Node}

/-- A node was invoked with some inputs, and that had some effect. -/
structure Invoked (g : Graph) (I : Interpretation V S) (e : Evaluation V S) (n : NodeId) (node : Node)
    (args : List V) (effect : Effect V S) (e' : Evaluation V S) : Prop where
  /-- The inputs. -/
  inputs : g.inputs? I e n node = some args
  /-- The node has the signals of the effect, other nodes have the same as before. -/
  outputs : ∀ p, e'.outputs p =
    if p.node = n ∧ p.index < node.outputs.length then effect.signals p.index else e.outputs p
  /-- The node keeps what the effect says, other nodes keep the same as before. -/
  kept : ∀ m, e'.kept m = if m = n then effect.next else e.kept m
  /-- The owner of a delay line has written it. -/
  written : ∀ m, m ∈ e'.written ↔ m ∈ e.written ∨ m = n ∧ node.isDelayWrite = true

theorem keep_kept_self (e : Evaluation V S) (n : NodeId) : e.keep n (e.kept n) = e := by
  unfold Evaluation.keep
  rw [Function.update_eq_self]

theorem evaluateWrite_invoked (hI : I.LooksOnly) (hwrite : node.delay = some .write) {args : List V}
    (hfresh : ∀ i, e.outputs ⟨n, i⟩ = none) (hargs : g.inputs? I e n node = some args) {time value : V}
    {rest : List V} (hvalues : args = time :: value :: rest) (look : Method) (line : S) :
    ∃ effect, node.effect? I (g.isConsumed n node) look (e.kept n) line args = some effect
      ∧ Invoked g I e n node args effect (g.evaluateWrite I e n node time value) := by
  have hself := Node.isDelayWrite_iff.mpr hwrite
  unfold Node.effect?
  rw [hwrite, hvalues]
  refine ⟨_, rfl, ?_⟩
  rw [← hvalues]
  unfold evaluateWrite
  dsimp only [Evaluation.callMethod, Evaluation.markWritten, Evaluation.keep]
  cases hconsumed : g.isConsumed n node with
  | false =>
      simp only [Bool.false_eq_true, if_false]
      -- nothing reads the output: the node has no signal afterwards, as it had none before
      refine ⟨hargs, ?_, ?_, ?_⟩
      · intro p
        split
        · rename_i hp
          obtain ⟨m, i⟩ := p
          obtain ⟨rfl, -⟩ := hp
          exact hfresh i
        · rfl
      · intro m
        exact Function.update_apply _ _ _ _
      · intro m
        rw [hself]
        simp
  | true =>
      simp only [if_true]
      -- the look behind the write leaves in the line what was written
      refine ⟨hargs, ?_, ?_, ?_⟩
      · intro p
        rw [Function.update_self]
        rfl
      · intro m
        dsimp only [Evaluation.emit]
        rw [(hI _ _ _).1, Function.update_idem]
        exact (Function.update_apply _ _ _ _).trans (by rw [Function.update_self])
      · intro m
        rw [hself]
        simp [Evaluation.emit]

theorem evaluateRead_invoked (hI : I.LooksOnly) {writer : NodeId} (hread : node.delay = some (.read writer))
    {args : List V} (hargs : g.inputs? I e n node = some args) {look : Method}
    (hlook : look = if writer ∈ e.written then .read else .feedbackRead) :
    ∃ effect, node.effect? I (g.isConsumed n node) look (e.kept n) (e.kept writer) args = some effect
      ∧ Invoked g I e n node args effect (evaluateRead I e writer n node args) := by
  have hnot := Node.isDelayWrite_of_read hread
  -- a look leaves the line as it is, so nothing is kept that was not kept before
  have hsame : (I.method node.origin look (e.kept writer) args).2 = e.kept writer := by
    rw [hlook]
    split
    · exact (hI _ _ _).1
    · exact (hI _ _ _).2
  unfold Node.effect?
  rw [hread]
  refine ⟨_, rfl, ?_⟩
  unfold evaluateRead
  rw [← hlook]
  dsimp only [Evaluation.callMethod]
  rw [hsame, keep_kept_self]
  refine ⟨hargs, fun p => rfl, ?_, ?_⟩
  · intro m
    split
    · rename_i hm
      rw [hm]
      rfl
    · rfl
  · intro m
    rw [hnot]
    simp [Evaluation.emit]

theorem evaluatePlain?_invoked (hplain : node.delay = none) {args : List V}
    (hargs : g.inputs? I e n node = some args) (h : evaluatePlain? I e n node args = some e') (look : Method)
    (line : S) :
    ∃ effect, node.effect? I (g.isConsumed n node) look (e.kept n) line args = some effect
      ∧ Invoked g I e n node args effect e' := by
  have hnot : node.isDelayWrite = false := by
    unfold Node.isDelayWrite
    rw [hplain]
    rfl
  -- in this form it reads as a change at `n` to the value that is there, which is what an effect says
  have hkept : ∀ m, e.kept m = if m = n then e.kept n else e.kept m := by
    intro m
    split
    · rename_i hm
      rw [hm]
    · rfl
  have hwritten : ∀ m, m ∈ e.written ↔ m ∈ e.written ∨ m = n ∧ node.isDelayWrite = true := by
    intro m
    rw [hnot]
    simp
  unfold evaluatePlain? at h
  unfold Node.effect?
  rw [hplain]
  dsimp only
  split at h
  · rename_i hop
    rw [if_pos hop]
    split at h
    · injection h with h
      exact ⟨_, rfl, by rw [← h]; exact ⟨hargs, fun p => rfl, hkept, hwritten⟩⟩
    · exact absurd h (by simp)
  · rename_i hop
    rw [if_neg hop]
    split at h
    · rename_i hstate
      rw [if_pos hstate]
      injection h with h
      refine ⟨_, rfl, ?_⟩
      rw [← h]
      exact ⟨hargs, fun p => rfl, fun m => Function.update_apply _ _ _ _, hwritten⟩
    · rename_i hstate
      rw [if_neg hstate]
      injection h with h
      exact ⟨_, rfl, by rw [← h]; exact ⟨hargs, fun p => rfl, hkept, hwritten⟩⟩

/-- Invoking a node has the effect that the node gives. -/
theorem evaluateNode?_invoked (hI : I.LooksOnly) (hfresh : ∀ i, e.outputs ⟨n, i⟩ = none)
    (h : g.evaluateNode? I e (n, node) = some e') (look : Method)
    (hlook : ∀ w, node.delay = some (.read w) → look = if w ∈ e.written then .read else .feedbackRead) :
    ∃ args effect,
      node.effect? I (g.isConsumed n node) look (e.kept n) (node.lineOf look e.kept e.kept n) args = some effect
        ∧ Invoked g I e n node args effect e' := by
  obtain ⟨args, hargs, h⟩ := Option.bind_eq_some_iff.mp h
  refine ⟨args, ?_⟩
  dsimp only at hargs h
  unfold Node.lineOf
  cases hdelay : node.delay with
  | none =>
      rw [hdelay] at h
      exact evaluatePlain?_invoked hdelay hargs h look _
  | some link =>
      rw [hdelay] at h
      cases link with
      | write =>
          dsimp only at h
          split at h
          · injection h with h
            rw [← h]
            exact evaluateWrite_invoked hI hdelay hfresh hargs rfl look _
          · exact absurd h (by simp)
      | read writer =>
          injection h with h
          rw [← h]
          dsimp only
          rw [ite_self]
          exact evaluateRead_invoked hI hdelay hargs (hlook writer hdelay)

/-! ## A pass -/

/-- An evaluation has every signal that another one has. -/
def Extends (e' e : Evaluation V S) : Prop := ∀ p v, e.outputs p = some v → e'.outputs p = some v

theorem Extends.input? (h : Extends e' e) {dst : InPort} {v : V} (hv : g.input? I e dst = some v) :
    g.input? I e' dst = some v := by
  unfold Graph.input? at hv ⊢
  split at hv
  · exact hv
  · rename_i src _
    exact h src v hv

theorem Extends.mapM_input? (h : Extends e' e) {ports : List InPort} {vs : List V}
    (hvs : ports.mapM (g.input? I e) = some vs) : ports.mapM (g.input? I e') = some vs :=
  mapM_eq_some_iff.mpr ((mapM_eq_some_iff.mp hvs).imp fun _ _ hv => h.input? hv)

theorem Extends.inputs? (h : Extends e' e) {args : List V} (hargs : g.inputs? I e n node = some args) :
    g.inputs? I e' n node = some args :=
  mapM_eq_some_iff.mpr ((mapM_eq_some_iff.mp hargs).imp fun _ _ hv => h.input? hv)

/-- A node that has been invoked stands as its own equation says. -/
structure Settled (g : Graph) (I : Interpretation V S) (look : NodeId → Method) (before : NodeId → S)
    (e : Evaluation V S) (n : NodeId) (node : Node) (args : List V) (effect : Effect V S) : Prop where
  inputs : g.inputs? I e n node = some args
  equation : node.effect? I (g.isConsumed n node) (look n) (before n) (node.lineOf (look n) before e.kept n) args
    = some effect
  outputs : ∀ i < node.outputs.length, e.outputs ⟨n, i⟩ = effect.signals i
  kept : e.kept n = effect.next

/-- Nodes in an order in which a pass can invoke them. -/
structure Scheduled (g : Graph) (look : NodeId → Method) (start : Evaluation V S) (nodes : List (NodeId × Node)) :
    Prop where
  /-- They are nodes of the graph. -/
  node? : ∀ n node, (n, node) ∈ nodes → g.node? n = some node
  /-- No node comes twice. -/
  nodup : (nodes.map Prod.fst).Nodup
  /-- None has a signal at the start. -/
  fresh : ∀ n ∈ nodes.map Prod.fst, ∀ i, start.outputs ⟨n, i⟩ = none
  /-- Readers see their line behind the write if the writer comes before them, and before the write otherwise. -/
  looks : ∀ done n node rest w, nodes = done ++ (n, node) :: rest → node.delay = some (.read w) →
    look n = if w ∈ done.map Prod.fst then .read else .feedbackRead

/-- What holds while a pass goes on, behind the nodes of `done`. -/
structure Passed (g : Graph) (I : Interpretation V S) (look : NodeId → Method) (start : Evaluation V S)
    (done : List (NodeId × Node)) (e : Evaluation V S) : Prop where
  /-- The nodes have settled. -/
  settled : ∀ n node, (n, node) ∈ done → ∃ args effect, Settled g I look start.kept e n node args effect
  /-- The others keep what they kept. -/
  kept : ∀ n, n ∉ done.map Prod.fst → e.kept n = start.kept n
  /-- There are no signals but those from the start and those of the nodes. -/
  outputs : ∀ p v, e.outputs p = some v → start.outputs p = some v ∨ p.node ∈ done.map Prod.fst
  /-- No signal is lost. -/
  older : Extends e start
  /-- The lines of the nodes have been written. -/
  written : ∀ n, n ∈ e.written ↔ ∃ node, (n, node) ∈ done ∧ node.isDelayWrite = true
  /-- A reader that sees its line behind the write comes after the writer. -/
  lines : ∀ n node w, (n, node) ∈ done → node.delay = some (.read w) → look n = .read → w ∈ done.map Prod.fst

section Pass

variable {look : NodeId → Method} {start : Evaluation V S} {nodes done rest : List (NodeId × Node)} {args : List V}
  {effect : Effect V S}

theorem passed_start (hwritten : start.written = []) : Passed g I look start [] start where
  settled := by simp
  kept _ _ := rfl
  outputs _ _ h := Or.inl h
  older _ _ h := h
  written := by simp [hwritten]
  lines := by simp

theorem Scheduled.not_mem (hs : Scheduled g look start nodes) (hnodes : nodes = done ++ (n, node) :: rest) :
    n ∉ done.map Prod.fst := by
  have hnodup := hs.nodup
  rw [hnodes, List.map_append, List.map_cons] at hnodup
  exact (not_mem_of_nodup_append_cons hnodup).1

/-- The next node has no signals yet. -/
theorem Passed.fresh (hp : Passed g I look start done e) (hs : Scheduled g look start nodes)
    (hnodes : nodes = done ++ (n, node) :: rest) (i : Nat) : e.outputs ⟨n, i⟩ = none := by
  rw [Option.eq_none_iff_forall_ne_some]
  intro v hv
  rcases hp.outputs _ v hv with hstart | hdone
  · have hself : (n, node) ∈ nodes := hnodes ▸ List.mem_append_cons_self
    rw [hs.fresh n (List.mem_map_of_mem hself) i] at hstart
    exact absurd hstart (by simp)
  · exact hs.not_mem hnodes hdone

/-- The lines that have been written are those of the writers among the nodes. -/
theorem Passed.mem_written (hp : Passed g I look start done e) (hs : Scheduled g look start nodes)
    (hlinked : g.DelaysLinked) (hnodes : nodes = done ++ (n, node) :: rest) {w : NodeId}
    (hread : node.delay = some (.read w)) : w ∈ e.written ↔ w ∈ done.map Prod.fst := by
  rw [hp.written]
  constructor
  · rintro ⟨writer, hin, -⟩
    exact List.mem_map_of_mem hin
  · intro hin
    obtain ⟨⟨_, writer⟩, hwriter, rfl⟩ := List.mem_map.mp hin
    have hmem : ∀ entry ∈ done, entry ∈ nodes := by
      intro entry hentry
      rw [hnodes]
      exact List.mem_append_left _ hentry
    have hself : (n, node) ∈ nodes := hnodes ▸ List.mem_append_cons_self
    obtain ⟨found, hfound, hwrite⟩ := hlinked n node _ (hs.node? n node hself) hread
    rw [hs.node? _ writer (hmem _ hwriter)] at hfound
    injection hfound with hfound
    exact ⟨writer, hwriter, hfound ▸ hwrite⟩

/-- What the next node finds in its line is what it is said to find. -/
theorem Passed.lineOf_eq (hp : Passed g I look start done e) (hs : Scheduled g look start nodes)
    (hnodes : nodes = done ++ (n, node) :: rest) {after : NodeId → S}
    (hafter : ∀ w ∈ done.map Prod.fst, e.kept w = after w) :
    node.lineOf (look n) e.kept e.kept n = node.lineOf (look n) start.kept after n := by
  have hn := hp.kept n (hs.not_mem hnodes)
  unfold Node.lineOf
  split
  · rename_i w hread
    rw [ite_self, hs.looks done n node rest w hnodes hread]
    by_cases hw : w ∈ done.map Prod.fst
    · rw [if_pos hw, if_pos rfl]
      -- behind the write the line is as it will be in the end
      exact hafter w hw
    · rw [if_neg hw, if_neg (by simp)]
      -- a writer that is still to come has not touched its line
      exact hp.kept w hw
  · exact hn

/-- The next node is invoked with the effect that its equation asks for. -/
theorem Passed.invoked (hI : I.LooksOnly) (hlinked : g.DelaysLinked) (hp : Passed g I look start done e)
    (hs : Scheduled g look start nodes) (hnodes : nodes = done ++ (n, node) :: rest)
    (h : g.evaluateNode? I e (n, node) = some e') :
    ∃ args effect, Invoked g I e n node args effect e' ∧ ∀ after : NodeId → S,
      (∀ w ∈ done.map Prod.fst, e.kept w = after w) →
      node.effect? I (g.isConsumed n node) (look n) (start.kept n) (node.lineOf (look n) start.kept after n) args
        = some effect := by
  obtain ⟨args, effect, heffect, hinv⟩ := evaluateNode?_invoked hI (hp.fresh hs hnodes) h (look n) (by
    intro w hread
    rw [hs.looks done n node rest w hnodes hread]
    by_cases hw : w ∈ done.map Prod.fst
    · rw [if_pos hw, if_pos ((hp.mem_written hs hlinked hnodes hread).mpr hw)]
    · rw [if_neg hw, if_neg (fun hin => hw ((hp.mem_written hs hlinked hnodes hread).mp hin))])
  refine ⟨args, effect, hinv, ?_⟩
  intro after hafter
  rw [← hp.kept n (hs.not_mem hnodes), ← hp.lineOf_eq hs hnodes hafter]
  exact heffect

/-- A node without signals of its own loses none when it is invoked. -/
theorem Invoked.extends (hinv : Invoked g I e n node args effect e') (hfresh : ∀ i, e.outputs ⟨n, i⟩ = none) :
    Extends e' e := by
  intro p v hv
  rw [hinv.outputs]
  split
  · rename_i hp
    obtain ⟨m, i⟩ := p
    obtain ⟨rfl, -⟩ := hp
    rw [hfresh i] at hv
    exact absurd hv (by simp)
  · exact hv

/-- A node that has settled stays settled when another is invoked, unless that is the writer it looks behind. -/
theorem Settled.invoked {m : NodeId} {mnode : Node} {margs : List V} {meffect : Effect V S} {before : NodeId → S}
    (hset : Settled g I look before e m mnode margs meffect) (hinv : Invoked g I e n node args effect e')
    (hext : Extends e' e) (hne : m ≠ n)
    (hline : ∀ w, mnode.delay = some (.read w) → look m = .read → w ≠ n) :
    Settled g I look before e' m mnode margs meffect := by
  refine ⟨hext.inputs? hset.inputs, ?_, ?_, ?_⟩
  · have hsame : mnode.lineOf (look m) before e'.kept m = mnode.lineOf (look m) before e.kept m := by
      unfold Node.lineOf
      split
      · rename_i w hread
        split
        · rename_i hlook
          rw [hinv.kept, if_neg (hline w hread hlook)]
        · rfl
      · rfl
    rw [hsame]
    exact hset.equation
  · intro i hi
    rw [hinv.outputs, if_neg (fun hboth => hne hboth.1)]
    exact hset.outputs i hi
  · rw [hinv.kept, if_neg hne]
    exact hset.kept

/-- **Settled nodes stay settled**, and the next one settles. -/
theorem Passed.step (hI : I.LooksOnly) (hlinked : g.DelaysLinked) (hp : Passed g I look start done e)
    (hs : Scheduled g look start nodes) (hnodes : nodes = done ++ (n, node) :: rest)
    (h : g.evaluateNode? I e (n, node) = some e') : Passed g I look start (done ++ [(n, node)]) e' := by
  obtain ⟨args, effect, hinv, heffect⟩ := hp.invoked hI hlinked hs hnodes h
  have hnot := hs.not_mem hnodes
  have hext := hinv.extends (hp.fresh hs hnodes)
  have hkept : ∀ m ∈ done.map Prod.fst, e.kept m = e'.kept m := by
    intro m hm
    rw [hinv.kept, if_neg (ne_of_mem_of_not_mem hm hnot)]
  exact {
    settled := by
      intro m mnode hm
      rcases List.mem_append.mp hm with hm | hm
      · obtain ⟨margs, meffect, hset⟩ := hp.settled m mnode hm
        refine ⟨margs, meffect, hset.invoked hinv hext (ne_of_mem_of_not_mem (List.mem_map_of_mem hm) hnot) ?_⟩
        -- a line that is looked into behind its write was written by a node that came before
        intro w hread hlook
        exact ne_of_mem_of_not_mem (hp.lines m mnode w hm hread hlook) hnot
      · rw [List.mem_singleton] at hm
        injection hm with hm hnode
        subst hm hnode
        refine ⟨args, effect, hext.inputs? hinv.inputs, heffect e'.kept hkept, ?_, ?_⟩
        · intro i hi
          rw [hinv.outputs, if_pos ⟨rfl, hi⟩]
        · rw [hinv.kept, if_pos rfl]
    kept := by
      intro m hm
      rw [List.map_append, List.mem_append, not_or] at hm
      have hne : m ≠ n := fun heq => hm.2 (by rw [heq]; exact List.mem_singleton_self _)
      rw [hinv.kept, if_neg hne]
      exact hp.kept m hm.1
    outputs := by
      intro p v hv
      rw [hinv.outputs] at hv
      rw [List.map_append, List.mem_append]
      split at hv
      · rename_i hpn
        exact Or.inr (Or.inr (by rw [hpn.1]; exact List.mem_singleton_self _))
      · exact (hp.outputs p v hv).imp_right Or.inl
    older := by
      intro p v hv
      exact hext p v (hp.older p v hv)
    written := by
      intro m
      rw [hinv.written, hp.written]
      constructor
      · rintro (⟨mnode, hm, hw⟩ | ⟨rfl, hw⟩)
        · exact ⟨mnode, List.mem_append_left _ hm, hw⟩
        · exact ⟨node, List.mem_append_right _ (List.mem_singleton_self _), hw⟩
      · rintro ⟨mnode, hm, hw⟩
        rcases List.mem_append.mp hm with hm | hm
        · exact Or.inl ⟨mnode, hm, hw⟩
        · rw [List.mem_singleton] at hm
          injection hm with hm hnode
          exact Or.inr ⟨hm, hnode ▸ hw⟩
    lines := by
      intro m mnode w hm hread hlook
      rw [List.map_append, List.mem_append]
      rcases List.mem_append.mp hm with hm | hm
      · exact Or.inl (hp.lines m mnode w hm hread hlook)
      · rw [List.mem_singleton] at hm
        injection hm with hm hnode
        subst hm hnode
        -- the schedule has it look behind the write only if the writer is among those that came before
        rw [hs.looks done m mnode rest w hnodes hread] at hlook
        by_contra hno
        rw [if_neg (fun hin => hno (Or.inl hin))] at hlook
        exact absurd hlook (by simp) }

theorem Passed.run (hI : I.LooksOnly) (hlinked : g.DelaysLinked) (hs : Scheduled g look start nodes)
    (hp : Passed g I look start done e) (hnodes : nodes = done ++ rest)
    (h : rest.foldlM (g.evaluateNode? I) e = some e') : Passed g I look start nodes e' := by
  induction rest generalizing done e with
  | nil =>
      injection h with h
      rw [hnodes, List.append_nil, ← h]
      exact hp
  | cons entry rest ih =>
      rw [List.foldlM_cons] at h
      obtain ⟨e₁, he₁, h⟩ := Option.bind_eq_some_iff.mp h
      refine ih (hp.step hI hlinked hs hnodes he₁) ?_ h
      rw [hnodes, List.append_assoc]
      rfl

/-! ## Two passes -/

/-- An evaluation in progress agrees with one that is finished. -/
structure Agrees (done : List (NodeId × Node)) (e final : Evaluation V S) : Prop where
  /-- Its signals are those of the finished one. -/
  outputs : Extends final e
  /-- What the nodes keep is what they keep in the finished one. -/
  kept : ∀ n ∈ done.map Prod.fst, e.kept n = final.kept n

variable {final : Evaluation V S}

/-- The next node gives in one pass what it gives in another in which it settles alike. -/
theorem Agrees.step (hI : I.LooksOnly) (hlinked : g.DelaysLinked) (hp : Passed g I look start done e)
    (hs : Scheduled g look start nodes) (hnodes : nodes = done ++ (n, node) :: rest)
    (hset : ∃ args effect, Settled g I look start.kept final n node args effect) (ha : Agrees done e final)
    (h : g.evaluateNode? I e (n, node) = some e') : Agrees (done ++ [(n, node)]) e' final := by
  obtain ⟨args, effect, hinv, heffect⟩ := hp.invoked hI hlinked hs hnodes h
  obtain ⟨args', effect', hset⟩ := hset
  -- both passes give the node the same inputs, and so the same effect
  have hargs : args' = args := by
    have hinputs := hset.inputs
    rw [ha.outputs.inputs? hinv.inputs] at hinputs
    injection hinputs with hinputs
    exact hinputs.symm
  have hsame : effect' = effect := by
    have hequation := hset.equation
    rw [hargs, heffect final.kept ha.kept] at hequation
    injection hequation with hequation
    exact hequation.symm
  rw [hsame] at hset
  refine ⟨?_, ?_⟩
  · intro p v hv
    rw [hinv.outputs] at hv
    split at hv
    · rename_i hpn
      obtain ⟨m, i⟩ := p
      obtain ⟨rfl, hi⟩ := hpn
      exact (hset.outputs i hi).trans hv
    · exact ha.outputs p v hv
  · intro m hm
    rw [hinv.kept]
    split
    · rename_i hmn
      rw [hmn]
      exact hset.kept.symm
    · rename_i hmn
      rw [List.map_append, List.mem_append] at hm
      rcases hm with hm | hm
      · exact ha.kept m hm
      · exact absurd (List.mem_singleton.mp hm) hmn

theorem Agrees.run (hI : I.LooksOnly) (hlinked : g.DelaysLinked) (hs : Scheduled g look start nodes)
    (hsettled : ∀ n node, (n, node) ∈ nodes → ∃ args effect, Settled g I look start.kept final n node args effect)
    (hp : Passed g I look start done e) (ha : Agrees done e final) (hnodes : nodes = done ++ rest)
    (h : rest.foldlM (g.evaluateNode? I) e = some e') : Agrees nodes e' final := by
  induction rest generalizing done e with
  | nil =>
      injection h with h
      rw [hnodes, List.append_nil, ← h]
      exact ha
  | cons entry rest ih =>
      rw [List.foldlM_cons] at h
      obtain ⟨e₁, he₁, h⟩ := Option.bind_eq_some_iff.mp h
      have hentry : entry ∈ nodes := hnodes ▸ List.mem_append_cons_self
      refine ih (hp.step hI hlinked hs hnodes he₁)
        (ha.step hI hlinked hp hs hnodes (hsettled _ _ hentry) he₁) ?_ h
      rw [hnodes, List.append_assoc]
      rfl

end Pass

/-! ## Two orders -/

/-- How a reader sees the line of a writer in a pass over some nodes. -/
def lookIn (order : List NodeId) (writer reader : NodeId) : Method :=
  if order.idxOf writer < order.idxOf reader then .read else .feedbackRead

/-- How each reader sees its line in a pass over some nodes. -/
def looksIn (g : Graph) (order : List NodeId) (n : NodeId) : Method :=
  ((g.delayWriteOf? n).map (lookIn order · n)).getD .feedbackRead

theorem looksIn_of_read {order : List NodeId} (hn : g.node? n = some node) {w : NodeId}
    (hread : node.delay = some (.read w)) : g.looksIn order n = lookIn order w n := by
  unfold looksIn delayWriteOf?
  rw [hn, Option.bind_some, hread]
  rfl

/-- What a node finds in front of it in a row of computed nodes stands in front of it in the order. -/
theorem mem_done_iff {order : List NodeId} (hnodup : order.Nodup) {done rest : List (NodeId × Node)}
    (hnodes : g.computed order = done ++ (n, node) :: rest) {w : NodeId} {writer : Node}
    (hw : g.node? w = some writer) (hcomp : writer.isComputed = true) :
    w ∈ done.map Prod.fst ↔ order.idxOf w < order.idxOf n := by
  have hself : (n, node) ∈ g.computed order := hnodes ▸ List.mem_append_cons_self
  obtain ⟨hn, hnode, hncomp⟩ := mem_computed.mp hself
  obtain ⟨front, back, rfl⟩ := List.append_of_mem hn
  obtain ⟨hnot, hback⟩ := not_mem_of_nodup_append_cons hnodup
  -- the computed nodes before `n` are those in front of it in the order
  have hdone : done = g.computed front := by
    have hsplit := hnodes
    rw [computed_append, computed_cons hnode hncomp] at hsplit
    have hno : ∀ ns : List NodeId, n ∉ ns → (n, node) ∉ g.computed ns :=
      fun ns hns hin => hns (mem_computed.mp hin).1
    exact ((List.append_cons_inj_of_notMem (hno front hnot) (hno back hback)).mp hsplit).1.symm
  have hidx : (front ++ n :: back).idxOf n = front.length := by
    rw [List.idxOf_append, if_neg hnot, List.idxOf_cons_self, Nat.zero_add]
  rw [hidx, hdone]
  constructor
  · intro hin
    obtain ⟨⟨_, found⟩, hfound, rfl⟩ := List.mem_map.mp hin
    have hmem := (mem_computed.mp hfound).1
    rw [List.idxOf_append, if_pos hmem]
    exact List.idxOf_lt_length_of_mem hmem
  · intro hlt
    by_cases hmem : w ∈ front
    · exact List.mem_map.mpr ⟨(w, writer), mem_computed.mpr ⟨hmem, hw, hcomp⟩, rfl⟩
    · rw [List.idxOf_append, if_neg hmem] at hlt
      omega

/-- A computed node has no signal at the start. -/
theorem WellFormed.startEvaluation_fresh (hwf : g.WellFormed) (args : List V) (kept : NodeId → S)
    (hn : g.node? n = some node) (hcomp : node.isComputed = true) (i : Nat) :
    (g.startEvaluation I args kept).outputs ⟨n, i⟩ = none := by
  unfold Node.isComputed Node.isTerminal at hcomp
  have hnot : n ∉ g.inPorts := by
    rw [hwf.mem_inPorts]
    rintro ⟨found, hfound, hterm⟩
    rw [hn] at hfound
    injection hfound with hfound
    rw [hfound, hterm] at hcomp
    exact absurd hcomp (by simp)
  have hsignal : node.signal? = none := by
    rw [Bool.and_eq_true] at hcomp
    have hconst : node.constantValue? = none := by simpa [Node.isConstant] using hcomp.1
    unfold Node.signal?
    rw [hconst]
    rfl
  unfold startEvaluation
  dsimp only
  split
  · rw [lookup_zip_eq_none args hnot, hn]
    dsimp only
    rw [Option.bind_some, hsignal]
    rfl
  · rfl

theorem WellFormed.scheduled (hwf : g.WellFormed)
    (hdelay : ∀ n node, g.node? n = some node → node.isDelay = true → node.isComputed = true)
    {order : List NodeId} (hnodup : order.Nodup) (args : List V) (kept : NodeId → S) :
    Scheduled g (g.looksIn order) (g.startEvaluation I args kept) (g.computed order) where
  node? n node hn := (mem_computed.mp hn).2.1
  nodup := hnodup.sublist (g.computed_sublist order)
  fresh := by
    intro n hn i
    obtain ⟨⟨_, node⟩, hin, rfl⟩ := List.mem_map.mp hn
    obtain ⟨-, hnode, hcomp⟩ := mem_computed.mp hin
    exact hwf.startEvaluation_fresh args kept hnode hcomp i
  looks := by
    intro done n node rest w hnodes hread
    have hself : (n, node) ∈ g.computed order := hnodes ▸ List.mem_append_cons_self
    have hnode := (mem_computed.mp hself).2.1
    obtain ⟨writer, hw, hwrite⟩ := hwf.delays n node w hnode hread
    have hcomp := hdelay w writer hw (Node.isDelay_of_isDelayWrite hwrite)
    rw [looksIn_of_read hnode hread]
    unfold lookIn
    simp only [mem_done_iff hnodup hnodes hw hcomp]

/--
**Two passes in which all readers see their lines alike give the same.** The orders list the same nodes, and
looking into a line leaves it as it is.
-/
theorem WellFormed.evaluate?_eq_of_looks (hwf : g.WellFormed)
    (hdelay : ∀ n node, g.node? n = some node → node.isDelay = true → node.isComputed = true)
    (hI : I.LooksOnly) {order order' : List NodeId} (hperm : order.Perm order') (hnodup : order'.Nodup)
    (hlooks : ∀ n, g.looksIn order n = g.looksIn order' n) {args : List V} {kept : NodeId → S}
    {out out' : List V × (NodeId → S)} (h : g.evaluate? I order args kept = some out)
    (h' : g.evaluate? I order' args kept = some out') : out = out' := by
  obtain ⟨e, he, hout⟩ := Option.bind_eq_some_iff.mp h
  obtain ⟨e', he', hout'⟩ := Option.bind_eq_some_iff.mp h'
  obtain ⟨results, hresults, rfl⟩ := Option.map_eq_some_iff.mp hout
  obtain ⟨results', hresults', rfl⟩ := Option.map_eq_some_iff.mp hout'
  have hstart : ∀ look, Passed g I look (g.startEvaluation I args kept) [] (g.startEvaluation I args kept) :=
    fun look => passed_start rfl
  -- the looks are the same, so one schedule fits both passes
  have hs := hwf.scheduled (I := I) hdelay (hperm.nodup_iff.mpr hnodup) args kept
  rw [show g.looksIn order = g.looksIn order' from funext hlooks] at hs
  have hs' := hwf.scheduled (I := I) hdelay hnodup args kept
  have hp' := (hstart _).run hI hwf.delays hs' rfl he'
  have hp := (hstart _).run hI hwf.delays hs rfl he
  have hmem : ∀ entry, entry ∈ g.computed order ↔ entry ∈ g.computed order' := by
    rintro ⟨n, node⟩
    rw [mem_computed, mem_computed, hperm.mem_iff]
  -- behind the one pass every node has settled; the other is led along it node by node
  have hagrees : Agrees (g.computed order) e e' :=
    Agrees.run hI hwf.delays hs (fun n node hn => hp'.settled n node ((hmem _).mp hn)) (hstart _)
      ⟨hp'.older, by simp⟩ rfl he
  have hsame : results = results' := by
    have hports : (g.outPorts.map fun n => (⟨n, 0⟩ : InPort)).mapM (g.input? I e) = some results := by
      rw [List.mapM_map]
      exact hresults
    have hboth := hagrees.outputs.mapM_input? hports
    rw [List.mapM_map] at hboth
    have heq := hboth.symm.trans hresults'
    injection heq
  have hkept : e.kept = e'.kept := by
    funext n
    by_cases hn : n ∈ (g.computed order).map Prod.fst
    · exact hagrees.kept n hn
    · have hn' : n ∉ (g.computed order').map Prod.fst := by
        intro hin
        obtain ⟨entry, hentry, rfl⟩ := List.mem_map.mp hin
        exact hn (List.mem_map_of_mem ((hmem entry).mpr hentry))
      rw [hp.kept n hn, hp'.kept n hn']
  rw [hsame, hkept]

end Graph

end SignalGraph
