import SignalGraph.Proofs.Graph.Run

/-!
# Identities are given once

Nodes and connections are known by their numbers, outside of the graph too: layers, arrangements and delay lines
keep numbers for later. A number that came to mean something else would spoil them without a sign.

`Ages` says what edits do to the things behind the numbers. What is there afterwards was there before and is
still the same thing, or it is new and has a number that no counter had reached. That is kept by every edit, and
it can be put together over a run.

No more is asked of the graph than that its numbers lie below its counters. In particular an edit may add a node
whose ports list connections already.
-/

namespace SignalGraph

/-- The node that an edit made. -/
def Answer.node? : Answer → Option NodeId
  | node n => some n
  | _ => none

/-- The connection that an edit made. -/
def Answer.connection? : Answer → Option ConnectionId
  | connection c => some c
  | _ => none

theorem Answer.isNode_of_node? {a : Answer} {n : NodeId} (h : a.node? = some n) : a.isNode = true := by
  cases a <;> simp_all [node?, isNode]

theorem Answer.isConnection_of_connection? {a : Answer} {c : ConnectionId} (h : a.connection? = some c) :
    a.isConnection = true := by
  cases a <;> simp_all [connection?, isConnection]

/-! ## One node at two times -/

/-- The node `n` was `a`, and after some edits it is `b`. -/
structure Node.Became (es : List Edit) (n : NodeId) (a b : Node) : Prop where
  pkg : b.origin.pkg = a.origin.pkg
  inputs : b.inputs.length = a.inputs.length
  outputs : b.outputs.length = a.outputs.length
  stateful : b.stateful = a.stateful
  delay : b.delay = a.delay
  /-- The name is as it was, or one of the edits gave it to the terminal, whose mark stayed in front of it. -/
  name : b.origin.name = a.origin.name ∨ ∃ d old new, .rename n new ∈ es
    ∧ a.origin.name = terminalMark d ++ old ∧ b.origin.name = terminalMark d ++ new

namespace Node

theorem became_of_bare_eq {a b : Node} (h : b.bare = a.bare) (es : List Edit) (n : NodeId) : Became es n a b where
  pkg := (congrArg (·.origin.pkg) h :)
  inputs := by simpa [bare] using congrArg (·.inputs.length) h
  outputs := by simpa [bare] using congrArg (·.outputs.length) h
  stateful := (congrArg Node.stateful h :)
  delay := delay_of_bare_eq h
  name := Or.inl (congrArg (·.origin.name) h :)

theorem terminalMark_inj {d d' : Direction} {s t : String} (h : terminalMark d ++ s = terminalMark d' ++ t) :
    d = d' := by
  cases d <;> cases d'
  case input.output => exact absurd h (terminalMark_ne s t)
  case output.input => exact absurd h.symm (terminalMark_ne t s)
  all_goals rfl

theorem Became.trans {es es' : List Edit} {n : NodeId} {a b c : Node} (h : Became es n a b) (h' : Became es' n b c) :
    Became (es ++ es') n a c where
  pkg := h'.pkg.trans h.pkg
  inputs := h'.inputs.trans h.inputs
  outputs := h'.outputs.trans h.outputs
  stateful := h'.stateful.trans h.stateful
  delay := h'.delay.trans h.delay
  name := by
    rcases h'.name with hsame' | ⟨d', mid, new, hmem', hmid, hnew⟩
    · rw [hsame']
      rcases h.name with hsame | ⟨d, old, new, hmem, hnames⟩
      · exact Or.inl hsame
      · exact Or.inr ⟨d, old, new, List.mem_append_left _ hmem, hnames⟩
    · refine Or.inr ⟨d', ?_⟩
      rcases h.name with hsame | ⟨d, old, new₁, hmem, hold, hnew₁⟩
      · exact ⟨mid, new, List.mem_append_right _ hmem', hsame ▸ hmid, hnew⟩
      · -- a name has one mark, so the two renamings are of a terminal of one direction
        have hd : d = d' := terminalMark_inj (hnew₁.symm.trans hmid)
        exact ⟨old, new, List.mem_append_right _ hmem', hd ▸ hold, hnew⟩

theorem renamedTerminal?_became {node node' : Node} {n : NodeId} {name : String}
    (h : Graph.renamedTerminal? node name = some node') : Became [.rename n name] n node node' := by
  have hdelay := renamedTerminal?_delay h
  unfold Graph.renamedTerminal? at h
  dsimp only at h
  split at h
  · rename_i hin
    injection h with h
    obtain ⟨-, old, hold⟩ := isTerminalOf_iff.mp hin
    subst h
    exact ⟨rfl, rfl, List.length_modify .., rfl, hdelay, Or.inr ⟨.input, old, name, List.mem_singleton_self _, hold, rfl⟩⟩
  · split at h
    · rename_i hout
      injection h with h
      obtain ⟨-, old, hold⟩ := isTerminalOf_iff.mp hout
      subst h
      exact ⟨rfl, List.length_modify .., rfl, rfl, hdelay,
        Or.inr ⟨.output, old, name, List.mem_singleton_self _, hold, rfl⟩⟩
    · exact absurd h (by simp)

end Node

namespace Graph

/-! ## A graph at two times -/

/-- Some edits have made `g'` of `g`. -/
structure Ages (es : List Edit) (g g' : Graph) : Prop where
  nextNode : g.nextNode ≤ g'.nextNode
  nextConnection : g.nextConnection ≤ g'.nextConnection
  /-- A node was there, or its number is new. -/
  node : ∀ n b, g'.node? n = some b →
    (∃ a, g.node? n = some a ∧ Node.Became es n a b) ∨ (g.nextNode ≤ n.val ∧ n.val < g'.nextNode)
  /-- A connection was there with the same ends, or its number is new. -/
  connection : ∀ c ends, g'.connection? c = some ends →
    g.connection? c = some ends ∨ (g.nextConnection ≤ c.val ∧ c.val < g'.nextConnection)

section Ages

variable {g g' g'' : Graph} {e : Edit} {es es' : List Edit}

theorem Ages.refl (g : Graph) : Ages [] g g where
  nextNode := UInt32.le_refl _
  nextConnection := UInt32.le_refl _
  node := fun _ b hb => Or.inl ⟨b, hb, Node.became_of_bare_eq rfl _ _⟩
  connection := fun _ _ hc => Or.inl hc

theorem Ages.trans (h : Ages es g g') (h' : Ages es' g' g'') : Ages (es ++ es') g g'' where
  nextNode := UInt32.le_trans h.nextNode h'.nextNode
  nextConnection := UInt32.le_trans h.nextConnection h'.nextConnection
  node := by
    intro n c hc
    rcases h'.node n c hc with ⟨b, hb, hbc⟩ | ⟨hle, hlt⟩
    · rcases h.node n b hb with ⟨a, ha, hab⟩ | ⟨hle, hlt⟩
      · exact Or.inl ⟨a, ha, hab.trans hbc⟩
      · exact Or.inr ⟨hle, UInt32.lt_of_lt_of_le hlt h'.nextNode⟩
    · exact Or.inr ⟨UInt32.le_trans h.nextNode hle, hlt⟩
  connection := by
    intro c ends hc
    rcases h'.connection c ends hc with hmid | ⟨hle, hlt⟩
    · rcases h.connection c ends hmid with hold | ⟨hle, hlt⟩
      · exact Or.inl hold
      · exact Or.inr ⟨hle, UInt32.lt_of_lt_of_le hlt h'.nextConnection⟩
    · exact Or.inr ⟨UInt32.le_trans h.nextConnection hle, hlt⟩

theorem Numbered.ages (h : g.Numbered) (ha : Ages es g g') : g'.Numbered where
  node_lt := by
    intro n b hb
    rcases ha.node n b hb with ⟨a, hold, -⟩ | ⟨-, hlt⟩
    · exact UInt32.lt_of_lt_of_le (h.node_lt n a hold) ha.nextNode
    · exact hlt
  connection_lt := by
    intro c ends hc
    rcases ha.connection c ends hc with hold | ⟨-, hlt⟩
    · exact UInt32.lt_of_lt_of_le (h.connection_lt c ends hold) ha.nextConnection
    · exact hlt

/-- A number that a counter has passed means the same node, or none. -/
theorem Ages.node_of_lt (h : Ages es g g') {n : NodeId} {b : Node} (hlt : n.val < g.nextNode)
    (hb : g'.node? n = some b) : ∃ a, g.node? n = some a ∧ Node.Became es n a b := by
  rcases h.node n b hb with hold | ⟨hle, -⟩
  · exact hold
  · exact absurd hlt (UInt32.not_lt.mpr hle)

theorem Ages.connection_of_lt (h : Ages es g g') {c : ConnectionId} {ends : Connection} (hlt : c.val < g.nextConnection)
    (hc : g'.connection? c = some ends) : g.connection? c = some ends := by
  rcases h.connection c ends hc with hold | ⟨hle, -⟩
  · exact hold
  · exact absurd hlt (UInt32.not_lt.mpr hle)

/-! ## One edit -/

theorem Loses.ages (h : Loses g g') (es : List Edit) : Ages es g g' where
  nextNode := by rw [h.nextNode]; exact UInt32.le_refl _
  nextConnection := by rw [h.nextConnection]; exact UInt32.le_refl _
  node := by
    intro n b hb
    obtain ⟨a, ha, heq⟩ := h.node? n b hb
    exact Or.inl ⟨a, ha, Node.became_of_bare_eq heq es n⟩
  connection := fun c ends hc => Or.inl (h.connection? c ends hc)

theorem AddsNode.ages {node : Node} (h : AddsNode g ⟨g.nextNode⟩ node g') (hroom : g.NodeRoom)
    (hnext : g'.nextNode = g.nextNode + 1) (hconn : g'.nextConnection = g.nextConnection) (es : List Edit) :
    Ages es g g' := by
  have hlt : g.nextNode < g'.nextNode := by
    rw [hnext]
    exact lt_add_one_of_room hroom (UInt32.le_refl _)
  refine ⟨UInt32.le_of_lt hlt, by rw [hconn]; exact UInt32.le_refl _, ?_, ?_⟩
  · intro n b hb
    rw [h.node?] at hb
    split at hb
    · rename_i heq
      exact Or.inr ⟨heq ▸ UInt32.le_refl _, heq ▸ hlt⟩
    · exact Or.inl ⟨b, hb, Node.became_of_bare_eq rfl es n⟩
  · intro c ends hc
    rw [h.connection?] at hc
    exact Or.inl hc

theorem Joins.ages {ends : Connection} (h : Joins g ⟨g.nextConnection⟩ ends g') (hroom : g.ConnectionRoom)
    (hnext : g'.nextConnection = g.nextConnection + 1) (es : List Edit) : Ages es g g' := by
  have hlt : g.nextConnection < g'.nextConnection := by
    rw [hnext]
    exact lt_add_one_of_room hroom (UInt32.le_refl _)
  refine ⟨by rw [h.nextNode]; exact UInt32.le_refl _, UInt32.le_of_lt hlt, ?_, ?_⟩
  · intro n b hb
    obtain ⟨a, ha, heq⟩ := h.toRelists.node?_bare hb
    exact Or.inl ⟨a, ha, Node.became_of_bare_eq heq es n⟩
  · intro c ends' hc
    rcases h.connection?_cases hc with ⟨rfl, -⟩ | hold
    · exact Or.inr ⟨UInt32.le_refl _, hlt⟩
    · exact Or.inl hold

theorem PutsNode.ages {n : NodeId} {node node' : Node} (h : PutsNode g n node node' g')
    (hb : Node.Became es n node node') : Ages es g g' where
  nextNode := by rw [h.nextNode]; exact UInt32.le_refl _
  nextConnection := by rw [h.nextConnection]; exact UInt32.le_refl _
  node := by
    intro m found hm
    rw [h.node?] at hm
    split at hm
    · rename_i heq
      injection hm with hm
      subst heq hm
      exact Or.inl ⟨node, h.old, hb⟩
    · exact Or.inl ⟨found, hm, Node.became_of_bare_eq rfl es m⟩
  connection := by
    intro c ends hc
    rw [h.connection?] at hc
    exact Or.inl hc

theorem ages_addNode {n : NodeId} {node : Node} (h : g.Numbered) (hroom : g.NodeRoom)
    (hadd : g.addNode node = .ok (n, g')) (es : List Edit) : Ages es g g' := by
  obtain ⟨hnext, hconn⟩ := counters_addNode hadd
  obtain ⟨-, -, rfl⟩ := addNode_eq_ok_iff.mp hadd
  exact (addsNode_enlist h node).ages hroom hnext hconn es

theorem Change.ages {a : Answer} (h : g.Numbered) (hroom : g.RoomForOne a) (hc : Change g e a g') :
    Ages [e] g g' := by
  cases hc with
  | added hadd => exact ages_addNode h (hroom.node rfl) hadd _
  | inserted d position name =>
      exact (addsNode_insertTerminal h d position name).ages (hroom.node rfl) (nextNode_insertTerminal g d position name)
        (nextConnection_insertTerminal g d position name) _
  | @renamed n name _ hren =>
      obtain ⟨node, node', hname, hp⟩ := putsNode_renameTerminal hren
      have hsame := Node.renamedTerminal?_became (n := n) hname
      exact hp.ages hsame
  | readAdded hadd => exact ages_addNode h (hroom.node rfl) hadd _
  | removed hrem => exact (loses_removeNode hrem).ages _
  | connected hconn =>
      have hj := joins_connect h hconn
      obtain ⟨-, -, -, rfl, rfl⟩ := connect_eq_ok_iff.mp hconn
      exact hj.ages (hroom.connection rfl) rfl _
  | @disconnected c ends _ hdis =>
      obtain ⟨found, -, heq⟩ := Option.map_eq_some_iff.mp hdis
      injection heq with hends hg
      subst hends hg
      exact (loses_dropConnection g c found).ages _
  | unchanged hnode hconn => exact (Loses.refl g).ages _

/-! ## Runs -/

theorem run_append (g : Graph) (es es' : List Edit) : g.run (es ++ es') = (g.run es).run es' := by
  unfold run
  exact List.foldl_append

theorem run_ages (h : g.Numbered) (hroom : g.RoomFor es) : Ages es g (g.run es) := by
  induction es generalizing g with
  | nil => exact Ages.refl g
  | cons e es ih =>
      have hc := perform_change g e
      have hstep := hc.ages h hroom.head
      exact hstep.trans (ih (h.ages hstep) (hroom.tail hc.counts))

/-! ## The numbers that a run gives -/

theorem answers_append (g : Graph) (es es' : List Edit) :
    g.answers (es ++ es') = g.answers es ++ (g.run es).answers es' := by
  induction es generalizing g with
  | nil => rfl
  | cons e es ih => exact congrArg (_ :: ·) (ih _)

theorem RoomFor.start (h : g.RoomFor (es ++ es')) : g.RoomFor es := by
  obtain ⟨hnodes, hconns⟩ := h
  rw [answers_append, List.countP_append] at hnodes hconns
  exact ⟨by omega, by omega⟩

theorem RoomFor.rest (h : g.RoomFor (es ++ es')) : (g.run es).RoomFor es' := by
  induction es generalizing g with
  | nil => exact h
  | cons e es ih => exact ih (h.tail (perform_change g e).counts)

/--
What a run gives numbers to has different numbers, if a number that is given is the one at which a counter stands,
and the counter goes on.
-/
theorem given_nodup {ι : Type} (given? : Answer → Option ι) (number : ι → UInt32) (counter : Graph → UInt32)
    (hle : ∀ {g e es}, RoomFor g (e :: es) → counter g ≤ counter (g.perform e).2)
    (hgiven : ∀ {g e es i}, RoomFor g (e :: es) → given? (g.perform e).1 = some i →
      number i = counter g ∧ counter g < counter (g.perform e).2)
    (hroom : g.RoomFor es) :
    ((g.answers es).filterMap given?).Nodup ∧ ∀ i ∈ (g.answers es).filterMap given?, counter g ≤ number i := by
  induction es generalizing g with
  | nil => exact ⟨List.nodup_nil, fun i hi => absurd hi List.not_mem_nil⟩
  | cons e es ih =>
      obtain ⟨hnodup, hbound⟩ := ih (hroom.tail (perform_change g e).counts)
      have hlater : ∀ i ∈ ((g.perform e).2.answers es).filterMap given?, counter g ≤ number i :=
        fun i hi => UInt32.le_trans (hle hroom) (hbound i hi)
      unfold answers
      cases hanswer : given? (g.perform e).1 with
      | none =>
          rw [List.filterMap_cons_none hanswer]
          exact ⟨hnodup, hlater⟩
      | some i =>
          obtain ⟨hnumber, hlt⟩ := hgiven hroom hanswer
          rw [List.filterMap_cons_some hanswer]
          refine ⟨List.nodup_cons.mpr ⟨?_, hnodup⟩, ?_⟩
          · intro hi
            have hle := hbound i hi
            rw [hnumber] at hle
            exact absurd hlt (UInt32.not_lt.mpr hle)
          · intro j hj
            rcases List.mem_cons.mp hj with rfl | hj
            · rw [hnumber]
              exact UInt32.le_refl _
            · exact hlater j hj

theorem Change.node_val {a : Answer} (hc : Change g e a g') {n : NodeId} (hn : a.node? = some n) :
    n.val = g.nextNode := by
  have hadded : ∀ {m : NodeId} {node : Node}, g.addNode node = .ok (m, g') → m.val = g.nextNode := by
    intro m node hadd
    rw [(addNode_eq_ok_iff.mp hadd).2.1]
  cases hc with
  | added hadd => exact Option.some.inj hn ▸ hadded hadd
  | inserted d position name => cases d <;> exact Option.some.inj hn ▸ rfl
  | readAdded hadd => exact Option.some.inj hn ▸ hadded hadd
  | unchanged hnode _ =>
      rw [Answer.isNode_of_node? hn] at hnode
      exact absurd hnode (by simp)
  | _ => exact absurd hn (by simp [Answer.node?])

theorem Change.connection_val {a : Answer} (hc : Change g e a g') {c : ConnectionId}
    (hcon : a.connection? = some c) : c.val = g.nextConnection := by
  cases hc with
  | connected hconn =>
      obtain ⟨-, -, -, rfl, -⟩ := connect_eq_ok_iff.mp hconn
      exact Option.some.inj hcon ▸ rfl
  | unchanged _ hconn =>
      rw [Answer.isConnection_of_connection? hcon] at hconn
      exact absurd hconn (by simp)
  | _ => exact absurd hcon (by simp [Answer.connection?])

theorem nextNode_perform (hroom : g.RoomFor (e :: es)) :
    g.nextNode ≤ (g.perform e).2.nextNode
      ∧ ∀ n, (g.perform e).1.node? = some n → n.val = g.nextNode ∧ g.nextNode < (g.perform e).2.nextNode := by
  have hc := perform_change g e
  rw [hc.counts.nextNode]
  constructor
  · split
    · rename_i hnode
      exact UInt32.le_of_lt (lt_add_one_of_room (hroom.head.node hnode) (UInt32.le_refl _))
    · exact UInt32.le_refl _
  · intro n hn
    have hnode := Answer.isNode_of_node? hn
    rw [if_pos hnode]
    exact ⟨hc.node_val hn, lt_add_one_of_room (hroom.head.node hnode) (UInt32.le_refl _)⟩

theorem nextConnection_perform (hroom : g.RoomFor (e :: es)) :
    g.nextConnection ≤ (g.perform e).2.nextConnection ∧ ∀ c, (g.perform e).1.connection? = some c →
      c.val = g.nextConnection ∧ g.nextConnection < (g.perform e).2.nextConnection := by
  have hc := perform_change g e
  rw [hc.counts.nextConnection]
  constructor
  · split
    · rename_i hconn
      exact UInt32.le_of_lt (lt_add_one_of_room (hroom.head.connection hconn) (UInt32.le_refl _))
    · exact UInt32.le_refl _
  · intro c hcon
    have hconn := Answer.isConnection_of_connection? hcon
    rw [if_pos hconn]
    exact ⟨hc.connection_val hcon, lt_add_one_of_room (hroom.head.connection hconn) (UInt32.le_refl _)⟩

theorem given_nodes_nodup (hroom : g.RoomFor es) : ((g.answers es).filterMap Answer.node?).Nodup :=
  (given_nodup Answer.node? NodeId.val Graph.nextNode (fun hroom => (nextNode_perform hroom).1)
    (fun hroom hn => (nextNode_perform hroom).2 _ hn) hroom).1

theorem given_connections_nodup (hroom : g.RoomFor es) : ((g.answers es).filterMap Answer.connection?).Nodup :=
  (given_nodup Answer.connection? ConnectionId.val Graph.nextConnection
    (fun hroom => (nextConnection_perform hroom).1) (fun hroom hc => (nextConnection_perform hroom).2 _ hc) hroom).1

/-! ## Three times of a run -/

/-- What is there at the first of two times is the same thing at the second one, if it is still there. -/
structure Keeps (es : List Edit) (g g' : Graph) : Prop where
  node : ∀ n a b, g.node? n = some a → g'.node? n = some b → Node.Became es n a b
  connection : ∀ c ends ends', g.connection? c = some ends → g'.connection? c = some ends' → ends' = ends

theorem Ages.keeps (h : Ages es g g') (hg : g.Numbered) : Keeps es g g' where
  node := by
    intro n a b ha hb
    obtain ⟨a', ha', hbecame⟩ := h.node_of_lt (hg.node_lt n a ha) hb
    rw [ha] at ha'
    exact Option.some.inj ha' ▸ hbecame
  connection := by
    intro c ends ends' hc hc'
    have hold := h.connection_of_lt (hg.connection_lt c ends hc) hc'
    exact Option.some.inj (hold.symm.trans hc)

/-- What was there at the first of three times and is gone at the second one is gone at the third one. -/
structure GoneForGood (g g' g'' : Graph) : Prop where
  node : ∀ n a, g.node? n = some a → g'.node? n = none → g''.node? n = none
  connection : ∀ c ends, g.connection? c = some ends → g'.connection? c = none → g''.connection? c = none

theorem Ages.goneForGood (h : Ages es g g') (hg : g.Numbered) (h' : Ages es' g' g'') : GoneForGood g g' g'' where
  node := by
    intro n a ha hgone
    rw [Option.eq_none_iff_forall_ne_some]
    intro b hb
    obtain ⟨a', ha', -⟩ := h'.node_of_lt (UInt32.lt_of_lt_of_le (hg.node_lt n a ha) h.nextNode) hb
    rw [hgone] at ha'
    exact absurd ha' (by simp)
  connection := by
    intro c ends hc hgone
    rw [Option.eq_none_iff_forall_ne_some]
    intro ends' hc'
    have hmid := h'.connection_of_lt (UInt32.lt_of_lt_of_le (hg.connection_lt c ends hc) h.nextConnection) hc'
    rw [hgone] at hmid
    exact absurd hmid (by simp)

end Ages

/--
**Identities are given once.** In a run of edits that makes fewer than `2 ^ 32` nodes and fewer than `2 ^ 32`
connections, no number is given to two nodes or to two connections, gone or not. As long as a connection is there it
has the same ends. As long as a node is there it has the same package, as many ports, the same state and the same part
in a delay line, and its name changes only if it is a terminal that is renamed, which leaves the mark in front. A node
or connection that is gone, removed by itself or along with another, is not found again.
-/
theorem identities_given_once (name : String) (es : List Edit) (hroom : (empty name).RoomFor es) :
    (((empty name).answers es).filterMap Answer.node?).Nodup
      ∧ (((empty name).answers es).filterMap Answer.connection?).Nodup
      ∧ ∀ es₁ es₂ es₃, es₁ ++ es₂ ++ es₃ <+: es →
        let g₁ := (empty name).run es₁
        let g₂ := g₁.run es₂
        Keeps es₂ g₁ g₂ ∧ GoneForGood g₁ g₂ (g₂.run es₃) := by
  refine ⟨given_nodes_nodup hroom, given_connections_nodup hroom, ?_⟩
  rintro es₁ es₂ es₃ ⟨later, rfl⟩
  have hroom₃ := hroom.start
  have hnum₁ := (empty_wellFormed name).toNumbered.ages
    (run_ages (empty_wellFormed name).toNumbered hroom₃.start.start)
  have hages₂ := run_ages hnum₁ hroom₃.start.rest
  have hroom' := hroom₃.rest
  rw [run_append] at hroom'
  exact ⟨hages₂.keeps hnum₁, hages₂.goneForGood hnum₁ (run_ages (hnum₁.ages hages₂) hroom')⟩

/-- A delay line goes with its reader and its connection, and what is made later gets other numbers. -/
theorem line_gone_for_good :
    let es₁ : List Edit := [.insert .input 0 "x", .add .delayWrite, .addRead ⟨1⟩, .connect ⟨⟨0⟩, 0⟩ ⟨⟨1⟩, 1⟩]
    let es₃ : List Edit := [.rename ⟨0⟩ "in-y", .insert .output 0 "y", .connect ⟨⟨0⟩, 0⟩ ⟨⟨3⟩, 0⟩]
    let g := (empty "line").run (es₁ ++ [.remove ⟨1⟩] ++ es₃)
    g.node? ⟨2⟩ = none ∧ g.connection? ⟨0⟩ = none ∧ g.connection? ⟨1⟩ = some ⟨⟨⟨0⟩, 0⟩, ⟨⟨3⟩, 0⟩⟩ := by
  intro es₁ es₃ g
  have hroom : (empty "line").RoomFor (es₁ ++ [.remove ⟨1⟩] ++ es₃) :=
    roomFor_of_length (by simp [empty, es₁, es₃]) (by simp [empty, es₁, es₃])
  obtain ⟨-, -, htimes⟩ := identities_given_once "line" _ hroom
  obtain ⟨-, hgone⟩ := htimes es₁ [.remove ⟨1⟩] es₃ (List.prefix_refl _)
  have hrun : g = (((empty "line").run es₁).run [.remove ⟨1⟩]).run es₃ :=
    (run_append _ _ _).trans (congrArg (·.run es₃) (run_append _ _ _))
  rw [hrun]
  refine ⟨hgone.node ⟨2⟩ (.delayRead ⟨1⟩) ?_ ?_, hgone.connection ⟨0⟩ ⟨⟨⟨0⟩, 0⟩, ⟨⟨1⟩, 1⟩⟩ ?_ ?_, ?_⟩
  all_goals cbv

end Graph

end SignalGraph
