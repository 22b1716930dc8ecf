import SignalGraph.Proofs.Graph.Removing

/-!
# Runs of edits

An edit is asked of a graph, and the graph answers. Edits that are refused leave the graph as it was, so a
run may mix edits that succeed with edits that do not. The answers of a run tell how many nodes and how many
connections it made; as long as neither count reaches the end of its counter, the invariant holds throughout
(`WellFormed.run`).
-/

namespace SignalGraph

/-- What can be asked of a graph. -/
inductive Edit where
  /-- Add a node. -/
  | add (node : Node)
  /-- Insert a terminal at a position of its sequence. -/
  | insert (d : Direction) (position : Nat) (name : String)
  /-- Rename a terminal. -/
  | rename (n : NodeId) (name : String)
  /-- Add a node that reads the delay line of a delay node. -/
  | addRead (n : NodeId)
  /-- Remove a node. -/
  | remove (n : NodeId)
  /-- Connect two ports. -/
  | connect (src : OutPort) (dst : InPort)
  /-- Remove a connection. -/
  | disconnect (c : ConnectionId)

/-- What a graph answers to an edit. -/
inductive Answer where
  | node (n : NodeId)
  | connection (c : ConnectionId)
  | renamed
  | removed (node : Node)
  | disconnected (ends : Connection)
  | absent
  | refused (cause : GraphError)
deriving DecidableEq

def Answer.isNode : Answer → Bool
  | node _ => true
  | _ => false

def Answer.isConnection : Answer → Bool
  | connection _ => true
  | _ => false

/-- The edit adds no node with connections of its own. -/
def Edit.Clean : Edit → Prop
  | add node => node.Unconnected
  | _ => True

namespace Graph

/-- Make an edit, or leave the graph as it is if that cannot be done. -/
def perform (g : Graph) : Edit → Answer × Graph
  | .add node => match g.addNode node with
    | .ok (n, g') => (.node n, g')
    | .error e => (.refused e, g)
  | .insert d position name => ((.node (g.insertTerminal d position name).1), (g.insertTerminal d position name).2)
  | .rename n name => match g.renameTerminal n name with
    | .ok g' => (.renamed, g')
    | .error e => (.refused e, g)
  | .addRead n => match g.addDelayRead n with
    | .ok (m, g') => (.node m, g')
    | .error e => (.refused e, g)
  | .remove n => match g.removeNode n with
    | some (node, g') => (.removed node, g')
    | none => (.absent, g)
  | .connect src dst => match g.connect src dst with
    | .ok (c, g') => (.connection c, g')
    | .error e => (.refused e, g)
  | .disconnect c => match g.disconnect c with
    | some (ends, g') => (.disconnected ends, g')
    | none => (.absent, g)

/-- Make edits one after the other. -/
def run (g : Graph) (es : List Edit) : Graph := es.foldl (fun g e => (g.perform e).2) g

/-- The answers to edits that are made one after the other. -/
def answers : Graph → List Edit → List Answer
  | _, [] => []
  | g, e :: es => (g.perform e).1 :: answers (g.perform e).2 es

/-- Neither counter runs out while the edits are made. -/
structure RoomFor (g : Graph) (es : List Edit) : Prop where
  /-- The nodes made so far and the new ones. -/
  nodes : g.nextNode.toNat + (g.answers es).countP Answer.isNode < 2 ^ 32
  /-- The connections made so far and the new ones. -/
  connections : g.nextConnection.toNat + (g.answers es).countP Answer.isConnection < 2 ^ 32

theorem length_answers (g : Graph) (es : List Edit) : (g.answers es).length = es.length := by
  induction es generalizing g with
  | nil => rfl
  | cons e es ih =>
      unfold answers
      rw [List.length_cons, List.length_cons, ih]

/-- An edit makes one thing at most, so a run that is short enough has room. -/
theorem roomFor_of_length {g : Graph} {es : List Edit} (hnode : g.nextNode.toNat + es.length < 2 ^ 32)
    (hconn : g.nextConnection.toNat + es.length < 2 ^ 32) : g.RoomFor es := by
  have hlen := length_answers g es
  have hnodes := List.countP_le_length (p := Answer.isNode) (l := g.answers es)
  have hconns := List.countP_le_length (p := Answer.isConnection) (l := g.answers es)
  exact ⟨by omega, by omega⟩

/-! ## What one edit does -/

/-- The ways in which an edit can change a graph. -/
inductive Change (g : Graph) : Edit → Answer → Graph → Prop where
  | added {node : Node} {n : NodeId} {g' : Graph} (h : g.addNode node = .ok (n, g')) :
      Change g (.add node) (.node n) g'
  | inserted (d : Direction) (position : Nat) (name : String) :
      Change g (.insert d position name) (.node (g.insertTerminal d position name).1)
        (g.insertTerminal d position name).2
  | renamed {n : NodeId} {name : String} {g' : Graph} (h : g.renameTerminal n name = .ok g') :
      Change g (.rename n name) .renamed g'
  | readAdded {n m writer : NodeId} {g' : Graph} (h : g.addNode (.delayRead writer) = .ok (m, g')) :
      Change g (.addRead n) (.node m) g'
  | removed {n : NodeId} {node : Node} {g' : Graph} (h : g.removeNode n = some (node, g')) :
      Change g (.remove n) (.removed node) g'
  | connected {src : OutPort} {dst : InPort} {c : ConnectionId} {g' : Graph}
      (h : g.connect src dst = .ok (c, g')) : Change g (.connect src dst) (.connection c) g'
  | disconnected {c : ConnectionId} {ends : Connection} {g' : Graph} (h : g.disconnect c = some (ends, g')) :
      Change g (.disconnect c) (.disconnected ends) g'
  | unchanged {e : Edit} {a : Answer} (hnode : a.isNode = false) (hconn : a.isConnection = false) :
      Change g e a g

theorem perform_change (g : Graph) (e : Edit) : Change g e (g.perform e).1 (g.perform e).2 := by
  cases e with
  | add node =>
      unfold perform
      dsimp only
      split
      · rename_i h
        exact Change.added h
      · exact Change.unchanged rfl rfl
  | insert d position name => exact Change.inserted d position name
  | rename n name =>
      unfold perform
      dsimp only
      split
      · rename_i h
        exact Change.renamed h
      · exact Change.unchanged rfl rfl
  | addRead n =>
      unfold perform
      dsimp only
      split
      · rename_i h
        -- a reader is added like any other node, once its line is found
        unfold addDelayRead at h
        split at h
        · exact absurd h (by simp)
        · exact Change.readAdded h
      · exact Change.unchanged rfl rfl
  | remove n =>
      unfold perform
      dsimp only
      split
      · rename_i h
        exact Change.removed h
      · exact Change.unchanged rfl rfl
  | connect src dst =>
      unfold perform
      dsimp only
      split
      · rename_i h
        exact Change.connected h
      · exact Change.unchanged rfl rfl
  | disconnect c =>
      unfold perform
      dsimp only
      split
      · rename_i h
        exact Change.disconnected h
      · exact Change.unchanged rfl rfl

/-- An edit that makes nothing uses up no number, and one that makes something uses up one. -/
structure Counts (g : Graph) (a : Answer) (g' : Graph) : Prop where
  nextNode : g'.nextNode = if a.isNode then g.nextNode + 1 else g.nextNode
  nextConnection : g'.nextConnection = if a.isConnection then g.nextConnection + 1 else g.nextConnection

theorem counters_addNode {g g' : Graph} {n : NodeId} {node : Node} (h : g.addNode node = .ok (n, g')) :
    g'.nextNode = g.nextNode + 1 ∧ g'.nextConnection = g.nextConnection := by
  obtain ⟨-, -, rfl⟩ := addNode_eq_ok_iff.mp h
  exact ⟨nextNode_enlist _ _ _, nextConnection_enlist _ _ _⟩

theorem Change.counts {g g' : Graph} {e : Edit} {a : Answer} (hc : Change g e a g') : Counts g a g' := by
  cases hc with
  | added hadd => exact ⟨(counters_addNode hadd).1, (counters_addNode hadd).2⟩
  | inserted d position name =>
      exact ⟨nextNode_insertTerminal g d position name, nextConnection_insertTerminal g d position name⟩
  | renamed hren =>
      obtain ⟨_, _, -, hp⟩ := putsNode_renameTerminal hren
      exact ⟨hp.nextNode, hp.nextConnection⟩
  | readAdded hadd => exact ⟨(counters_addNode hadd).1, (counters_addNode hadd).2⟩
  | removed hrem => exact ⟨(loses_removeNode hrem).nextNode, (loses_removeNode hrem).nextConnection⟩
  | connected hconn =>
      obtain ⟨-, -, -, -, rfl⟩ := connect_eq_ok_iff.mp hconn
      exact ⟨rfl, rfl⟩
  | disconnected hdis =>
      have hd := drops_disconnect hdis
      exact ⟨hd.nextNode, hd.nextConnection⟩
  | unchanged hnode hconn => exact ⟨by rw [hnode]; rfl, by rw [hconn]; rfl⟩

/-! ## One edit keeps the invariant -/

/-- There is a number left for what the edit makes. -/
structure RoomForOne (g : Graph) (a : Answer) : Prop where
  node : a.isNode = true → g.NodeRoom
  connection : a.isConnection = true → g.ConnectionRoom

theorem WellFormed.change {g g' : Graph} {e : Edit} {a : Answer} (h : g.WellFormed) (hroom : g.RoomForOne a)
    (hclean : e.Clean) (hc : Change g e a g') : g'.WellFormed := by
  cases hc with
  | added hadd => exact h.addNode (hroom.node rfl) hclean hadd
  | inserted d position name => exact h.insertTerminal (hroom.node rfl) d position name
  | renamed hren => exact h.renameTerminal hren
  | readAdded hadd => exact h.addNode (hroom.node rfl) (Node.delayRead_unconnected _) hadd
  | removed hrem => exact (removeNode_spec h hrem).1
  | connected hconn => exact h.connect (hroom.connection rfl) hconn
  | disconnected hdis => exact h.disconnect hdis
  | unchanged hnode hconn => exact h

/-! ## Runs -/

theorem RoomFor.head {g : Graph} {e : Edit} {es : List Edit} (h : g.RoomFor (e :: es)) :
    g.RoomForOne (g.perform e).1 := by
  obtain ⟨hnodes, hconns⟩ := h
  unfold answers at hnodes hconns
  rw [List.countP_cons] at hnodes hconns
  refine ⟨fun hn => ?_, fun hc => ?_⟩
  · rw [if_pos hn] at hnodes
    unfold NodeRoom
    omega
  · rw [if_pos hc] at hconns
    unfold ConnectionRoom
    omega

theorem toNat_add_one {a : UInt32} (h : a.toNat + 1 < 2 ^ 32) : (a + 1).toNat = a.toNat + 1 := by
  rw [UInt32.toNat_add, UInt32.toNat_one, Nat.mod_eq_of_lt h]

theorem RoomFor.tail {g : Graph} {e : Edit} {es : List Edit} (h : g.RoomFor (e :: es))
    (hcounts : Counts g (g.perform e).1 (g.perform e).2) : (g.perform e).2.RoomFor es := by
  have hroom := h.head
  obtain ⟨hnodes, hconns⟩ := h
  unfold answers at hnodes hconns
  rw [List.countP_cons] at hnodes hconns
  refine ⟨?_, ?_⟩
  · rw [hcounts.nextNode]
    by_cases hn : (g.perform e).1.isNode = true
    · rw [if_pos hn] at hnodes ⊢
      rw [toNat_add_one (hroom.node hn)]
      omega
    · rw [if_neg hn] at hnodes ⊢
      exact hnodes
  · rw [hcounts.nextConnection]
    by_cases hc : (g.perform e).1.isConnection = true
    · rw [if_pos hc] at hconns ⊢
      rw [toNat_add_one (hroom.connection hc)]
      omega
    · rw [if_neg hc] at hconns ⊢
      exact hconns

/--
What holds at first and is kept by every change of a well-formed graph holds at the end of a run, and so does
the invariant.
-/
theorem run_induction {P : Graph → Prop} {ok : Edit → Prop} (hok : ∀ e, ok e → e.Clean)
    (hstep : ∀ g e a g', g.WellFormed → g.RoomForOne a → ok e → P g → Change g e a g' → P g')
    {g : Graph} {es : List Edit} (h : g.WellFormed) (hP : P g) (hes : ∀ e ∈ es, ok e)
    (hroom : g.RoomFor es) : (g.run es).WellFormed ∧ P (g.run es) := by
  induction es generalizing g with
  | nil => exact ⟨h, hP⟩
  | cons e es ih =>
      have hc := perform_change g e
      have he := hes e List.mem_cons_self
      refine ih (h.change hroom.head (hok e he) hc) (hstep _ _ _ _ h hroom.head he hP hc) ?_
        (hroom.tail hc.counts)
      exact fun e' he' => hes e' (List.mem_cons_of_mem _ he')

/-- The invariant holds throughout a run. -/
theorem WellFormed.run {g : Graph} {es : List Edit} (h : g.WellFormed) (hes : ∀ e ∈ es, e.Clean)
    (hroom : g.RoomFor es) : (g.run es).WellFormed :=
  (run_induction (P := fun _ => True) (fun _ he => he) (fun _ _ _ _ _ _ _ _ _ => trivial) h trivial hes hroom).1

theorem empty_wellFormed (name : String) : (empty name).WellFormed where
  nodup := List.nodup_nil
  mem_inPorts := by intro n; simp [empty, Graph.node?]
  mem_body := by intro n; simp [empty, Graph.node?]
  mem_outPorts := by intro n; simp [empty, Graph.node?]
  src_listed := by intro c ends hc; exact absurd hc (by simp [empty, Graph.connection?])
  dst_listed := by intro c ends hc; exact absurd hc (by simp [empty, Graph.connection?])
  mem_outgoing := by intro s cs c hs; exact absurd hs (by simp [empty, Graph.outgoing?, Graph.node?])
  mem_incoming := by intro d cs c hd; exact absurd hd (by simp [empty, Graph.incoming?, Graph.node?])
  outgoing_nodup := by intro s cs hs; exact absurd hs (by simp [empty, Graph.outgoing?, Graph.node?])
  incoming_length := by intro d cs hd; exact absurd hd (by simp [empty, Graph.incoming?, Graph.node?])
  node_lt := by intro n node hn; exact absurd hn (by simp [empty, Graph.node?])
  connection_lt := by intro c ends hc; exact absurd hc (by simp [empty, Graph.connection?])
  acyclic := by
    intro n hn
    obtain ⟨m, ⟨c, ends, hc, -⟩, -⟩ := Relation.TransGen.head'_iff.mp hn
    exact absurd hc (by simp [empty, Graph.connection?])
  delays := by intro n node w hn; exact absurd hn (by simp [empty, Graph.node?])

/-- The graphs that edits of a kind make of an empty one. -/
def Reachable (ok : Edit → Prop) (g : Graph) : Prop :=
  ∃ name es, (∀ e ∈ es, ok e) ∧ (empty name).RoomFor es ∧ g = (empty name).run es

theorem Reachable.mono {ok ok' : Edit → Prop} (hok : ∀ e, ok e → ok' e) {g : Graph} (hg : g.Reachable ok) :
    g.Reachable ok' := by
  obtain ⟨name, es, hes, hroom, heq⟩ := hg
  exact ⟨name, es, fun e he => hok e (hes e he), hroom, heq⟩

/-! ## What holds of every node -/

/-- A property of nodes that edits keep: of terminals and delay reads it is known, and renaming does not touch it. -/
structure Lasting (p : Node → Prop) : Prop where
  terminal : ∀ d name, p (.terminal d name)
  delayRead : ∀ w, p (.delayRead w)
  renamed : ∀ node node' name, p node.bare → renamedTerminal? node name = some node' → p node'.bare

/-- Every node has a property, its connections left aside. -/
def AllBare (p : Node → Prop) (g : Graph) : Prop := ∀ n node, g.node? n = some node → p node.bare

theorem AllBare.addNode {p : Node → Prop} {g g' : Graph} {n : NodeId} {node : Node} (h : g.AllBare p)
    (hwf : g.WellFormed) (hp : p node.bare) (hadd : g.addNode node = .ok (n, g')) : g'.AllBare p := by
  obtain ⟨-, -, rfl⟩ := addNode_eq_ok_iff.mp hadd
  intro m found hm
  rw [(addsNode_enlist hwf.toNumbered node).node?] at hm
  split at hm
  · injection hm with hm
    rw [← hm]
    exact hp
  · exact h m found hm

theorem AllBare.shrinks {p : Node → Prop} {g g' : Graph} (h : g.AllBare p) (hs : Shrinks g g') :
    g'.AllBare p := by
  intro n node hn
  obtain ⟨old, hold, heq⟩ := hs.node? n node hn
  rw [heq]
  exact h n old hold

/-- A connection changes lists at ports, which `bare` leaves out. -/
theorem AllBare.relists {p : Node → Prop} {g g' : Graph} {ends : Connection}
    {f : List ConnectionId → List ConnectionId} (h : g.AllBare p) (hr : Relists g ends f g') : g'.AllBare p := by
  intro n node hn
  obtain ⟨old, hold, heq⟩ := hr.node?_bare hn
  rw [heq]
  exact h n old hold

theorem AllBare.change {p : Node → Prop} (hlast : Lasting p) {g g' : Graph} {e : Edit} {a : Answer}
    (h : g.AllBare p) (hwf : g.WellFormed) (hadd : ∀ node, e = .add node → p node.bare)
    (hc : Change g e a g') : g'.AllBare p := by
  cases hc with
  | added hnode => exact h.addNode hwf (hadd _ rfl) hnode
  | inserted d position name =>
      intro m found hm
      rw [(addsNode_insertTerminal hwf.toNumbered d position name).node?] at hm
      split at hm
      · injection hm with hm
        rw [← hm, (Node.terminal_unconnected d name).bare_eq]
        exact hlast.terminal d name
      · exact h m found hm
  | renamed hren =>
      obtain ⟨node, node', hname, hp⟩ := putsNode_renameTerminal hren
      intro m found hm
      rw [hp.node?] at hm
      split at hm
      · injection hm with hm
        rw [← hm]
        exact hlast.renamed _ _ _ (h _ _ hp.old) hname
      · exact h m found hm
  | readAdded hnode =>
      refine h.addNode hwf ?_ hnode
      rw [(Node.delayRead_unconnected _).bare_eq]
      exact hlast.delayRead _
  | removed hrem => exact h.shrinks (removeNode_spec hwf hrem).2.1
  | connected hconn => exact h.relists (joins_connect hwf.toNumbered hconn).toRelists
  | disconnected hdis => exact h.shrinks (drops_disconnect hdis).shrinks
  | unchanged hnode hconn => exact h

/-- A run keeps a lasting property of all nodes if the nodes that it adds have it. -/
theorem AllBare.run {p : Node → Prop} {ok : Edit → Prop} (hok : ∀ e, ok e → e.Clean) (hlast : Lasting p)
    (hadd : ∀ node, ok (.add node) → p node.bare) {g : Graph} {es : List Edit} (h : g.AllBare p) (hwf : g.WellFormed)
    (hes : ∀ e ∈ es, ok e) (hroom : g.RoomFor es) : (g.run es).WellFormed ∧ (g.run es).AllBare p := by
  refine run_induction hok ?_ hwf h hes hroom
  intro g e a g' hwf _ he h hc
  refine h.change hlast hwf ?_ hc
  rintro node rfl
  exact hadd node he

theorem allBare_empty (p : Node → Prop) (name : String) : (empty name).AllBare p :=
  fun n node hn => absurd hn (by simp [empty, Graph.node?])

/-- A lasting property of all nodes that are added is one of all nodes of every reachable graph. -/
theorem Reachable.allBare {p : Node → Prop} {ok : Edit → Prop} (hok : ∀ e, ok e → e.Clean)
    (hlast : Lasting p) (hadd : ∀ node, ok (.add node) → p node.bare) {g : Graph} (hg : g.Reachable ok) :
    g.WellFormed ∧ g.AllBare p := by
  obtain ⟨name, es, hes, hroom, rfl⟩ := hg
  exact (allBare_empty p name).run hok hlast hadd (empty_wellFormed name) hes hroom

end Graph

end SignalGraph
