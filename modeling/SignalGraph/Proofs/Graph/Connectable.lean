import SignalGraph.Proofs.Graph.Identity
import SignalGraph.Proofs.Record.Accepted

/-!
# What can be connected, and what a connection changes

Two ports can be connected if they are there, the input is free and no signal runs from the destination back to the
source (`Connectable`). Said this way nothing is left of the lists of the ports and of the search: that the input is
free is a matter of the connections of the graph, and the way back is one along connections.

A connection that is made is the last one of the graph. The output lists it behind all others, the input lists nothing
else, and the rest is as it was (`Gains`).
-/

namespace SignalGraph

namespace Graph

variable {g g' : Graph} {src : OutPort} {dst : InPort} {c : ConnectionId} {ends : Connection}

/-! ## What can be connected -/

/-- An output may be connected to an input. -/
structure Connectable (g : Graph) (src : OutPort) (dst : InPort) : Prop where
  /-- The output is a port of the graph. -/
  source : ∃ node, g.node? src.node = some node ∧ src.index < node.outputs.length
  /-- The input is a port of the graph. -/
  target : ∃ node, g.node? dst.node = some node ∧ dst.index < node.inputs.length
  /-- No connection ends at the input. -/
  free : ∀ c ends, g.connection? c = some ends → ends.dst ≠ dst
  /-- There is no way back, not even the one of length zero. -/
  no_way_back : ¬ g.Reaches dst.node src.node

/-- An input that lists nothing is one at which no connection ends. -/
theorem Registered.incoming_eq_nil_iff (h : g.Registered) :
    g.incoming? dst = some [] ↔ (∃ node, g.node? dst.node = some node ∧ dst.index < node.inputs.length)
      ∧ ∀ c ends, g.connection? c = some ends → ends.dst ≠ dst := by
  constructor
  · intro hnil
    refine ⟨exists_incoming?_iff.mp ⟨[], hnil⟩, ?_⟩
    intro c ends hc hdst
    have hlisted := h.incoming_eq_singleton hc
    rw [hdst, hnil] at hlisted
    exact absurd hlisted (by simp)
  · rintro ⟨hport, hfree⟩
    obtain ⟨cs, hcs⟩ := exists_incoming?_iff.mpr hport
    have hnone : cs = [] := by
      rw [List.eq_nil_iff_forall_not_mem]
      intro c hmem
      obtain ⟨ends, hc, hdst⟩ := (h.mem_incoming dst cs c hcs).mp hmem
      exact hfree c ends hc hdst
    rw [hcs, hnone]

theorem Registered.exists_connect_iff (h : g.Registered) :
    (∃ c g', g.connect src dst = .ok (c, g')) ↔ g.Connectable src dst := by
  have hway : g.isOrPrecedes dst.node src.node = false ↔ ¬ g.Reaches dst.node src.node := by
    rw [← isOrPrecedes_iff h, Bool.not_eq_true]
  constructor
  · rintro ⟨c, g', hconnect⟩
    obtain ⟨hsrc, hdst, hpath, -, -⟩ := connect_eq_ok_iff.mp hconnect
    obtain ⟨htarget, hfree⟩ := h.incoming_eq_nil_iff.mp hdst
    exact ⟨exists_outgoing?_iff.mp hsrc, htarget, hfree, hway.mp hpath⟩
  · intro hable
    refine ⟨_, _, connect_eq_ok_iff.mpr ⟨?_, ?_, hway.mpr hable.no_way_back, rfl, rfl⟩⟩
    · exact exists_outgoing?_iff.mpr hable.source
    · exact h.incoming_eq_nil_iff.mpr ⟨hable.target, hable.free⟩

/-- Why an output is not connected to an input: the first of the conditions that fails. -/
inductive Refuses (g : Graph) (src : OutPort) (dst : InPort) : GraphError → Prop where
  | noSource (hsrc : g.node? src.node = none) : Refuses g src dst (.nodeNotFound src.node)
  | noOutput {source : Node} (hsrc : g.node? src.node = some source) (hport : source.outputs.length ≤ src.index) :
      Refuses g src dst (.portNotFound src.node .output src.index)
  | noTarget (hsrc : ∃ cs, g.outgoing? src = some cs) (hdst : g.node? dst.node = none) :
      Refuses g src dst (.nodeNotFound dst.node)
  | noInput {target : Node} (hsrc : ∃ cs, g.outgoing? src = some cs) (hdst : g.node? dst.node = some target)
      (hport : target.inputs.length ≤ dst.index) : Refuses g src dst (.portNotFound dst.node .input dst.index)
  | occupied {c : ConnectionId} {cs : List ConnectionId} (hsrc : ∃ cs, g.outgoing? src = some cs)
      (hdst : g.incoming? dst = some (c :: cs)) : Refuses g src dst (.alreadyConnected dst)
  | cycle (hsrc : ∃ cs, g.outgoing? src = some cs) (hdst : g.incoming? dst = some [])
      (hway : g.Reaches dst.node src.node) : Refuses g src dst (.cycle src.node dst.node)

theorem Registered.refuses_of_connect (h : g.Registered) {cause : GraphError}
    (hrefused : g.connect src dst = .error cause) : g.Refuses src dst cause := by
  -- one case for each check, in its order; what the checks before have found is the condition of the later ones
  unfold connect at hrefused
  split at hrefused
  · rename_i hsrc
    injection hrefused with hcause
    exact hcause ▸ .noSource hsrc
  · rename_i source hsrc
    split at hrefused
    · rename_i hport
      injection hrefused with hcause
      exact hcause ▸ .noOutput hsrc hport
    · rename_i hport
      have houtput : ∃ cs, g.outgoing? src = some cs :=
        exists_outgoing?_iff.mpr ⟨source, hsrc, Nat.lt_of_not_le hport⟩
      split at hrefused
      · rename_i hdst
        injection hrefused with hcause
        exact hcause ▸ .noTarget houtput hdst
      · rename_i target hdst
        split at hrefused
        · rename_i hport
          injection hrefused with hcause
          exact hcause ▸ .noInput houtput hdst (List.getElem?_eq_none_iff.mp hport)
        · rename_i port hport
          have hinput : g.incoming? dst = some port.connections := by
            rw [show g.incoming? dst = target.incoming[dst.index]? from incoming?_of_node? hdst dst.index]
            unfold Node.incoming
            rw [List.getElem?_map, hport, Option.map_some]
          split at hrefused
          · rename_i hoccupied
            injection hrefused with hcause
            cases hlist : port.connections with
            | nil => exact absurd hoccupied (by simp [Port.accepts, hlist])
            | cons c cs => exact hcause ▸ .occupied houtput (hinput.trans (congrArg some hlist))
          · rename_i hfree
            have hnil : port.connections = [] := by simpa [Port.accepts] using hfree
            split at hrefused
            · rename_i hway
              injection hrefused with hcause
              exact hcause ▸ .cycle houtput (hinput.trans (congrArg some hnil)) ((isOrPrecedes_iff h).mp hway)
            · exact absurd hrefused (by simp)

/-! ## What a connection changes -/

/-- `g'` is `g` with one more connection, and everything else is as it was. -/
structure Gains (g : Graph) (c : ConnectionId) (ends : Connection) (g' : Graph) : Prop where
  /-- No other connection has the number. -/
  fresh : g.connection? c = none
  /-- The connection comes behind all others, which stay as they are. -/
  connections : g'.connections.entries = g.connections.entries ++ [(c, ends)]
  /-- The output lists the connection behind what it listed. -/
  source : ∃ cs, g.outgoing? ends.src = some cs ∧ g'.outgoing? ends.src = some (cs ++ [c])
  /-- The input lists the connection alone. -/
  destination : g.incoming? ends.dst = some [] ∧ g'.incoming? ends.dst = some [c]
  /-- Every other output lists what it listed. -/
  outputs : ∀ s, s ≠ ends.src → g'.outgoing? s = g.outgoing? s
  /-- Every other input lists what it listed. -/
  inputs : ∀ d, d ≠ ends.dst → g'.incoming? d = g.incoming? d
  /-- The nodes come in their order. -/
  keys : g'.arena.keys = g.arena.keys
  /-- But for the lists of its ports, a node is as it was. -/
  bare : ∀ n, (g'.node? n).map Node.bare = (g.node? n).map Node.bare
  /-- A node at neither end is as it was altogether. -/
  others : ∀ n, ends.involves n = false → g'.node? n = g.node? n
  name : g'.name = g.name
  inPorts : g'.inPorts = g.inPorts
  body : g'.body = g.body
  outPorts : g'.outPorts = g.outPorts
  nextNode : g'.nextNode = g.nextNode
  nextConnection : g'.nextConnection = g.nextConnection + 1

theorem keys_relistedArena (g : Graph) (ends : Connection) (f : Port → Port) :
    (g.relistedArena ends f).keys = g.arena.keys := by
  unfold relistedArena
  rw [Table.keys_modify, Table.keys_modify]

/-- Where no connection has its end, there is nothing to change. -/
theorem node?_relistedArena_of_not_involves {f : Port → Port} {n : NodeId} (hn : ends.involves n = false) :
    (g.relistedArena ends f).get? n = g.node? n := by
  unfold Connection.involves at hn
  simp only [Bool.or_eq_false_iff, beq_eq_false_iff_ne] at hn
  have hsame : relistedNode ends f n = id := by
    funext node
    unfold relistedNode
    dsimp only
    rw [if_neg (Ne.symm hn.1), if_neg (Ne.symm hn.2)]
    rfl
  rw [get?_relistedArena, hsame, Option.map_id]
  rfl

theorem Numbered.gains (h : g.Numbered) (hconnect : g.connect src dst = .ok (c, g')) :
    Gains g c ⟨src, dst⟩ g' := by
  have hj := joins_connect h hconnect
  obtain ⟨⟨cs, hcs⟩, hnil, -, rfl, rfl⟩ := connect_eq_ok_iff.mp hconnect
  have hnew : (⟨g.nextConnection⟩ : ConnectionId) ∉ g.connections.keys := Table.get?_eq_none_iff.mp hj.fresh
  exact {
    fresh := hj.fresh
    connections := Table.entries_set_of_not_mem hnew _
    source := ⟨cs, hcs, by rw [hj.outgoing?, hcs, Option.map_some, if_pos rfl]⟩
    destination := ⟨hnil, by rw [hj.incoming?, hnil, Option.map_some, if_pos rfl, List.nil_append]⟩
    outputs := by
      intro s hs
      simp only [hj.outgoing?, if_neg hs, Option.map_id']
    inputs := by
      intro d hd
      simp only [hj.incoming?, if_neg hd, Option.map_id']
    keys := keys_relistedArena g _ _
    bare := hj.bare
    others := fun n hn => node?_relistedArena_of_not_involves hn
    name := rfl
    inPorts := rfl
    body := rfl
    outPorts := rfl
    nextNode := rfl
    nextConnection := rfl }

/-! ## Numbers that were given -/

/-- The numbers of connections that a run has given lie below the counter. -/
theorem Numbered.given_connection_lt (h : g.Numbered) {es : List Edit} (hroom : g.RoomFor es) :
    ∀ c ∈ (g.answers es).filterMap Answer.connection?, c.val < (g.run es).nextConnection := by
  induction es generalizing g with
  | nil => exact fun c hc => absurd hc List.not_mem_nil
  | cons e es ih =>
      have hchange := perform_change g e
      have htail := hroom.tail hchange.counts
      have hnext := h.ages (hchange.ages h hroom.head)
      intro c hc
      obtain ⟨a, ha, hgiven⟩ := List.mem_filterMap.mp hc
      rcases List.mem_cons.mp ha with heq | ha
      · -- this is the number at which the counter stood, and the counter only goes on
        subst heq
        obtain ⟨hval, hlt⟩ := (nextConnection_perform hroom).2 c hgiven
        rw [hval]
        exact UInt32.lt_of_lt_of_le hlt (run_ages hnext htail).nextConnection
      · exact ih hnext htail c (List.mem_filterMap.mpr ⟨a, ha, hgiven⟩)

/--
**Exactly the legal connections are made, and nothing else changes.** The graph is a new one or one that was read, after
any edits. The search for a way back finds one exactly when there is one. Two ports are connected exactly when both are
there, no connection ends at the input and there is no way from the destination back to the source. The connection is a
new one, with a number that was not there at the start and that no edit has given; the output lists it last, the input
lists it alone, and the rest of the graph is as it was. If the ports are not connected, the answer names the first of the
conditions that fails, and the whole graph is as it was.
-/
theorem connects_legal_ports (start : Graph) (hstart : start.Opened) (es : List Edit) (hclean : ∀ e ∈ es, e.Clean)
    (hroom : start.RoomFor es) (src : OutPort) (dst : InPort) :
    let g := start.run es
    (∀ a b, g.isOrPrecedes a b = true ↔ g.Reaches a b)
      ∧ ((∃ c g', g.connect src dst = .ok (c, g')) ↔ g.Connectable src dst)
      ∧ (∀ c g', g.connect src dst = .ok (c, g') →
          start.connection? c = none ∧ c ∉ (start.answers es).filterMap Answer.connection? ∧ Gains g c ⟨src, dst⟩ g')
      ∧ ∀ cause, g.connect src dst = .error cause →
          g.Refuses src dst cause ∧ g.perform (.connect src dst) = (.refused cause, g) := by
  intro g
  have hnumbered : start.Numbered := hstart.rebuilt.1.toNumbered
  have hwf : g.WellFormed := hstart.rebuilt.1.run hclean hroom
  refine ⟨fun a b => isOrPrecedes_iff hwf.toRegistered, hwf.exists_connect_iff, ?_, ?_⟩
  · intro c g' hconnect
    -- the number is where the counter stands, and all others lie below
    have hnumber : c = ⟨g.nextConnection⟩ := (connect_eq_ok_iff.mp hconnect).2.2.2.1
    refine ⟨?_, ?_, hwf.toNumbered.gains hconnect⟩
    · rw [Option.eq_none_iff_forall_ne_some]
      intro ends hc
      have hlt := UInt32.lt_of_lt_of_le (hnumbered.connection_lt c ends hc) (run_ages hnumbered hroom).nextConnection
      rw [hnumber] at hlt
      exact UInt32.lt_irrefl _ hlt
    · intro hgiven
      have hlt := hnumbered.given_connection_lt hroom c hgiven
      rw [hnumber] at hlt
      exact UInt32.lt_irrefl _ hlt
  · intro cause hrefused
    refine ⟨hwf.toRegistered.refuses_of_connect hrefused, ?_⟩
    unfold perform
    dsimp only
    rw [hrefused]

/-- Three nodes in a row, and a second connection between the first two that is removed again. -/
def chainEdits : List Edit :=
  [.insert .input 0 "x", .add (.ofNames ⟨"", "+"⟩ ["", ""] [""]), .add (.ofNames ⟨"", "+"⟩ ["", ""] [""]),
    .connect ⟨⟨0⟩, 0⟩ ⟨⟨1⟩, 0⟩, .connect ⟨⟨1⟩, 0⟩ ⟨⟨2⟩, 0⟩, .connect ⟨⟨0⟩, 0⟩ ⟨⟨1⟩, 1⟩, .disconnect ⟨2⟩]

/-- A connection past the middle of the row gets a number that was not given yet, and one back is refused. -/
theorem chain_connects :
    let g := (empty "chain").run chainEdits
    (∃ g', Gains g ⟨3⟩ ⟨⟨⟨0⟩, 0⟩, ⟨⟨2⟩, 1⟩⟩ g') ∧ g.Refuses ⟨⟨2⟩, 0⟩ ⟨⟨1⟩, 1⟩ (.cycle ⟨2⟩ ⟨1⟩) := by
  have hclean : ∀ e ∈ chainEdits, e.Clean := by
    intro e he
    simp only [chainEdits, List.mem_cons, List.not_mem_nil, or_false] at he
    rcases he with rfl | rfl | rfl | rfl | rfl | rfl | rfl
    case inr.inl => exact Node.ofNames_unconnected _ _ _
    case inr.inr.inl => exact Node.ofNames_unconnected _ _ _
    all_goals trivial
  have hroom : (empty "chain").RoomFor chainEdits := roomFor_of_length (by decide) (by decide)
  have houtput : ((empty "chain").run chainEdits).outgoing? ⟨⟨0⟩, 0⟩ = some [⟨0⟩] := by cbv
  have hinput : ((empty "chain").run chainEdits).incoming? ⟨⟨2⟩, 1⟩ = some [] := by cbv
  have hway : ((empty "chain").run chainEdits).isOrPrecedes ⟨2⟩ ⟨0⟩ = false := by cbv
  have hnext : ((empty "chain").run chainEdits).nextConnection = 3 := by cbv
  have hback : ((empty "chain").run chainEdits).connect ⟨⟨2⟩, 0⟩ ⟨⟨1⟩, 1⟩ = .error (.cycle ⟨2⟩ ⟨1⟩) := by cbv
  have hforth : ((empty "chain").run chainEdits).connect ⟨⟨0⟩, 0⟩ ⟨⟨2⟩, 1⟩
      = .ok (⟨3⟩, ((empty "chain").run chainEdits).join ⟨⟨0⟩, 0⟩ ⟨⟨2⟩, 1⟩) :=
    connect_eq_ok_iff.mpr ⟨⟨_, houtput⟩, hinput, hway, by rw [hnext], rfl⟩
  obtain ⟨-, -, hgains, -⟩ := connects_legal_ports _ (.new "chain") chainEdits hclean hroom ⟨⟨0⟩, 0⟩ ⟨⟨2⟩, 1⟩
  obtain ⟨-, -, -, hrefuses⟩ := connects_legal_ports _ (.new "chain") chainEdits hclean hroom ⟨⟨2⟩, 0⟩ ⟨⟨1⟩, 1⟩
  exact ⟨⟨_, (hgains _ _ hforth).2.2⟩, (hrefuses _ hback).1⟩

end Graph

end SignalGraph
