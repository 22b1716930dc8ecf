import SignalGraph.Proofs.Graph.Visit

/-!
# What the check decides

The check is asked about any graph, also about one that no edits have built: its tables and port lists may disagree in
any way. It finds no fault in exactly the graphs that have none (`check_decides_faultless`).

Each port is looked at by itself, and there it is only seen whether what the port lists has its end there. That a
connection is listed at both of its ends comes from counting: in such ports an end lists it once and no other port does,
so that it is listed twice if and only if both ends do.

The visit that finds cycles is told by its moments (`Moment`), because nodes may be ready in any order at first. At each
of them there are nodes that were visited, and from these no way leads back into a circle.
-/

namespace SignalGraph

namespace Graph

variable {g : Graph}

/-! ## Graphs without fault -/

/-- No port lists a connection twice. -/
structure ListsOnce (g : Graph) : Prop where
  outgoing_nodup : ∀ s cs, g.outgoing? s = some cs → cs.Nodup
  incoming_nodup : ∀ d cs, g.incoming? d = some cs → cs.Nodup

/-- Port by port, so that it can be looked up in the table of nodes. -/
theorem listsOnce_of_ports
    (h : ∀ e ∈ g.arena.entries, ∀ p ∈ e.2.inputs ++ e.2.outputs, p.connections.Nodup) : g.ListsOnce where
  outgoing_nodup := by
    intro s cs hcs
    obtain ⟨node, hn, hi⟩ := node?_of_outgoing? hcs
    obtain ⟨p, hp, rfl⟩ := Option.map_eq_some_iff.mp (List.getElem?_map.symm.trans hi)
    exact h _ (Table.mem_of_get? hn) p (List.mem_append_right _ (List.mem_of_getElem? hp))
  incoming_nodup := by
    intro d cs hcs
    obtain ⟨node, hn, hi⟩ := node?_of_incoming? hcs
    obtain ⟨p, hp, rfl⟩ := Option.map_eq_some_iff.mp (List.getElem?_map.symm.trans hi)
    exact h _ (Table.mem_of_get? hn) p (List.mem_append_left _ (List.mem_of_getElem? hp))

/-- No node has a fault: its ports list what has its end there, an input has one source, and a delay has its line. -/
structure Incident (g : Graph) : Prop where
  /-- An output lists connections that start there. -/
  outgoing : ∀ s cs c, g.outgoing? s = some cs → c ∈ cs → ∃ ends, g.connection? c = some ends ∧ ends.src = s
  /-- An input lists connections that end there. -/
  incoming : ∀ d cs c, g.incoming? d = some cs → c ∈ cs → ∃ ends, g.connection? c = some ends ∧ ends.dst = d
  /-- An input lists one connection at most. -/
  incoming_length : ∀ d cs, g.incoming? d = some cs → cs.length ≤ 1
  /-- Every delay read has a line to read. -/
  delays : g.DelaysLinked

/-- A connection is listed at the port where it starts and at the port where it ends. -/
def ListedAtEnds (g : Graph) (c : ConnectionId) (ends : Connection) : Prop :=
  (∃ cs, g.outgoing? ends.src = some cs ∧ c ∈ cs) ∧ ∃ cs, g.incoming? ends.dst = some cs ∧ c ∈ cs

/-- The nodes of a sequence have so many ports. -/
def Shaped (g : Graph) (ns : List NodeId) (inputs outputs : Nat) : Prop :=
  ∀ n ∈ ns, ∀ node, g.node? n = some node → node.inputs.length = inputs ∧ node.outputs.length = outputs

/-- A graph whose ports and sequences agree with its tables. -/
structure Examined (g : Graph) : Prop extends Incident g where
  /-- A connection is listed at both of its ends. -/
  listed : ∀ c ends, g.connection? c = some ends → g.ListedAtEnds c ends
  /-- Input terminals have one output. -/
  inPorts : g.Shaped g.inPorts 0 1
  /-- Output terminals have one input. -/
  outPorts : g.Shaped g.outPorts 1 0

/-- A graph without any fault. -/
structure Faultless (g : Graph) : Prop extends Examined g where
  /-- No signal runs in a circle. -/
  acyclic : g.Acyclic

theorem Examined.registered (h : g.Examined) (honce : g.ListsOnce) : g.Registered where
  src_listed := by
    intro c ends hc
    obtain ⟨⟨cs, hcs, -⟩, -⟩ := h.listed c ends hc
    exact ⟨cs, hcs⟩
  dst_listed := by
    intro c ends hc
    obtain ⟨-, cs, hcs, -⟩ := h.listed c ends hc
    exact ⟨cs, hcs⟩
  mem_outgoing := by
    intro s cs c hcs
    refine ⟨h.outgoing s cs c hcs, ?_⟩
    rintro ⟨ends, hc, rfl⟩
    obtain ⟨⟨cs', hcs', hmem⟩, -⟩ := h.listed c ends hc
    rw [hcs] at hcs'
    injection hcs' with heq
    exact heq ▸ hmem
  mem_incoming := by
    intro d cs c hcs
    refine ⟨h.incoming d cs c hcs, ?_⟩
    rintro ⟨ends, hc, rfl⟩
    obtain ⟨-, cs', hcs', hmem⟩ := h.listed c ends hc
    rw [hcs] at hcs'
    injection hcs' with heq
    exact heq ▸ hmem
  outgoing_nodup := honce.outgoing_nodup
  incoming_length := h.incoming_length

theorem Registered.listedAtEnds (h : g.Registered) {c : ConnectionId} {ends : Connection}
    (hc : g.connection? c = some ends) : g.ListedAtEnds c ends :=
  ⟨h.outgoing_of_src hc, h.incoming_of_dst hc⟩

theorem Registered.listsOnce (h : g.Registered) : g.ListsOnce where
  outgoing_nodup := h.outgoing_nodup
  incoming_nodup := by
    intro d cs hcs
    have hlen := h.incoming_length d cs hcs
    rcases cs with _ | ⟨c, _ | ⟨c', cs⟩⟩
    · exact List.nodup_nil
    · exact List.nodup_singleton c
    · simp at hlen

theorem Registered.incident (h : g.Registered) (hdelays : g.DelaysLinked) : g.Incident where
  outgoing s cs c hcs := (h.mem_outgoing s cs c hcs).mp
  incoming d cs c hcs := (h.mem_incoming d cs c hcs).mp
  incoming_length := h.incoming_length
  delays := hdelays

/-! ## Node by node -/

theorem findSome?_zipIdx_eq_none_iff {α β : Type} {l : List α} {f : α × Nat → Option β} :
    l.zipIdx.findSome? f = none ↔ ∀ i a, l[i]? = some a → f (a, i) = none := by
  rw [List.findSome?_eq_none_iff]
  constructor
  · intro h i a ha
    exact h (a, i) (List.mem_zipIdx_iff_getElem?.mpr ha)
  · intro h e he
    exact h e.2 e.1 (List.mem_zipIdx_iff_getElem?.mp he)

theorem ite_none_some_eq_none_iff {β : Type} {p : Prop} [Decidable p] {b : β} :
    (if p then none else some b) = none ↔ p := by
  split <;> simp_all

/-- A node has no fault if its ports and its delay link have none. -/
theorem nodeFault?_eq_none_iff {n : NodeId} {node : Node} : g.nodeFault? n node = none ↔
    (∀ i p, node.inputs[i]? = some p → p.connections.length ≤ 1
        ∧ ∀ c ∈ p.connections, ∃ ends, g.connection? c = some ends ∧ ends.dst = ⟨n, i⟩)
      ∧ (∀ i p, node.outputs[i]? = some p →
        ∀ c ∈ p.connections, ∃ ends, g.connection? c = some ends ∧ ends.src = ⟨n, i⟩)
      ∧ ∀ w, node.delay = some (.read w) → ∃ writer, g.node? w = some writer ∧ writer.isDelayWrite = true := by
  unfold nodeFault?
  dsimp only
  rw [Option.orElse_eq_none, Option.orElse_eq_none, findSome?_zipIdx_eq_none_iff, findSome?_zipIdx_eq_none_iff]
  refine and_congr ?_ (and_congr ?_ ?_)
  · refine forall₃_congr fun i p _ => ?_
    dsimp only
    split
    · rename_i hlen
      simp [Nat.not_le.mpr hlen]
    · rename_i hlen
      rw [List.findSome?_eq_none_iff]
      simp only [ite_none_some_eq_none_iff, Option.any_eq_true, decide_eq_true_eq, Nat.not_lt.mp hlen, true_and]
  · refine forall₃_congr fun i p _ => ?_
    rw [List.findSome?_eq_none_iff]
    simp only [ite_none_some_eq_none_iff, Option.any_eq_true, decide_eq_true_eq]
  · split
    · rename_i w hdelay
      simp [hdelay, Option.any_eq_true]
    · rename_i hother
      simp only [true_iff]
      intro w hdelay
      exact absurd hdelay (hother w)

theorem nodeFaults_eq_none_iff :
    (g.arena.entries.findSome? fun (n, node) => g.nodeFault? n node) = none ↔ g.Incident := by
  rw [List.findSome?_eq_none_iff]
  constructor
  · intro h
    have hnode : ∀ n node, g.node? n = some node → g.nodeFault? n node = none :=
      fun n node hn => h (n, node) (Table.mem_of_get? hn)
    refine ⟨?_, ?_, ?_, ?_⟩
    · intro s cs c hcs hc
      obtain ⟨node, hn, hi⟩ := node?_of_outgoing? hcs
      obtain ⟨p, hp, rfl⟩ := Option.map_eq_some_iff.mp (List.getElem?_map.symm.trans hi)
      exact (nodeFault?_eq_none_iff.mp (hnode _ node hn)).2.1 s.index p hp c hc
    · intro d cs c hcs hc
      obtain ⟨node, hn, hi⟩ := node?_of_incoming? hcs
      obtain ⟨p, hp, rfl⟩ := Option.map_eq_some_iff.mp (List.getElem?_map.symm.trans hi)
      exact ((nodeFault?_eq_none_iff.mp (hnode _ node hn)).1 d.index p hp).2 c hc
    · intro d cs hcs
      obtain ⟨node, hn, hi⟩ := node?_of_incoming? hcs
      obtain ⟨p, hp, rfl⟩ := Option.map_eq_some_iff.mp (List.getElem?_map.symm.trans hi)
      exact ((nodeFault?_eq_none_iff.mp (hnode _ node hn)).1 d.index p hp).1
    · intro n node w hn hdelay
      exact (nodeFault?_eq_none_iff.mp (hnode n node hn)).2.2 w hdelay
  · intro h e he
    have hn : g.node? e.1 = some e.2 := Table.get?_of_mem he
    refine nodeFault?_eq_none_iff.mpr ⟨?_, ?_, fun w => h.delays e.1 e.2 w hn⟩
    · intro i p hp
      have hport : g.incoming? ⟨e.1, i⟩ = some p.connections := by
        rw [incoming?_of_node? hn]
        exact List.getElem?_map.trans (congrArg (Option.map Port.connections) hp)
      exact ⟨h.incoming_length _ _ hport, fun c => h.incoming _ _ c hport⟩
    · intro i p hp
      have hport : g.outgoing? ⟨e.1, i⟩ = some p.connections := by
        rw [outgoing?_of_node? hn]
        exact List.getElem?_map.trans (congrArg (Option.map Port.connections) hp)
      exact fun c => h.outgoing _ _ c hport

/-! ## Registrations -/

/-- The connections that ports of one direction list, once for each listing. -/
def listings (g : Graph) (ports : Node → List Port) : List ConnectionId :=
  g.arena.values.flatMap fun node => (ports node).flatMap Port.connections

theorem registrations_perm : g.registrations.Perm (g.listings Node.inputs ++ g.listings Node.outputs) := by
  unfold registrations listings
  simp only [List.flatMap_append]
  exact (List.flatMap_append_perm _ _ _).symm

theorem mem_listings {ports : Node → List Port} {c : ConnectionId} :
    c ∈ g.listings ports ↔ ∃ n node, g.node? n = some node ∧ c ∈ (ports node).flatMap Port.connections := by
  unfold listings
  rw [List.mem_flatMap]
  constructor
  · rintro ⟨node, hnode, hc⟩
    obtain ⟨n, hn⟩ := Table.mem_values_iff.mp hnode
    exact ⟨n, node, hn, hc⟩
  · rintro ⟨n, node, hn, hc⟩
    exact ⟨node, Table.mem_values_iff.mpr ⟨n, hn⟩, hc⟩

/--
Ports that list what has its end there list a connection once, all nodes taken together: at two ports it would have two
ends.
-/
theorem nodup_listings (ports : Node → List Port) (place : Connection → NodeId × Nat)
    (hnodup : ∀ n node (i : Nat) cs, g.node? n = some node → ((ports node).map Port.connections)[i]? = some cs →
      cs.Nodup)
    (hplace : ∀ n node (i : Nat) cs c, g.node? n = some node → ((ports node).map Port.connections)[i]? = some cs →
      c ∈ cs → (g.connection? c).map place = some (n, i)) : (g.listings ports).Nodup := by
  have hview : g.listings ports = g.arena.entries.flatMap fun e => (ports e.2).flatMap Port.connections :=
    List.flatMap_map _ _ _
  rw [hview]
  refine List.nodup_flatMap.mpr ⟨?_, ?_⟩
  · intro e he
    have hn : g.node? e.1 = some e.2 := Table.get?_of_mem he
    refine nodup_flatMap_ports (fun c => (g.connection? c).map fun ends => (place ends).2)
      (fun i cs => hnodup _ _ i cs hn) ?_
    intro i cs c hcs hc
    have hat := congrArg (Option.map Prod.snd) (hplace _ _ i cs c hn hcs hc)
    rwa [Option.map_map] at hat
  · have hkeys : g.arena.entries.Pairwise fun e e' => e.1 ≠ e'.1 := List.pairwise_map.mp g.arena.nodup
    refine hkeys.imp_of_mem ?_
    intro e e' he he' hne c hc hc'
    obtain ⟨i, cs, hcs, hmem⟩ := mem_flatMap_ports.mp hc
    obtain ⟨j, cs', hcs', hmem'⟩ := mem_flatMap_ports.mp hc'
    have hat := hplace _ _ i cs c (Table.get?_of_mem he) hcs hmem
    rw [hplace _ _ j cs' c (Table.get?_of_mem he') hcs' hmem'] at hat
    injection hat with hat
    injection hat with hfirst
    exact hne hfirst.symm

theorem Incident.nodup_inputs (h : g.Incident) (honce : g.ListsOnce) : (g.listings Node.inputs).Nodup := by
  refine nodup_listings Node.inputs (fun ends => (ends.dst.node, ends.dst.index)) ?_ ?_
  · intro n node i cs hn hcs
    exact honce.incoming_nodup ⟨n, i⟩ cs ((incoming?_of_node? hn i).trans hcs)
  · intro n node i cs c hn hcs hc
    obtain ⟨ends, hends, hdst⟩ := h.incoming ⟨n, i⟩ cs c ((incoming?_of_node? hn i).trans hcs) hc
    rw [hends, Option.map_some, hdst]

theorem Incident.nodup_outputs (h : g.Incident) (honce : g.ListsOnce) : (g.listings Node.outputs).Nodup := by
  refine nodup_listings Node.outputs (fun ends => (ends.src.node, ends.src.index)) ?_ ?_
  · intro n node i cs hn hcs
    exact honce.outgoing_nodup ⟨n, i⟩ cs ((outgoing?_of_node? hn i).trans hcs)
  · intro n node i cs c hn hcs hc
    obtain ⟨ends, hends, hsrc⟩ := h.outgoing ⟨n, i⟩ cs c ((outgoing?_of_node? hn i).trans hcs) hc
    rw [hends, Option.map_some, hsrc]

/-- What an output lists somewhere is listed where it starts. -/
theorem Incident.mem_outputs (h : g.Incident) {c : ConnectionId} {ends : Connection}
    (hc : g.connection? c = some ends) :
    c ∈ g.listings Node.outputs ↔ ∃ cs, g.outgoing? ends.src = some cs ∧ c ∈ cs := by
  rw [mem_listings]
  constructor
  · rintro ⟨n, node, hn, hmem⟩
    obtain ⟨i, cs, hcs, hmem⟩ := mem_flatMap_ports.mp hmem
    have hport : g.outgoing? ⟨n, i⟩ = some cs := (outgoing?_of_node? hn i).trans hcs
    obtain ⟨ends', hends', hsrc⟩ := h.outgoing _ cs c hport hmem
    rw [hc] at hends'
    injection hends' with heq
    exact ⟨cs, by rw [heq, hsrc, hport], hmem⟩
  · rintro ⟨cs, hcs, hmem⟩
    obtain ⟨node, hn, hi⟩ := node?_of_outgoing? hcs
    exact ⟨_, node, hn, mem_flatMap_ports.mpr ⟨_, cs, hi, hmem⟩⟩

/-- What an input lists somewhere is listed where it ends. -/
theorem Incident.mem_inputs (h : g.Incident) {c : ConnectionId} {ends : Connection}
    (hc : g.connection? c = some ends) :
    c ∈ g.listings Node.inputs ↔ ∃ cs, g.incoming? ends.dst = some cs ∧ c ∈ cs := by
  rw [mem_listings]
  constructor
  · rintro ⟨n, node, hn, hmem⟩
    obtain ⟨i, cs, hcs, hmem⟩ := mem_flatMap_ports.mp hmem
    have hport : g.incoming? ⟨n, i⟩ = some cs := (incoming?_of_node? hn i).trans hcs
    obtain ⟨ends', hends', hdst⟩ := h.incoming _ cs c hport hmem
    rw [hc] at hends'
    injection hends' with heq
    exact ⟨cs, by rw [heq, hdst, hport], hmem⟩
  · rintro ⟨cs, hcs, hmem⟩
    obtain ⟨node, hn, hi⟩ := node?_of_incoming? hcs
    exact ⟨_, node, hn, mem_flatMap_ports.mpr ⟨_, cs, hi, hmem⟩⟩

/-- Counting the listings is enough: each end lists a connection once at most, and no other port does. -/
theorem Incident.count_registrations (h : g.Incident) (honce : g.ListsOnce) {c : ConnectionId} {ends : Connection}
    (hc : g.connection? c = some ends) : g.registrations.count c = 2 ↔ g.ListedAtEnds c ends := by
  have hin := List.nodup_iff_count_le_one.mp (h.nodup_inputs honce) c
  have hout := List.nodup_iff_count_le_one.mp (h.nodup_outputs honce) c
  have hboth : g.registrations.count c = (g.listings Node.inputs).count c + (g.listings Node.outputs).count c := by
    rw [registrations_perm.count_eq, List.count_append]
  calc g.registrations.count c = 2
      ↔ 0 < (g.listings Node.outputs).count c ∧ 0 < (g.listings Node.inputs).count c := by omega
    _ ↔ c ∈ g.listings Node.outputs ∧ c ∈ g.listings Node.inputs := by rw [List.count_pos_iff, List.count_pos_iff]
    _ ↔ g.ListedAtEnds c ends := by rw [h.mem_outputs hc, h.mem_inputs hc, ListedAtEnds]

/-! ## The moments of the visit -/

/--
The moments of a visit, each with the signals that are still to be counted off. Nodes may be ready in any order, so any
of them may be taken next.
-/
inductive Moment (g : Graph) : Visit → List NodeId → Prop where
  | start : Moment g g.startVisit []
  | take {v : Visit} {s : NodeId} {ready : List NodeId} (h : Moment g v []) (hready : v.ready.Perm (s :: ready)) :
      Moment g { v with ready, visited := v.visited + 1 } (g.successors s)
  | release {v : Visit} {n : NodeId} {pending : List NodeId} (h : Moment g v (n :: pending)) :
      Moment g (v.release n) pending

variable {v : Visit} {done pending : List NodeId}

theorem Moment.foldl_release (taken : List NodeId) (h : g.Moment v (taken ++ pending)) :
    g.Moment (taken.foldl Visit.release v) pending := by
  induction taken generalizing v with
  | nil => exact h
  | cons n taken ih => exact ih h.release

/-- The visit goes through such moments. -/
theorem Moment.run (fuel : Nat) (h : g.Moment v []) : g.Moment (v.run g.successors fuel) [] := by
  induction fuel generalizing v with
  | zero => exact h
  | succ fuel ih =>
      unfold Visit.run
      split
      · exact h
      · rename_i s ready hs
        have hnext := h.take (.of_eq hs)
        rw [← List.append_nil (g.successors s)] at hnext
        exact ih (hnext.foldl_release (g.successors s))

/-- The visit between two nodes: what it has counted, and that no way leads from a circle to what it has visited. -/
structure Grounded (g : Graph) (v : Visit) (done : List NodeId) : Prop extends Visiting g v done where
  accessible : ∀ n ∈ done, Acc g.Feeds n

/-- The visit amid the signals of a node: some are taken, and the others are pending. -/
def Amid (g : Graph) (v : Visit) (pending : List NodeId) : Prop :=
  ∃ w done s ready taken, g.Grounded w done ∧ w.ready = s :: ready ∧ g.successors s = taken ++ pending
    ∧ v = taken.foldl Visit.release { w with ready, visited := w.visited + 1 }

/-- The order of the ready nodes does not matter. -/
theorem Grounded.reorder {ready : List NodeId} (hv : g.Grounded v done) (hperm : v.ready.Perm ready) :
    g.Grounded { v with ready } done where
  visited := hv.visited
  nodup := hv.nodup
  present := hv.present
  closed := hv.closed
  waiting := hv.waiting
  ready n := (hperm.count_eq n).symm.trans (hv.ready n)
  accessible := hv.accessible

/-- With all signals counted off, the node is visited like its predecessors. -/
theorem Amid.grounded (h : g.Registered) (hv : g.Amid v []) : ∃ done, g.Grounded v done := by
  obtain ⟨w, done, s, ready, taken, hw, hs, htaken, rfl⟩ := hv
  rw [List.append_nil] at htaken
  obtain ⟨-, -, hpred, -⟩ := hw.top hs
  refine ⟨s :: done, htaken ▸ hw.visit h hs, ?_⟩
  intro n hn
  rcases List.mem_cons.mp hn with rfl | hn
  · exact .intro n fun p hfeeds => hw.accessible p (hpred p (h.mem_predecessors.mpr hfeeds))
  · exact hw.accessible n hn

theorem Moment.grounded_or_amid (h : g.Registered) (hm : g.Moment v pending) :
    (pending = [] ∧ ∃ done, g.Grounded v done) ∨ g.Amid v pending := by
  induction hm with
  | start => exact Or.inl ⟨rfl, [], visiting_startVisit g, by simp⟩
  | @take v s ready _ hready ih =>
      have hground : ∃ done, g.Grounded v done := by
        rcases ih with ⟨-, hground⟩ | hamid
        · exact hground
        · exact hamid.grounded h
      obtain ⟨done, hv⟩ := hground
      exact Or.inr ⟨_, done, s, ready, [], hv.reorder hready, rfl, rfl, rfl⟩
  | @release v n pending _ ih =>
      rcases ih with ⟨hnil, -⟩ | ⟨w, done, s, ready, taken, hw, hs, htaken, rfl⟩
      · exact absurd hnil (List.cons_ne_nil _ _)
      · refine Or.inr ⟨w, done, s, ready, taken ++ [n], hw, hs, ?_, ?_⟩
        · rw [htaken, List.append_assoc, List.singleton_append]
        · rw [List.foldl_append, List.foldl_cons, List.foldl_nil]

theorem Moment.grounded (h : g.Registered) (hm : g.Moment v []) : ∃ done, g.Grounded v done := by
  rcases hm.grounded_or_amid h with ⟨-, hground⟩ | hamid
  · exact hground
  · exact hamid.grounded h

/-- No count is taken below zero, not even in between. -/
theorem Moment.waiting_nonneg (h : g.Registered) (hm : g.Moment v pending) {n : NodeId} {d : Int}
    (hd : v.waiting.get? n = some d) : 0 ≤ d := by
  rcases hm.grounded_or_amid h with ⟨-, done, hv⟩ | ⟨w, done, s, ready, taken, hw, hs, htaken, rfl⟩
  · rw [hv.waiting] at hd
    split at hd
    · injection hd with hd
      omega
    · exact absurd hd (by simp)
  · have hle : ∀ m e, w.waiting.get? m = some e → (taken.count m : Int) ≤ e := by
      intro m e he
      have hall := hw.count_le h hs m e he
      rw [htaken, List.count_append] at hall
      omega
    obtain ⟨-, hwaiting, -⟩ := Visit.foldl_release taken { w with ready, visited := w.visited + 1 } hle
    rw [hwaiting] at hd
    obtain ⟨e, he, rfl⟩ := Option.map_eq_some_iff.mp hd
    have hnow := hle n e he
    omega

/-- When nothing is ready any more, the number of visits tells whether a signal runs in a circle. -/
theorem Moment.visited_eq_size_iff (h : g.Registered) (hm : g.Moment v []) (hnil : v.ready = []) :
    v.visited = g.arena.size ↔ g.Acyclic := by
  obtain ⟨done, hv⟩ := hm.grounded h
  rw [hv.toVisiting.visited_eq_size_iff]
  constructor
  · intro hall n hcircle
    have hwf : WellFounded g.Feeds := by
      refine ⟨fun m => .intro m fun p hfeeds => hv.accessible p ?_⟩
      obtain ⟨node, hnode⟩ := h.feeds_src_present hfeeds
      exact hall p (Table.mem_keys_iff.mpr ⟨node, hnode⟩)
    exact hwf.transGen.asymmetric n n hcircle hcircle
  · intro hacyclic
    exact hv.complete h hacyclic hnil

/-! ## The whole check -/

/-- Every connection is counted twice if every connection is listed at both of its ends. -/
theorem Incident.unregistered_eq_none_iff (h : g.Incident) (honce : g.ListsOnce) :
    ((g.connections.keys.find? fun c => g.registrations.count c ≠ 2).map InvariantFault.unregistered) = none ↔
      ∀ c ends, g.connection? c = some ends → g.ListedAtEnds c ends := by
  rw [Option.map_eq_none_iff, List.find?_eq_none]
  constructor
  · intro hall c ends hc
    have hcount := hall c (Table.mem_keys_iff.mpr ⟨ends, hc⟩)
    rw [decide_eq_true_eq, not_not] at hcount
    exact (h.count_registrations honce hc).mp hcount
  · intro hall c hc
    obtain ⟨ends, hends⟩ := Table.mem_keys_iff.mp hc
    rw [decide_eq_true_eq, not_not]
    exact (h.count_registrations honce hends).mpr (hall c ends hends)

theorem shapeFaults_eq_none_iff {ns : List NodeId} (hns : ∀ n ∈ ns, ∃ node, g.node? n = some node)
    (fault : NodeId → InvariantFault) (inputs outputs : Nat) :
    (ns.findSome? fun n =>
      if (g.node? n).any fun node => node.inputs.length = inputs ∧ node.outputs.length = outputs then none
      else some (fault n)) = none ↔ g.Shaped ns inputs outputs := by
  rw [List.findSome?_eq_none_iff]
  refine forall₂_congr fun n hn => ?_
  obtain ⟨node, hnode⟩ := hns n hn
  rw [ite_none_some_eq_none_iff, hnode]
  simp

theorem findSome?_ne_some {α β : Type} {l : List α} {f : α → Option β} {b : β} (h : ∀ a ∈ l, f a ≠ some b) :
    l.findSome? f ≠ some b := by
  intro hfound
  obtain ⟨a, ha, hb⟩ := List.exists_of_findSome?_eq_some hfound
  exact h a ha hb

/-- The faults of a node are its own. -/
theorem nodeFault?_ne_cycle (n : NodeId) (node : Node) : g.nodeFault? n node ≠ some .cycle := by
  have hor : ∀ {a b : Option InvariantFault}, a ≠ some .cycle → b ≠ some .cycle → (a <|> b) ≠ some .cycle := by
    intro a b ha hb
    cases a with
    | none => exact hb
    | some fault => exact ha
  unfold nodeFault?
  refine hor (findSome?_ne_some fun e _ => ?_) (hor (findSome?_ne_some fun e _ => findSome?_ne_some fun c _ => ?_) ?_)
  · split
    · simp
    · refine findSome?_ne_some fun c _ => ?_
      split <;> simp
  · split <;> simp
  · split
    · split <;> simp
    · simp

/-- The visit decides what the other parts of the check leave open. -/
theorem Examined.fault?_eq (h : g.Examined) (honce : g.ListsOnce)
    (hseq : ∀ n ∈ g.allNodes, ∃ node, g.node? n = some node) :
    g.fault? = if g.visitAll.visited = g.arena.size then none else some .cycle := by
  have hin : ∀ n ∈ g.inPorts, ∃ node, g.node? n = some node :=
    fun n hn => hseq n (List.mem_append_left _ (List.mem_append_left _ hn))
  have hout : ∀ n ∈ g.outPorts, ∃ node, g.node? n = some node := fun n hn => hseq n (List.mem_append_right _ hn)
  unfold fault?
  dsimp only
  rw [nodeFaults_eq_none_iff.mpr h.toIncident, (h.unregistered_eq_none_iff honce).mpr h.listed,
    (shapeFaults_eq_none_iff hin .inputTerminalShape 0 1).mpr h.inPorts,
    (shapeFaults_eq_none_iff hout .outputTerminalShape 1 0).mpr h.outPorts]
  rfl

/-- The check visits the graph only when it has found nothing else. -/
theorem examined_of_fault? (honce : g.ListsOnce) (hseq : ∀ n ∈ g.allNodes, ∃ node, g.node? n = some node)
    (hfault : g.fault? = none ∨ g.fault? = some .cycle) : g.Examined := by
  have hin : ∀ n ∈ g.inPorts, ∃ node, g.node? n = some node :=
    fun n hn => hseq n (List.mem_append_left _ (List.mem_append_left _ hn))
  have hout : ∀ n ∈ g.outPorts, ∃ node, g.node? n = some node := fun n hn => hseq n (List.mem_append_right _ hn)
  have hlate : ∀ {a b : Option InvariantFault}, a ≠ some .cycle → (a <|> b) = none ∨ (a <|> b) = some .cycle →
      a = none ∧ (b = none ∨ b = some .cycle) := by
    intro a b ha hab
    cases a with
    | none => exact ⟨rfl, hab⟩
    | some fault =>
        rcases hab with hab | hab
        · exact absurd hab (by simp)
        · exact absurd hab ha
  unfold fault? at hfault
  dsimp only at hfault
  obtain ⟨hnodes, hfault⟩ := hlate (findSome?_ne_some fun e _ => nodeFault?_ne_cycle e.1 e.2) hfault
  obtain ⟨hregistered, hfault⟩ := hlate (by simp) hfault
  obtain ⟨hinputs, hfault⟩ := hlate (findSome?_ne_some fun n _ => by split <;> simp) hfault
  obtain ⟨houtputs, -⟩ := hlate (findSome?_ne_some fun n _ => by split <;> simp) hfault
  have hincident := nodeFaults_eq_none_iff.mp hnodes
  exact ⟨hincident, (hincident.unregistered_eq_none_iff honce).mp hregistered,
    (shapeFaults_eq_none_iff hin .inputTerminalShape 0 1).mp hinputs,
    (shapeFaults_eq_none_iff hout .outputTerminalShape 1 0).mp houtputs⟩

theorem moment_visitAll (h : g.Registered) : g.Moment g.visitAll [] ∧ g.visitAll.ready = [] := by
  obtain ⟨-, -, hnil⟩ := exists_visitAll h
  exact ⟨Moment.start.run g.arena.size, hnil⟩

theorem fault?_eq_none_iff (honce : g.ListsOnce) (hseq : ∀ n ∈ g.allNodes, ∃ node, g.node? n = some node) :
    g.fault? = none ↔ g.Faultless := by
  have hvisit : g.Examined → (g.visitAll.visited = g.arena.size ↔ g.Acyclic) := by
    intro h
    obtain ⟨hmoment, hnil⟩ := moment_visitAll (h.registered honce)
    exact hmoment.visited_eq_size_iff (h.registered honce) hnil
  constructor
  · intro hnone
    have h := examined_of_fault? honce hseq (Or.inl hnone)
    rw [h.fault?_eq honce hseq, ite_none_some_eq_none_iff] at hnone
    exact ⟨h, (hvisit h).mp hnone⟩
  · intro h
    rw [h.toExamined.fault?_eq honce hseq, ite_none_some_eq_none_iff]
    exact (hvisit h.toExamined).mpr h.acyclic

theorem checkInvariants_eq_ok_iff : g.checkInvariants = .ok () ↔ g.fault? = none := by
  unfold checkInvariants
  split
  · rename_i h
    simp [h]
  · rename_i fault h
    simp [h]

theorem checkInvariants_eq_error_iff {fault : InvariantFault} :
    g.checkInvariants = .error (.invariant fault) ↔ g.fault? = some fault := by
  unfold checkInvariants
  split
  · rename_i h
    simp [h]
  · rename_i fault' h
    simp [h]

/--
**The check decides whether a graph has a fault.** This holds of every graph, also of one that no edits have built, if
its sequences list nodes of the graph only and no port lists a connection twice.

If the check comes to the visit, then at no moment of the visit is a count below zero, in whatever order nodes are taken
that are ready; and when none is left, all nodes were visited if and only if no signal runs in a circle. The visit of
the model goes through such moments, to the last one.
-/
theorem check_decides_faultless (g : Graph) (hseq : ∀ n ∈ g.allNodes, ∃ node, g.node? n = some node)
    (honce : g.ListsOnce) :
    (g.checkInvariants = .ok () ↔ g.Faultless)
      ∧ (g.checkInvariants = .ok () ∨ g.checkInvariants = .error (.invariant .cycle) →
        (∀ v pending, g.Moment v pending → ∀ n d, v.waiting.get? n = some d → 0 ≤ d)
          ∧ (∀ v, g.Moment v [] → v.ready = [] → (v.visited = g.arena.size ↔ g.Acyclic))
          ∧ (∀ fuel, g.Moment (g.startVisit.run g.successors fuel) [])
          ∧ g.visitAll.ready = []) := by
  refine ⟨checkInvariants_eq_ok_iff.trans (fault?_eq_none_iff honce hseq), ?_⟩
  rw [checkInvariants_eq_ok_iff, checkInvariants_eq_error_iff]
  intro hlate
  have h := (examined_of_fault? honce hseq hlate).registered honce
  refine ⟨?_, ?_, ?_, (moment_visitAll h).2⟩
  · intro v pending hm n d hd
    exact hm.waiting_nonneg h hd
  · intro v hm hnil
    exact hm.visited_eq_size_iff h hnil
  · intro fuel
    exact Moment.start.run fuel

/-- Two nodes that feed each other, as no edits connect them. -/
def circle : Graph where
  name := "circle"
  arena := .ofList [
    (⟨0⟩, { origin := ⟨"", "+"⟩, inputs := [⟨"", [⟨1⟩]⟩, ⟨"", []⟩], outputs := [⟨"", [⟨0⟩]⟩] }),
    (⟨1⟩, { origin := ⟨"", "+"⟩, inputs := [⟨"", [⟨0⟩]⟩, ⟨"", []⟩], outputs := [⟨"", [⟨1⟩]⟩] })]
  inPorts := []
  body := [⟨0⟩, ⟨1⟩]
  outPorts := []
  connections := .ofList [(⟨0⟩, ⟨⟨⟨0⟩, 0⟩, ⟨⟨1⟩, 0⟩⟩), (⟨1⟩, ⟨⟨⟨1⟩, 0⟩, ⟨⟨0⟩, 0⟩⟩)]
  nextNode := 2
  nextConnection := 2

/-- A circle passes every part of the check but the visit, which does not take a count below zero. -/
theorem circle_visited : (∀ n ∈ circle.allNodes, ∃ node, circle.node? n = some node) ∧ circle.ListsOnce
    ∧ ¬circle.Faultless ∧ circle.checkInvariants = .error (.invariant .cycle)
    ∧ ∀ v pending, circle.Moment v pending → ∀ n d, v.waiting.get? n = some d → 0 ≤ d := by
  have hseq : ∀ n ∈ circle.allNodes, ∃ node, circle.node? n = some node := by
    have hsome : ∀ n ∈ circle.allNodes, (circle.node? n).isSome = true := by decide
    exact fun n hn => Option.isSome_iff_exists.mp (hsome n hn)
  have honce : circle.ListsOnce := listsOnce_of_ports (by decide)
  have hcycle : circle.checkInvariants = .error (.invariant .cycle) := by
    rw [checkInvariants_eq_error_iff]
    decide
  obtain ⟨hiff, hvisit⟩ := check_decides_faultless circle hseq honce
  refine ⟨hseq, honce, fun hfaultless => ?_, hcycle, (hvisit (Or.inr hcycle)).1⟩
  have hok := hiff.mpr hfaultless
  rw [hcycle] at hok
  exact absurd hok (by simp)

end Graph

end SignalGraph
