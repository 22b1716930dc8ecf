import SignalGraph.Proofs.Arrangement.Counting
import SignalGraph.Proofs.Graph.Identity
import SignalGraph.Proofs.Layering.Placing
import SignalGraph.Proofs.Record.Rebuilt
import SignalGraph.Proofs.Record.Text

/-!
# Counting the crossings of an arrangement that was kept

An arrangement can be kept while its graph is edited. It knows its routes by the numbers of their connections, and
the crossings are counted for the connections that the graph has now. That goes well as long as a number means the
same connection: a route has as many placeholders as there are layers between the ends of its own connection, and
edits never give a number twice.

Reading the graph from its file gives all numbers anew. Then a route may be taken for one of another connection,
which starts in a higher layer, and lead beyond the last layer: there is no number of crossings any more
(`reading_misleads_routes`). A new arrangement mends that.
-/

namespace SignalGraph

/-! ## Where routes lead -/

/-- Every layer that is recorded for a node is one of the layers. -/
def Layering.Consistent (l : Layering) : Prop := ∀ n i, l.layerOf? n = some i → i < l.size

theorem Graph.assignLayers_consistent (g : Graph) : g.assignLayers.Consistent := by
  unfold Layering.Consistent Layering.layerOf? Layering.size assignLayers
  split
  · intro n i hn
    exact absurd hn (by simp)
  · intro n i hn
    dsimp only at hn ⊢
    rw [Table.get?_mapValues] at hn
    obtain ⟨rank, hrank, rfl⟩ := Option.map_eq_some_iff.mp hn
    unfold orderLayers
    rw [Surroundings.sortLayers_length, List.length_map, List.length_range]
    exact List.idxOf_lt_length_of_mem (mem_usedRanks.mpr (Table.mem_values_iff.mpr ⟨n, hrank⟩))

namespace Arrangement

/-- A route belongs to a connection of the graph, and notes the ports that it joins. -/
theorem connection?_of_route {g : Graph} {l : Layering} {c : ConnectionId} {r : Route}
    (h : (ofLayering g l).routes.get? c = some r) : g.connection? c = some ⟨r.src, r.dst⟩ := by
  refine List.foldlRecOn
    (motive := fun a : Arrangement => ∀ c r, a.routes.get? c = some r → g.connection? c = some ⟨r.src, r.dst⟩)
    g.connections.entries (fun a (e : ConnectionId × Connection) => a.route e.1 e.2) ?_ ?_ c r h
  · intro c r hr
    exact absurd hr (by simp)
  · intro a ha e he c r hr
    unfold route at hr
    split at hr
    · split at hr
      · exact ha c r hr
      · dsimp only at hr
        rw [Table.get?_set] at hr
        split at hr
        · rename_i hsame
          injection hr with hr
          subst hsame hr
          exact Table.mem_entries_iff.mp he
        · exact ha c r hr
    · exact ha c r hr

/-- All nodes and routes lie within the layers. -/
structure Inside (a : Arrangement) : Prop where
  nodes : ∀ n i, a.nodeLayers.get? n = some i → i < a.layers.length
  /-- The placeholders of a route lie behind the layer where it starts, in front of the last one. -/
  routes : ∀ c r, a.routes.get? c = some r →
    ∃ low, a.nodeLayers.get? r.src.node = some low ∧ low + r.via.length < a.layers.length

/-- The routes are those of the connections with their numbers, as far as the graph has these. -/
structure Follows (a : Arrangement) (g : Graph) : Prop where
  number_lt : ∀ c r, a.routes.get? c = some r → c.val < g.nextConnection
  ends_eq : ∀ c r ends, a.routes.get? c = some r → g.connection? c = some ends → ends = ⟨r.src, r.dst⟩

section Follows

variable {a : Arrangement} {g g' : Graph}

theorem inside_arrangeLayers (g : Graph) {l : Layering} (hl : l.Consistent) (config : ArrangeConfig) :
    (arrangeLayers g l config).Inside := by
  have hrouted := routed_ofLayering g l
  have hlen : (arrangeLayers g l config).layers.length = l.size :=
    (arrangeLayers_perm g l config).length_eq.trans hrouted.slots.length_eq
  refine ⟨?_, ?_⟩
  · intro n i hn
    rw [hlen]
    exact hl n i ((congrArg (Table.get? · n) hrouted.nodeLayers).symm.trans hn)
  · intro c r hr
    obtain ⟨ends, low, high, hends, hlow, hhigh, hvia⟩ := hrouted.routes c r hr
    obtain rfl : ends = ⟨r.src, r.dst⟩ := Option.some.inj (hends.symm.trans (connection?_of_route hr))
    have hlt := hl _ high hhigh
    refine ⟨low, ?_, by omega⟩
    exact (congrArg (Table.get? · r.src.node) hrouted.nodeLayers).trans hlow

theorem follows_arrangeLayers (hg : g.Numbered) (l : Layering) (config : ArrangeConfig) :
    (arrangeLayers g l config).Follows g where
  number_lt := fun c _ hr => hg.connection_lt c _ (connection?_of_route hr)
  ends_eq := by
    intro c r ends hr hc
    exact Option.some.inj (hc.symm.trans (connection?_of_route hr))

theorem Follows.ages {es : List Edit} (h : a.Follows g) (hages : g.Ages es g') : a.Follows g' where
  number_lt := fun c r hr => UInt32.lt_of_lt_of_le (h.number_lt c r hr) hages.nextConnection
  ends_eq := by
    intro c r ends hr hc
    exact h.ends_eq c r ends hr (hages.connection_of_lt (h.number_lt c r hr) hc)

/-- The crossings cannot be counted if a route is taken for a connection from another node, too high for it. -/
theorem Inside.countCrossings?_eq_none_iff (h : a.Inside) : a.countCrossings? g = none ↔
    ∃ c r ends start, a.routes.get? c = some r ∧ g.connection? c = some ends ∧ ends.src.node ≠ r.src.node
      ∧ a.nodeLayers.get? ends.src.node = some start ∧ a.layers.length ≤ start + r.via.length := by
  have hnone : a.countCrossings? g = none ↔ ∃ e ∈ g.connections.entries, a.fits e.1 e.2 = false := by
    unfold countCrossings?
    rw [ite_eq_right_iff]
    simp
  rw [hnone]
  constructor
  · rintro ⟨⟨c, ends⟩, he, hfits⟩
    unfold fits at hfits
    split at hfits
    · rename_i start r hstart hr
      rw [Bool.or_eq_false_iff, decide_eq_false_iff_not, Nat.not_lt] at hfits
      refine ⟨c, r, ends, start, hr, Table.mem_entries_iff.mp he, ?_, hstart, hfits.2⟩
      -- from the node that it was made for, the route stays within the layers
      intro hsame
      obtain ⟨low, hlow, hlt⟩ := h.routes c r hr
      rw [← hsame, hstart] at hlow
      injection hlow with hlow
      omega
    · exact absurd hfits (by simp)
  · rintro ⟨c, r, ends, start, hr, hc, -, hstart, hle⟩
    refine ⟨(c, ends), Table.mem_entries_iff.mpr hc, ?_⟩
    have hlt := h.nodes _ start hstart
    -- without placeholders it would lead no further than the layer of the node
    have hvia : r.via ≠ [] := by
      intro hnil
      rw [hnil, List.length_nil] at hle
      omega
    unfold fits
    dsimp only
    rw [hstart, hr]
    dsimp only
    rw [Bool.or_eq_false_iff, List.isEmpty_eq_false_iff, decide_eq_false_iff_not]
    exact ⟨hvia, Nat.not_lt.mpr hle⟩

theorem Inside.exists_countCrossings? (h : a.Inside) (hfollows : a.Follows g) :
    ∃ k, a.countCrossings? g = some k := by
  refine Option.ne_none_iff_exists'.mp fun hnone => ?_
  obtain ⟨c, r, ends, -, hr, hc, hne, -⟩ := h.countCrossings?_eq_none_iff.mp hnone
  exact hne (by rw [hfollows.ends_eq c r ends hr hc])

end Follows

end Arrangement

/-! ## Sessions -/

/-- A graph, and the arrangement that was made last. -/
structure Session where
  graph : Graph
  arrangement : Arrangement := {}

namespace Session

/-- What can be done in a session. -/
inductive Step where
  | edit (e : Edit)
  /-- Give the graph another name. -/
  | retitle (name : String)
  /-- Arrange the graph, and keep the arrangement. -/
  | arrange (config : ArrangeConfig)
  /-- The same with given layers. -/
  | arrangeLayers (l : Layering) (config : ArrangeConfig)
  /-- Write the graph, and go on with what is read back. -/
  | reload
  /-- The same with the graph as text. -/
  | reloadText

namespace Step

/-- An arrangement is kept. -/
def Stores : Step → Prop
  | arrange _ | arrangeLayers .. => True
  | _ => False

/-- The graph is read. -/
def Reads : Step → Prop
  | reload | reloadText => True
  | _ => False

/-- Wherever the graph is read, an arrangement is made later. -/
def Refreshed : List Step → Prop
  | [] => True
  | step :: steps => (step.Reads → ∃ later ∈ steps, later.Stores) ∧ Refreshed steps

/--
An edit adds no node with connections, and there is a number for what it makes. A layering has the layers that it
records, and the graph has room in its file.
-/
def Sound (s : Session) : Step → Prop
  | edit e => e.Clean ∧ s.graph.RoomForOne (s.graph.perform e).1
  | arrangeLayers l _ => l.Consistent
  | reload => s.graph.Fits
  | _ => True

end Step

/-- A session with an empty graph. -/
def new (name : String) : Session where
  graph := .empty name

/-- Go on with a graph, if it could be read. -/
def replace (s : Session) : Except ReadError Graph → Session
  | .ok g => { s with graph := g }
  | .error _ => s

section Run

variable (resolve : Origin → Option Capability)

def perform (s : Session) : Step → Session
  | .edit e => { s with graph := (s.graph.perform e).2 }
  | .retitle name => { s with graph := { s.graph with name } }
  | .arrange config => { s with arrangement := s.graph.arrange config }
  | .arrangeLayers l config => { s with arrangement := SignalGraph.arrangeLayers s.graph l config }
  | .reload => s.replace (Graph.decode s.graph.encode resolve)
  | .reloadText => s.replace (Graph.parseRecord s.graph.renderRecord resolve)

def run (s : Session) (steps : List Step) : Session := steps.foldl (perform resolve) s

/-- Every step is sound where it is made. -/
def Admits : Session → List Step → Prop
  | _, [] => True
  | s, step :: steps => step.Sound s ∧ (s.perform resolve step).Admits steps

end Run

/-- The crossings of the arrangement for the connections that the graph has now. -/
def recount? (s : Session) : Option Nat := s.arrangement.countCrossings? s.graph

/-- The graph keeps its invariant, and the arrangement its routes. -/
structure Valid (s : Session) : Prop where
  wellFormed : s.graph.WellFormed
  inside : s.arrangement.Inside

variable {resolve : Origin → Option Capability} {s : Session} {step : Step} {steps : List Step}

theorem new_valid (name : String) : (new name).Valid where
  wellFormed := Graph.empty_wellFormed name
  inside := ⟨fun n i hn => absurd hn (by simp [new]), fun c r hr => absurd hr (by simp [new])⟩

theorem Step.sound_of_reads (hreads : step.Reads) (hfits : s.graph.Fits) : step.Sound s := by
  cases step with
  | reload => exact hfits
  | reloadText => trivial
  | _ => exact absurd hreads id

/-- Whether it is written as bytes or as text, what is read is the record of the graph. -/
theorem Valid.perform_of_reads (h : s.Valid) (hstep : step.Sound s) (hreads : step.Reads) :
    s.perform resolve step = s.replace ((s.graph.toRecord.toGraph resolve).mapError .record) := by
  cases step with
  | reload => rw [Session.perform, h.wellFormed.decode_encode hstep]
  | reloadText =>
      have hread : Graph.parseRecord (s.graph.renderRecord ++ "") resolve = _ :=
        s.graph.parseRecord_renderRecord resolve (by simp)
      rw [String.append_empty] at hread
      rw [Session.perform, hread]
  | _ => exact absurd hreads id

theorem Valid.read (h : s.Valid) : (s.replace ((s.graph.toRecord.toGraph resolve).mapError .record)).Valid := by
  cases hload : s.graph.toRecord.toGraph resolve with
  | error e => exact h
  | ok g => exact ⟨(h.wellFormed.toRecord_countable.accepted hload).1, h.inside⟩

theorem Valid.perform (h : s.Valid) (hstep : step.Sound s) : (s.perform resolve step).Valid := by
  cases step with
  | edit e => exact ⟨h.wellFormed.change hstep.2 hstep.1 (s.graph.perform_change e), h.inside⟩
  | retitle name => exact ⟨{ h.wellFormed with }, h.inside⟩
  | arrange config =>
      exact ⟨h.wellFormed, Arrangement.inside_arrangeLayers _ s.graph.assignLayers_consistent config⟩
  | arrangeLayers l config => exact ⟨h.wellFormed, Arrangement.inside_arrangeLayers _ hstep config⟩
  | reload | reloadText =>
      rw [h.perform_of_reads hstep trivial]
      exact h.read

/-- A new arrangement follows the graph, and goes on to do so until the graph is read. -/
theorem Valid.follows_perform (h : s.Valid) (hstep : step.Sound s) (hreads : ¬ step.Reads)
    (hfollows : s.arrangement.Follows s.graph ∨ step.Stores) :
    (s.perform resolve step).arrangement.Follows (s.perform resolve step).graph := by
  have hnumbered := h.wellFormed.toNumbered
  cases step with
  | edit e =>
      have hages := (s.graph.perform_change e).ages hnumbered hstep.2
      exact (hfollows.resolve_right id).ages hages
  | retitle name =>
      have hkept := hfollows.resolve_right id
      exact ⟨hkept.number_lt, hkept.ends_eq⟩
  | arrange config => exact Arrangement.follows_arrangeLayers hnumbered s.graph.assignLayers config
  | arrangeLayers l config => exact Arrangement.follows_arrangeLayers hnumbered l config
  | reload => exact absurd trivial hreads
  | reloadText => exact absurd trivial hreads

theorem Valid.run (h : s.Valid) (hsteps : s.Admits resolve steps) : (s.run resolve steps).Valid := by
  induction steps generalizing s with
  | nil => exact h
  | cons step steps ih => exact ih (h.perform hsteps.1) hsteps.2

/-- At the end the arrangement follows the graph, if it did at first and the graph was not read, or one was made. -/
theorem Valid.follows_run (h : s.Valid) (hsteps : s.Admits resolve steps) (hrefreshed : Step.Refreshed steps)
    (hfollows : s.arrangement.Follows s.graph ∨ ∃ later ∈ steps, later.Stores) :
    (s.run resolve steps).arrangement.Follows (s.run resolve steps).graph := by
  induction steps generalizing s with
  | nil => exact hfollows.resolve_right (by simp)
  | cons step steps ih =>
      refine ih (h.perform hsteps.1) hsteps.2 hrefreshed.2 ?_
      by_cases hreads : step.Reads
      · -- nothing is left to say of the routes, but there is an arrangement to come
        exact Or.inr (hrefreshed.1 hreads)
      · rcases hfollows with hfollows | ⟨later, hmem, hstores⟩
        · exact Or.inl (h.follows_perform hsteps.1 hreads (Or.inl hfollows))
        · rcases List.mem_cons.mp hmem with rfl | hmem
          · exact Or.inl (h.follows_perform hsteps.1 hreads (Or.inr hstores))
          · exact Or.inr ⟨later, hmem, hstores⟩

/--
**An arrangement can be counted again until the graph is read.** In every session, if an arrangement is made some
time after each reading of the graph, the crossings of the last arrangement can be counted for the graph as it is,
whatever edits came between. In any session they can be counted unless a number of a connection with a route has
come to mean a connection from another node, in a layer from which the route leads beyond the last one.
-/
theorem recounting_safe (name : String) (hsteps : (new name).Admits resolve steps) :
    let s := (new name).run resolve steps
    (Step.Refreshed steps → ∃ k, s.recount? = some k)
      ∧ (s.recount? = none ↔ ∃ c r ends start, s.arrangement.routes.get? c = some r
          ∧ s.graph.connection? c = some ends ∧ ends.src.node ≠ r.src.node
          ∧ s.arrangement.nodeLayers.get? ends.src.node = some start
          ∧ s.arrangement.layers.length ≤ start + r.via.length) := by
  have hnew : (new name).arrangement.Follows (new name).graph :=
    ⟨fun c r hr => absurd hr (by simp [new]), fun c r ends hr => absurd hr (by simp [new])⟩
  have hvalid := (new_valid name).run hsteps
  exact ⟨fun hrefreshed => hvalid.inside.exists_countCrossings?
      ((new_valid name).follows_run hsteps hrefreshed (Or.inl hnew)),
    hvalid.inside.countCrossings?_eq_none_iff⟩

/-! ## A detour -/

theorem run_edits (s : Session) (es : List Edit) :
    s.run resolve (es.map .edit) = { s with graph := s.graph.run es } := by
  induction es generalizing s with
  | nil => rfl
  | cons e es ih => exact ih _

theorem admits_edits {es : List Edit} (hes : ∀ e ∈ es, e.Clean) (hroom : s.graph.RoomFor es) :
    s.Admits resolve (es.map .edit) := by
  induction es generalizing s with
  | nil => trivial
  | cons e es ih =>
      refine ⟨⟨hes e List.mem_cons_self, hroom.head⟩, ?_⟩
      exact ih (fun e' he' => hes e' (List.mem_cons_of_mem _ he')) (hroom.tail (s.graph.perform_change e).counts)

theorem run_append (s : Session) (xs ys : List Step) : s.run resolve (xs ++ ys) = (s.run resolve xs).run resolve ys :=
  List.foldl_append

theorem admits_append {xs ys : List Step} :
    s.Admits resolve (xs ++ ys) ↔ s.Admits resolve xs ∧ (s.run resolve xs).Admits resolve ys := by
  induction xs generalizing s with
  | nil => exact (and_iff_right trivial).symm
  | cons x xs ih => exact (and_congr_right fun _ => ih).trans and_assoc.symm

/-- Four operators, connected in some order. -/
def joined (cs : List Connection) : List Edit :=
  List.replicate 4 (.add (.operator "+")) ++ cs.map fun e => .connect e.src e.dst

/-- The operators stand one behind the other, the last one made first. The first one also feeds the last one. -/
def detourConnections : List Connection := [⟨⟨⟨3⟩, 0⟩, ⟨⟨0⟩, 1⟩⟩, ⟨⟨⟨1⟩, 0⟩, ⟨⟨0⟩, 0⟩⟩, ⟨⟨⟨2⟩, 0⟩, ⟨⟨1⟩, 0⟩⟩,
  ⟨⟨⟨3⟩, 0⟩, ⟨⟨2⟩, 0⟩⟩]

/-- The same connections in the order of a record, by the inputs that they lead to. -/
def recordedConnections : List Connection := [⟨⟨⟨1⟩, 0⟩, ⟨⟨0⟩, 0⟩⟩, ⟨⟨⟨3⟩, 0⟩, ⟨⟨0⟩, 1⟩⟩, ⟨⟨⟨2⟩, 0⟩, ⟨⟨1⟩, 0⟩⟩,
  ⟨⟨⟨3⟩, 0⟩, ⟨⟨2⟩, 0⟩⟩]

def detour (cs : List Connection) : Graph := (Graph.empty "detour").run (joined cs)

theorem detour_assignLayers : (detour detourConnections).assignLayers = {
    layers := [[⟨3⟩], [⟨2⟩], [⟨1⟩], [⟨0⟩]]
    nodeLayers := .ofList [(⟨0⟩, 3), (⟨1⟩, 2), (⟨2⟩, 1), (⟨3⟩, 0)] } := by
  cbv

theorem detour_fits : (detour detourConnections).Fits :=
  Graph.fits_of_tables (by decide +kernel) (by decide +kernel) (by decide +kernel)

/-- The operators are made and connected, and the graph is arranged. -/
def drawn : List Step := (joined detourConnections).map .edit ++ [.arrange {}]

theorem run_drawn : (new "detour").run resolve drawn
    = ⟨detour detourConnections, (detour detourConnections).arrange {}⟩ := by
  rw [drawn, run_append, run_edits]
  rfl

theorem admits_drawn : (new "detour").Admits resolve drawn := by
  refine admits_append.mpr ⟨admits_edits ?_ (Graph.roomFor_of_length (by decide) (by decide)), trivial, trivial⟩
  intro e he
  rcases List.mem_append.mp he with he | he
  · have hbuilds : (Edit.add (.operator "+")).Builds fun _ => none := Or.inl ⟨⟨"", "+"⟩, rfl⟩
    exact List.eq_of_mem_replicate he ▸ hbuilds.clean
  · obtain ⟨ends, -, rfl⟩ := List.mem_map.mp he
    trivial

/-- The graph comes back with other numbers of its connections, and the arrangement stays. -/
theorem run_drawn_reading {reading : Step} (hreads : reading.Reads) :
    (new "detour").run (fun _ => none) (drawn ++ [reading])
      = ⟨detour recordedConnections, (detour detourConnections).arrange {}⟩ := by
  have hdrawn : (new "detour").Admits (fun _ => none) drawn := admits_drawn
  have hvalid := (new_valid "detour").run hdrawn
  have hload : (detour detourConnections).toRecord.toGraph (fun _ => none) = .ok (detour recordedConnections) := by
    cbv
  rw [run_drawn] at hvalid
  calc (new "detour").run (fun _ => none) (drawn ++ [reading])
      = Session.perform (fun _ => none) ⟨detour detourConnections, (detour detourConnections).arrange {}⟩ reading := by
        rw [run_append, run_drawn]
        rfl
    _ = ⟨detour recordedConnections, (detour detourConnections).arrange {}⟩ := by
        rw [hvalid.perform_of_reads (Step.sound_of_reads hreads detour_fits) hreads, hload]
        rfl

theorem admits_drawn_reading {reading : Step} (hreads : reading.Reads) :
    (new "detour").Admits (fun _ => none) (drawn ++ [reading]) := by
  refine admits_append.mpr ⟨admits_drawn, Step.sound_of_reads hreads ?_, trivial⟩
  rw [run_drawn]
  exact detour_fits

/-- Edits behind a new arrangement: its crossings can be counted, with an operator less. -/
theorem redrawn_counted :
    let steps := drawn ++ [.reload] ++ [.arrange {}, .edit (.remove ⟨1⟩)]
    (new "detour").Admits (fun _ => none) steps ∧ Step.Refreshed steps
      ∧ ∃ k, ((new "detour").run (fun _ => none) steps).recount? = some k := by
  intro steps
  have hreads : Step.reload.Reads := trivial
  have hrefreshed : Step.Refreshed steps := by
    simp [steps, drawn, joined, detourConnections, Step.Refreshed, Step.Reads, Step.Stores]
  have hadmits : (new "detour").Admits (fun _ => none) steps := by
    refine admits_append.mpr ⟨admits_drawn_reading hreads, trivial, ⟨trivial, ?_⟩, trivial⟩
    rw [run_drawn_reading hreads]
    have hroom : (detour recordedConnections).RoomFor [.remove ⟨1⟩] := Graph.roomFor_of_length (by cbv) (by cbv)
    exact hroom.head
  exact ⟨hadmits, hrefreshed, (recounting_safe "detour" hadmits).1 hrefreshed⟩

/--
Read again, the graph knows the last connection of the row by the number of the long one. The route of the long one
has two placeholders, and leads from the last layer but one past the end.
-/
theorem reading_misleads_routes :
    (new "detour").Admits (fun _ => none) (drawn ++ [.reload])
      ∧ ((new "detour").run (fun _ => none) (drawn ++ [.reload])).recount? = none
      ∧ (new "detour").Admits (fun _ => none) (drawn ++ [.reloadText])
      ∧ ((new "detour").run (fun _ => none) (drawn ++ [.reloadText])).recount? = none := by
  have hnone : ((detour detourConnections).arrange {}).countCrossings? (detour recordedConnections) = none := by
    unfold Graph.arrange
    rw [detour_assignLayers]
    decide +kernel
  have hbytes : Step.reload.Reads := trivial
  have htext : Step.reloadText.Reads := trivial
  refine ⟨admits_drawn_reading hbytes, ?_, admits_drawn_reading htext, ?_⟩
  · rw [run_drawn_reading hbytes]
    exact hnone
  · rw [run_drawn_reading htext]
    exact hnone

end Session

end SignalGraph
