import SignalGraph.Proofs.Arrangement.Keeping
import SignalGraph.Proofs.Record.Accepted

/-!
# Every connection is drawn hop by hop

Routes are laid connection by connection. What is laid so far is an invariant of this (`Laid`): a connection that spans
several layers has a route with a placeholder for each layer between, and every placeholder lies on a route. So the path
of a connection, from its source along the placeholders to its destination, climbs one layer with every point.

Hops are taken from the paths, and are counted only if both of their slots are found in the two layers at their
boundary. As the paths climb layer by layer, they always are, in whatever order the layers hold their slots: the
crossings of a boundary are those of all connections that lead across it.
-/

namespace SignalGraph

namespace Arrangement

/-- A connection leads from one layer to another. -/
def Leads (a : Arrangement) (ends : Connection) (low high : Nat) : Prop :=
  a.nodeLayers.get? ends.src.node = some low ∧ a.nodeLayers.get? ends.dst.node = some high

theorem Leads.unique {a : Arrangement} {ends : Connection} {low low' high high' : Nat} (h : a.Leads ends low high)
    (h' : a.Leads ends low' high') : low = low' ∧ high = high' :=
  ⟨Option.some.inj (h.1.symm.trans h'.1), Option.some.inj (h.2.symm.trans h'.2)⟩

/-- A route joins the ports of a connection, through a placeholder of its own in each layer between. -/
structure Guides (a : Arrangement) (c : ConnectionId) (ends : Connection) (low high : Nat) (r : Route) : Prop where
  src : r.src = ends.src
  dst : r.dst = ends.dst
  length : r.via.length = high - low - 1
  recorded : ∀ i k, r.via[i]? = some k → a.placeholders[k]? = some (Placeholder.mk c (low + 1 + i))

/-! ## Laying routes -/

/-- What is added for a connection that spans several layers: new placeholders, and a route along them. -/
structure Lays (a : Arrangement) (c : ConnectionId) (ends : Connection) (low high : Nat) (a' : Arrangement) : Prop where
  nodeLayers : a'.nodeLayers = a.nodeLayers
  placeholders : a'.placeholders
    = a.placeholders ++ (List.range (high - low - 1)).map (Placeholder.mk c <| low + 1 + ·)
  routes : a'.routes = a.routes.set c
    ⟨ends.src, ends.dst, (List.range (high - low - 1)).map (a.placeholders.length + ·)⟩

section Laying

variable {a a' : Arrangement} {c : ConnectionId} {ends : Connection} {low high : Nat}

/-- A connection to the next layer, or to a layer that is not higher, is left; another one takes new placeholders. -/
theorem route_cases (a : Arrangement) (c : ConnectionId) (ends : Connection) :
    (a.route c ends = a ∧ ∀ low high, a.Leads ends low high → high ≤ low + 1)
      ∨ ∃ low high, a.Leads ends low high ∧ low + 1 < high ∧ a.Lays c ends low high (a.route c ends) := by
  cases hlow : a.nodeLayers.get? ends.src.node with
  | none =>
      refine Or.inl ⟨?_, ?_⟩
      · unfold route
        rw [hlow]
      · intro low high hleads
        exact absurd (hlow.symm.trans hleads.1) (by simp)
  | some low =>
      cases hhigh : a.nodeLayers.get? ends.dst.node with
      | none =>
          refine Or.inl ⟨?_, ?_⟩
          · unfold route
            rw [hlow, hhigh]
          · intro low high hleads
            exact absurd (hhigh.symm.trans hleads.2) (by simp)
      | some high =>
          by_cases hshort : high ≤ low + 1
          · refine Or.inl ⟨?_, ?_⟩
            · unfold route
              rw [hlow, hhigh]
              exact if_pos hshort
            · intro low' high' hleads
              obtain ⟨rfl, rfl⟩ := hleads.unique ⟨hlow, hhigh⟩
              exact hshort
          · refine Or.inr ⟨low, high, ⟨hlow, hhigh⟩, Nat.not_le.mp hshort, ?_⟩
            unfold route
            rw [hlow, hhigh]
            dsimp only
            rw [if_neg hshort]
            refine ⟨rfl, ?_, ?_⟩
            · dsimp only
              rw [List.map_map]
              rfl
            · dsimp only
              rw [List.map_map]
              rfl

theorem Lays.leads_iff (h : a.Lays c ends low high a') {ends' : Connection} {low' high' : Nat} :
    a'.Leads ends' low' high' ↔ a.Leads ends' low' high' := by
  unfold Leads
  rw [h.nodeLayers]

theorem Lays.get?_self (h : a.Lays c ends low high a') : a'.routes.get? c
    = some ⟨ends.src, ends.dst, (List.range (high - low - 1)).map (a.placeholders.length + ·)⟩ := by
  rw [h.routes, Table.get?_set_self]

theorem Lays.get?_of_ne (h : a.Lays c ends low high a') {c' : ConnectionId} (hne : c' ≠ c) :
    a'.routes.get? c' = a.routes.get? c' := by
  rw [h.routes, Table.get?_set_of_ne _ _ hne]

/-- The new placeholders are recorded for the layers between, from the lower one up. -/
theorem Lays.guides (h : a.Lays c ends low high a') : ∃ r, a'.routes.get? c = some r ∧ a'.Guides c ends low high r := by
  refine ⟨_, h.get?_self, rfl, rfl, by rw [List.length_map, List.length_range], ?_⟩
  intro i k hk
  rw [List.getElem?_map, Option.map_eq_some_iff] at hk
  obtain ⟨j, hj, rfl⟩ := hk
  obtain ⟨hi, rfl⟩ := List.getElem?_eq_some_iff.mp hj
  rw [List.length_range] at hi
  rw [h.placeholders, List.getElem?_append_right (Nat.le_add_right _ _), Nat.add_sub_cancel_left, List.getElem_range,
    List.getElem?_map, List.getElem?_range hi]
  rfl

/-- Other routes keep their placeholders. -/
theorem Lays.keeps_guides (h : a.Lays c ends low high a') {c' : ConnectionId} {ends' : Connection} {low' high' : Nat}
    {r : Route} (hguides : a.Guides c' ends' low' high' r) : a'.Guides c' ends' low' high' r := by
  refine ⟨hguides.src, hguides.dst, hguides.length, ?_⟩
  intro i k hk
  have hp := hguides.recorded i k hk
  rwa [h.placeholders, List.getElem?_append_left (List.getElem?_eq_some_iff.mp hp).1]

/-- A placeholder is an old one, or one of those on the new route. -/
theorem Lays.placeholder_cases (h : a.Lays c ends low high a') {k : Nat} {p : Placeholder}
    (hp : a'.placeholders[k]? = some p) : a.placeholders[k]? = some p
      ∨ p.connection = c ∧ ((List.range (high - low - 1)).map (a.placeholders.length + ·))[k - a.placeholders.length]?
        = some k := by
  rw [h.placeholders] at hp
  by_cases hk : k < a.placeholders.length
  · rw [List.getElem?_append_left hk] at hp
    exact Or.inl hp
  · have hle := Nat.not_lt.mp hk
    rw [List.getElem?_append_right hle, List.getElem?_map, Option.map_eq_some_iff] at hp
    obtain ⟨j, hj, rfl⟩ := hp
    obtain ⟨_, rfl⟩ := List.getElem?_eq_some_iff.mp hj
    refine Or.inr ⟨rfl, ?_⟩
    rw [List.getElem?_map, hj, List.getElem_range, Option.map_some, Nat.add_sub_cancel' hle]

end Laying

/-- What is laid when some connections have been looked at. -/
structure Laid (es : List (ConnectionId × Connection)) (a : Arrangement) : Prop where
  short : ∀ c ends low high, (c, ends) ∈ es → a.Leads ends low high → high ≤ low + 1 → a.routes.get? c = none
  long : ∀ c ends low high, (c, ends) ∈ es → a.Leads ends low high → low + 1 < high →
    ∃ r, a.routes.get? c = some r ∧ a.Guides c ends low high r
  /-- Only these connections have routes. -/
  keys : ∀ c r, a.routes.get? c = some r → c ∈ es.map Prod.fst
  /-- A placeholder lies on the route of its connection. -/
  owned : ∀ k (p : Placeholder), a.placeholders[k]? = some p → ∃ (r : Route) (i : Nat),
    a.routes.get? p.connection = some r ∧ r.via[i]? = some k

section LaidStep

variable {es : List (ConnectionId × Connection)} {a a' : Arrangement} {c : ConnectionId} {ends : Connection}

theorem Laid.get?_eq_none (ha : a.Laid es) (hc : c ∉ es.map Prod.fst) : a.routes.get? c = none := by
  cases hr : a.routes.get? c with
  | none => rfl
  | some r => exact absurd (ha.keys c r hr) hc

/-- Of the connections that have been looked at, only the last one has its number. -/
theorem mem_concat_cases (hc : c ∉ es.map Prod.fst) {c' : ConnectionId} {ends' : Connection}
    (he : (c', ends') ∈ es ++ [(c, ends)]) : (c', ends') ∈ es ∧ c' ≠ c ∨ c' = c ∧ ends' = ends := by
  rcases List.mem_append.mp he with he | he
  · exact Or.inl ⟨he, ne_of_mem_of_not_mem (List.mem_map_of_mem he) hc⟩
  · exact Or.inr (Prod.mk.inj (List.mem_singleton.mp he))

/-- A connection that needs no route has none. -/
theorem Laid.skip (ha : a.Laid es) (hc : c ∉ es.map Prod.fst)
    (hshort : ∀ low high, a.Leads ends low high → high ≤ low + 1) : a.Laid (es ++ [(c, ends)]) := by
  refine ⟨?_, ?_, ?_, ha.owned⟩
  · intro c' ends' low high he hleads hle
    rcases mem_concat_cases hc he with ⟨he, -⟩ | ⟨rfl, -⟩
    · exact ha.short c' ends' low high he hleads hle
    · exact ha.get?_eq_none hc
  · intro c' ends' low high he hleads hlong
    rcases mem_concat_cases hc he with ⟨he, -⟩ | ⟨-, rfl⟩
    · exact ha.long c' ends' low high he hleads hlong
    · exact absurd (hshort low high hleads) (Nat.not_le.mpr hlong)
  · intro c' r hr
    rw [List.map_append, List.mem_append]
    exact Or.inl (ha.keys c' r hr)

/-- A connection that spans several layers gets its route, and what was laid before stays. -/
theorem Laid.lay (ha : a.Laid es) (hc : c ∉ es.map Prod.fst) {low high : Nat} (hleads : a.Leads ends low high)
    (hlong : low + 1 < high) (h : a.Lays c ends low high a') : a'.Laid (es ++ [(c, ends)]) := by
  refine ⟨?_, ?_, ?_, ?_⟩
  · intro c' ends' low' high' he hleads' hle
    rw [h.leads_iff] at hleads'
    rcases mem_concat_cases hc he with ⟨he, hne⟩ | ⟨-, rfl⟩
    · rw [h.get?_of_ne hne]
      exact ha.short c' ends' low' high' he hleads' hle
    · obtain ⟨rfl, rfl⟩ := hleads'.unique hleads
      omega
  · intro c' ends' low' high' he hleads' hlong'
    rw [h.leads_iff] at hleads'
    rcases mem_concat_cases hc he with ⟨he, hne⟩ | ⟨rfl, rfl⟩
    · obtain ⟨r, hr, hguides⟩ := ha.long c' ends' low' high' he hleads' hlong'
      exact ⟨r, (h.get?_of_ne hne).trans hr, h.keeps_guides hguides⟩
    · obtain ⟨rfl, rfl⟩ := hleads'.unique hleads
      exact h.guides
  · intro c' r hr
    rw [List.map_append, List.mem_append]
    by_cases hne : c' = c
    · exact Or.inr (List.mem_singleton.mpr hne)
    · rw [h.get?_of_ne hne] at hr
      exact Or.inl (ha.keys c' r hr)
  · intro k p hp
    rcases h.placeholder_cases hp with hold | ⟨hown, hk⟩
    · obtain ⟨r, i, hr, hi⟩ := ha.owned k p hold
      exact ⟨r, i, (h.get?_of_ne (ne_of_mem_of_not_mem (ha.keys _ r hr) hc)).trans hr, hi⟩
    · exact ⟨_, _, hown ▸ h.get?_self, hk⟩

theorem Laid.route (ha : a.Laid es) (hc : c ∉ es.map Prod.fst) (ends : Connection) :
    (a.route c ends).Laid (es ++ [(c, ends)]) := by
  rcases route_cases a c ends with ⟨hsame, hshort⟩ | ⟨low, high, hleads, hlong, hlays⟩
  · rw [hsame]
    exact ha.skip hc hshort
  · exact ha.lay hc hleads hlong hlays

end LaidStep

/-- All routes are laid when all connections have been looked at. -/
theorem laid_ofLayering (g : Graph) (l : Layering) : (ofLayering g l).Laid g.connections.entries := by
  have hfold : ∀ es : List (ConnectionId × Connection), (es.map Prod.fst).Nodup →
      Laid es (es.foldl (fun (a : Arrangement) e => a.route e.1 e.2)
        { layers := l.layers.map (·.map .node), nodeLayers := l.nodeLayers }) := by
    intro es hnodup
    induction es using List.reverseRecOn with
    | nil => exact ⟨by simp, by simp, by simp, by simp⟩
    | append_singleton es e ih =>
        rw [List.map_append, List.nodup_append] at hnodup
        obtain ⟨hfirst, -, hapart⟩ := hnodup
        rw [List.foldl_append]
        refine (ih hfirst).route ?_ e.2
        intro hmem
        exact hapart e.1 hmem e.1 (List.mem_singleton_self _) rfl
  exact hfold g.connections.entries g.connections.nodup

section AllLaid

variable {es : List (ConnectionId × Connection)} {a : Arrangement}

/-- The placeholders on a route are recorded for its connection, from layer to layer. -/
theorem Laid.recorded (ha : a.Laid es) (hleads : ∀ c ends, (c, ends) ∈ es → ∃ low high, a.Leads ends low high)
    {c : ConnectionId} {r : Route} (hr : a.routes.get? c = some r) :
    ∃ low, ∀ i k, r.via[i]? = some k → a.placeholders[k]? = some (Placeholder.mk c (low + 1 + i)) := by
  obtain ⟨⟨c, ends⟩, he, rfl⟩ := List.mem_map.mp (ha.keys c r hr)
  obtain ⟨low, high, hends⟩ := hleads c ends he
  by_cases hlong : low + 1 < high
  · obtain ⟨r', hr', hguides⟩ := ha.long c ends low high he hends hlong
    obtain rfl : r' = r := Option.some.inj (hr'.symm.trans hr)
    exact ⟨low, hguides.recorded⟩
  · exact absurd (hr.symm.trans (ha.short c ends low high he hends (Nat.not_lt.mp hlong))) (by simp)

/-- A placeholder is at one place of one route: the route tells its layer, and so its place. -/
theorem Laid.existsUnique (ha : a.Laid es) (hleads : ∀ c ends, (c, ends) ∈ es → ∃ low high, a.Leads ends low high)
    {k : Nat} (hk : k < a.placeholders.length) :
    ∃! place : ConnectionId × Nat, ∃ r, a.routes.get? place.1 = some r ∧ r.via[place.2]? = some k := by
  obtain ⟨r, i, hr, hi⟩ := ha.owned k _ (List.getElem?_eq_getElem hk)
  -- what is recorded for the placeholder names the connection, and its layer tells the place on the route
  refine ⟨(_, i), ⟨r, hr, hi⟩, ?_⟩
  rintro ⟨c', i'⟩ ⟨r', hr', hi'⟩
  obtain ⟨low, hlow⟩ := ha.recorded hleads hr
  obtain ⟨low', hlow'⟩ := ha.recorded hleads hr'
  have hsame := Option.some.inj ((hlow' i' k hi').symm.trans (hlow i k hi))
  injection hsame with hc hplace
  dsimp only at hr' hi'
  subst hc
  obtain rfl : r' = r := Option.some.inj (hr'.symm.trans hr)
  have hboth := Option.some.inj ((hlow i k hi).symm.trans (hlow' i k hi))
  injection hboth with _ hlows
  exact Prod.ext rfl (by dsimp only; omega)

end AllLaid

/-! ## Paths -/

/-- The path of a connection: from its source along a placeholder in each layer between to its destination. -/
structure Climbs (a : Arrangement) (c : ConnectionId) (ends : Connection) (low high : Nat) : Prop where
  length : (a.path c ends).length = high - low + 1
  first : (a.path c ends)[0]? = some (.node ends.src.node, ends.src.index)
  between : ∀ i, 0 < i → low + i < high →
    ∃ k, (a.path c ends)[i]? = some (.placeholder k, 0) ∧ a.placeholders[k]? = some (Placeholder.mk c (low + i))
  last : (a.path c ends)[high - low]? = some (.node ends.dst.node, ends.dst.index)

theorem Laid.climbs {es : List (ConnectionId × Connection)} {a : Arrangement} (ha : a.Laid es) {c : ConnectionId}
    {ends : Connection} (he : (c, ends) ∈ es) {low high : Nat} (hleads : a.Leads ends low high) (hlt : low < high) :
    a.Climbs c ends low high := by
  -- a connection to the next layer has no route, and its path no point between its ends
  obtain ⟨via, hvia, hlen, hrecorded⟩ : ∃ via, ((a.routes.get? c).map (·.via)).getD [] = via
      ∧ via.length = high - low - 1
      ∧ ∀ i k, via[i]? = some k → a.placeholders[k]? = some (Placeholder.mk c (low + 1 + i)) := by
    by_cases hlong : low + 1 < high
    · obtain ⟨r, hr, hguides⟩ := ha.long c ends low high he hleads hlong
      exact ⟨r.via, by rw [hr]; rfl, hguides.length, hguides.recorded⟩
    · have hnone := ha.short c ends low high he hleads (Nat.not_lt.mp hlong)
      exact ⟨[], by rw [hnone]; rfl, by rw [List.length_nil]; omega, by simp⟩
  have hpath : a.path c ends = (.node ends.src.node, ends.src.index) ::
      (via.map (fun k => (Slot.placeholder k, 0)) ++ [(.node ends.dst.node, ends.dst.index)]) := by
    unfold path
    rw [hvia]
    rfl
  have hmiddle : (via.map fun k => (Slot.placeholder k, 0)).length = high - low - 1 := by rw [List.length_map, hlen]
  refine ⟨?_, ?_, ?_, ?_⟩
  · rw [hpath, List.length_cons, List.length_append, hmiddle, List.length_singleton]
    omega
  · rw [hpath]
    rfl
  · intro i hpos hi
    obtain ⟨i, rfl⟩ := Nat.exists_eq_add_of_lt hpos
    rw [Nat.zero_add] at hi ⊢
    have hin : i < via.length := by omega
    refine ⟨via[i], ?_, ?_⟩
    · rw [hpath, List.getElem?_cons_succ, List.getElem?_append_left (by omega), List.getElem?_map,
        List.getElem?_eq_getElem hin]
      rfl
    · rw [hrecorded i _ (List.getElem?_eq_getElem hin)]
      congr 2
      omega
  · obtain ⟨n, hn⟩ : ∃ n, high - low = n + 1 := ⟨high - low - 1, by omega⟩
    rw [hpath, hn, List.getElem?_cons_succ, List.getElem?_append_right (by omega), hmiddle]
    have hzero : n - (high - low - 1) = 0 := by omega
    rw [hzero]
    rfl

/-- A path climbs one layer with every point. -/
theorem Climbs.mem_layer {a : Arrangement} {g : Graph} {l : Layering} (hr : a.Reorders g l) {c : ConnectionId}
    {ends : Connection} {low high : Nat} (h : a.Climbs c ends low high) (hleads : a.Leads ends low high)
    (hlt : low < high) {i : Nat} {point : Slot × Nat} (hpoint : (a.path c ends)[i]? = some point) :
    ∃ slots, a.layers[low + i]? = some slots ∧ point.1 ∈ slots := by
  have hi : i < high - low + 1 := by
    rw [← h.length]
    exact (List.getElem?_eq_some_iff.mp hpoint).1
  by_cases hfirst : i = 0
  · subst hfirst
    obtain rfl := Option.some.inj (h.first.symm.trans hpoint)
    exact (hr.node_mem _ low).mp hleads.1
  · by_cases hlast : i = high - low
    · subst hlast
      obtain rfl := Option.some.inj (h.last.symm.trans hpoint)
      have hsum : low + (high - low) = high := by omega
      rw [hsum]
      exact (hr.node_mem _ high).mp hleads.2
    · obtain ⟨k, hk, hp⟩ := h.between i (by omega) (by omega)
      obtain rfl := Option.some.inj (hk.symm.trans hpoint)
      exact (hr.placeholder_mem k (low + i)).mp ⟨_, hp, rfl⟩

/-! ## Hops -/

/-- The hop of a connection across a boundary, between two points of its path. -/
def hopAcross? (a : Arrangement) (b : Nat) (e : ConnectionId × Connection) : Option Hop :=
  match a.nodeLayers.get? e.2.src.node with
  | none => none
  | some start =>
    if start ≤ b then ((a.path e.1 e.2).zipWith Hop.mk (a.path e.1 e.2).tail)[b - start]? else none

theorem filter_zipIdx_snd {α : Type} (as : List α) (k b : Nat) :
    ((as.zipIdx k).filter (·.2 == b)).map Prod.fst = (if k ≤ b then as[b - k]? else none).toList := by
  induction as generalizing k with
  | nil => simp
  | cons a as ih =>
      rw [List.zipIdx_cons, List.filter_cons]
      by_cases hk : k = b
      · subst hk
        rw [if_pos (beq_self_eq_true k), List.map_cons, ih, if_neg (by omega), if_pos (Nat.le_refl k), Nat.sub_self]
        rfl
      · rw [if_neg (by simpa using hk), ih]
        by_cases hle : k ≤ b
        · have hsub : b - k = b - (k + 1) + 1 := by omega
          rw [if_pos (by omega), if_pos hle, hsub, List.getElem?_cons_succ]
        · rw [if_neg (by omega), if_neg hle]

/-- The hops at a boundary are those of the connections, in their order. -/
theorem boundaries_getElem? (g : Graph) (a : Arrangement) {b : Nat} (hb : b + 1 < a.layers.length) :
    (Hops.of g a).boundaries[b]? = some (g.connections.entries.filterMap (a.hopAcross? b)) := by
  have hconnection : ∀ e : ConnectionId × Connection,
      ((a.hops e.1 e.2).filter (·.2 == b)).map Prod.fst = (a.hopAcross? b e).toList := by
    intro e
    unfold hops hopAcross?
    cases a.nodeLayers.get? e.2.src.node with
    | none => rfl
    | some start => exact filter_zipIdx_snd _ start b
  unfold Hops.of
  dsimp only
  rw [List.getElem?_map, List.getElem?_range (by omega), Option.map_some, List.filter_flatMap, List.map_flatMap,
    List.filterMap_eq_flatMap_toList]
  exact congrArg (fun f => some (g.connections.entries.flatMap f)) (funext hconnection)

theorem hopAcross?_eq_some_iff {a : Arrangement} {c : ConnectionId} {ends : Connection} {low high b : Nat}
    (hleads : a.Leads ends low high) {hop : Hop} : a.hopAcross? b (c, ends) = some hop ↔
      low ≤ b ∧ (a.path c ends)[b - low]? = some hop.src ∧ (a.path c ends)[b - low + 1]? = some hop.dst := by
  unfold hopAcross?
  dsimp only
  rw [hleads.1]
  dsimp only
  by_cases hle : low ≤ b
  · rw [if_pos hle, List.getElem?_zipWith_eq_some, List.getElem?_tail, and_iff_right hle]
    constructor
    · rintro ⟨src, dst, hsrc, hdst, rfl⟩
      exact ⟨hsrc, hdst⟩
    · intro ⟨hsrc, hdst⟩
      exact ⟨hop.src, hop.dst, hsrc, hdst, rfl⟩
  · rw [if_neg hle]
    exact ⟨fun hnone => absurd hnone (by simp), fun hrest => absurd hrest.1 hle⟩

/-- A connection has a hop across each boundary between its ends, from the point in front to the one behind. -/
theorem Climbs.exists_hop {a : Arrangement} {c : ConnectionId} {ends : Connection} {low high b : Nat}
    (h : a.Climbs c ends low high) (hleads : a.Leads ends low high) (hlow : low ≤ b) (hhigh : b < high) :
    ∃ hop, a.hopAcross? b (c, ends) = some hop ∧ (a.path c ends)[b - low]? = some hop.src
      ∧ (a.path c ends)[b - low + 1]? = some hop.dst := by
  have hlen := h.length
  have hsrc := List.getElem?_eq_getElem (l := a.path c ends) (i := b - low) (by omega)
  have hdst := List.getElem?_eq_getElem (l := a.path c ends) (i := b - low + 1) (by omega)
  exact ⟨⟨_, _⟩, (hopAcross?_eq_some_iff hleads).mpr ⟨hlow, hsrc, hdst⟩, hsrc, hdst⟩

theorem Climbs.bounds_of_hop {a : Arrangement} {c : ConnectionId} {ends : Connection} {low high b : Nat}
    (h : a.Climbs c ends low high) (hleads : a.Leads ends low high) {hop : Hop}
    (hhop : a.hopAcross? b (c, ends) = some hop) : low ≤ b ∧ b < high := by
  obtain ⟨hlow, -, hdst⟩ := (hopAcross?_eq_some_iff hleads).mp hhop
  have hlt := (List.getElem?_eq_some_iff.mp hdst).1
  rw [h.length] at hlt
  omega

end Arrangement

/-- Offsets are taken for all slots of the layer, the last one first. -/
theorem Hops.keys_offsets (count : Slot → Nat) (layer : List Slot) :
    (Hops.offsets count layer).map Prod.fst = layer.reverse := by
  have hfold : ∀ (slots : List Slot) (acc : List (Slot × Nat) × Nat),
      (slots.foldl (fun acc s => ((s, acc.2) :: acc.1, acc.2 + count s)) acc).1.map Prod.fst
        = slots.reverse ++ acc.1.map Prod.fst := by
    intro slots
    induction slots with
    | nil => exact fun _ => rfl
    | cons s slots ih =>
        intro acc
        rw [List.foldl_cons, ih, List.reverse_cons, List.append_assoc]
        rfl
  have hkeys := hfold layer ([], 0)
  rw [List.map_nil, List.append_nil] at hkeys
  exact hkeys

/-- The ports of every slot of a layer are numbered. -/
theorem Hops.exists_lookup_offsets (count : Slot → Nat) {layer : List Slot} {s : Slot} (hs : s ∈ layer) :
    ∃ n, (Hops.offsets count layer).lookup s = some n := by
  rw [← List.mem_reverse, ← Hops.keys_offsets count layer] at hs
  obtain ⟨e, he, heq⟩ := List.mem_map.mp hs
  rw [← Option.isSome_iff_exists, List.lookup_isSome_iff]
  exact ⟨e, he, by rw [heq, beq_self_eq_true]⟩

theorem Hops.exists_span {above below : List (Slot × Nat)} {hop : Hop} (hsrc : ∃ n, above.lookup hop.src.1 = some n)
    (hdst : ∃ n, below.lookup hop.dst.1 = some n) : ∃ span, Hops.span? above below hop = some span := by
  obtain ⟨s, hs⟩ := hsrc
  obtain ⟨d, hd⟩ := hdst
  exact ⟨(s + hop.src.2, d + hop.dst.2), by unfold Hops.span?; rw [hs, hd]; rfl⟩

/-- The points of a hop lie in the two layers at its boundary, in whatever order these hold their slots. -/
theorem Arrangement.Climbs.exists_span {a : Arrangement} {g : Graph} {l : Layering} (hr : a.Reorders g l)
    {c : ConnectionId} {ends : Connection} {low high : Nat} (h : a.Climbs c ends low high)
    (hleads : a.Leads ends low high) (hlt : low < high) {layers : List (List Slot)}
    (hperm : List.Forall₂ List.Perm layers a.layers) {b : Nat} {upper lower : List Slot}
    (hupper : layers[b]? = some upper) (hlower : layers[b + 1]? = some lower) {hop : Hop}
    (hhop : a.hopAcross? b (c, ends) = some hop) (outputs inputs : Slot → Nat) :
    ∃ span, Hops.span? (Hops.offsets outputs upper) (Hops.offsets inputs lower) hop = some span := by
  obtain ⟨hle, hsrc, hdst⟩ := (hopAcross?_eq_some_iff hleads).mp hhop
  have hfound : ∀ i slots point, layers[low + i]? = some slots → (a.path c ends)[i]? = some point →
      point.1 ∈ slots := by
    intro i slots point hslots hpoint
    obtain ⟨slots', hslots', hmem⟩ := (exists_slots_iff hperm).mpr (h.mem_layer hr hleads hlt hpoint)
    obtain rfl := Option.some.inj (hslots.symm.trans hslots')
    exact hmem
  refine Hops.exists_span (Hops.exists_lookup_offsets _ (hfound (b - low) upper hop.src ?_ hsrc))
    (Hops.exists_lookup_offsets _ (hfound (b - low + 1) lower hop.dst ?_ hdst))
  · rwa [Nat.add_sub_cancel' hle]
  · rwa [← Nat.add_assoc, Nat.add_sub_cancel' hle]

/-- Every connection of the graph is drawn hop by hop from its source to its destination. -/
structure Arrangement.DrawsHops (a : Arrangement) (g : Graph) : Prop where
  /-- A connection leads from a layer of the drawing to a higher one. -/
  rising : ∀ c ends, g.connection? c = some ends →
    ∃ low high, a.Leads ends low high ∧ low < high ∧ high < a.layers.length
  /-- To the next layer, there is no route. -/
  short : ∀ c ends low, g.connection? c = some ends → a.Leads ends low (low + 1) → a.routes.get? c = none
  /-- To a layer above that one, there is a route with a placeholder in each layer between. -/
  long : ∀ c ends low high, g.connection? c = some ends → a.Leads ends low high → low + 1 < high →
    ∃ r, a.routes.get? c = some r ∧ a.Guides c ends low high r
  /-- Nothing else has a route. -/
  keys : ∀ c r, a.routes.get? c = some r → ∃ ends, g.connection? c = some ends
  /-- A placeholder is at one place of one route. -/
  owned : ∀ k < a.placeholders.length, ∃! place : ConnectionId × Nat,
    ∃ r, a.routes.get? place.1 = some r ∧ r.via[place.2]? = some k
  /-- Up to `2 ^ 32` placeholders, the numbers on the routes fit into 32 bits. -/
  via_word : a.placeholders.length ≤ 2 ^ 32 → ∀ c r, a.routes.get? c = some r → ∀ k ∈ r.via,
    (UInt32.ofNat k).toNat = k
  /-- The path of a connection leads from port to port, along its placeholders. -/
  path : ∀ c ends low high, g.connection? c = some ends → a.Leads ends low high → a.Climbs c ends low high
  /-- The hops across a boundary are those of the connections, at most one of each. -/
  boundaries : ∀ b, b + 1 < a.layers.length →
    (Hops.of g a).boundaries[b]? = some (g.connections.entries.filterMap (a.hopAcross? b))
  /-- A connection that leads across a boundary has a hop there, between the two points of its path at it. -/
  hop : ∀ c ends low high b, g.connection? c = some ends → a.Leads ends low high → low ≤ b → b < high →
    ∃ hop, a.hopAcross? b (c, ends) = some hop ∧ (a.path c ends)[b - low]? = some hop.src
      ∧ (a.path c ends)[b - low + 1]? = some hop.dst
  /-- A connection that does not lead across a boundary has no hop there. -/
  no_hop : ∀ c ends low high b, g.connection? c = some ends → a.Leads ends low high → ¬(low ≤ b ∧ b < high) →
    a.hopAcross? b (c, ends) = none
  /-- There is no hop behind the last boundary. -/
  inside : ∀ c ends, g.connection? c = some ends → ∀ e ∈ a.hops c ends, e.2 + 1 < a.layers.length
  /-- In whatever order the layers hold their slots, every hop is found between them and counted. -/
  drawn : ∀ layers, List.Forall₂ List.Perm layers a.layers → ∀ b hops upper lower,
    (Hops.of g a).boundaries[b]? = some hops → layers[b]? = some upper → layers[b + 1]? = some lower →
    ∀ hop ∈ hops, ∃ span, Hops.span? (Hops.offsets (Hops.of g a).outputs upper)
      (Hops.offsets (Hops.of g a).inputs lower) hop = some span

namespace Graph

variable {g : Graph}

/-- Arranging moves slots within their layers only: what was laid stays. -/
theorem laid_arrange (g : Graph) (config : ArrangeConfig) : (g.arrange config).Laid g.connections.entries := by
  obtain ⟨hshort, hlong, hkeys, howned⟩ := Arrangement.laid_ofLayering g g.assignLayers
  refine ⟨hshort, ?_, hkeys, howned⟩
  intro c ends low high he hleads hlt
  obtain ⟨r, hr, hguides⟩ := hlong c ends low high he hleads hlt
  exact ⟨r, hr, hguides.src, hguides.dst, hguides.length, hguides.recorded⟩

/-- Connections lead from a layer of the drawing to a higher one. -/
theorem exists_leads_of_reorders {l : Layering} (hplaces : l.Places g) {a : Arrangement} (hr : a.Reorders g l)
    {c : ConnectionId} {ends : Connection} (hc : g.connection? c = some ends) :
    ∃ low high, a.Leads ends low high ∧ low < high ∧ high < a.layers.length := by
  obtain ⟨low, high, hlow, hhigh, hlt⟩ := hplaces.rising c ends hc
  have hleads : a.Leads ends low high := by
    unfold Arrangement.Leads
    rw [hr.nodeLayers]
    exact ⟨hlow, hhigh⟩
  obtain ⟨slots, hslots, -⟩ := (hr.node_mem _ high).mp hleads.2
  exact ⟨low, high, hleads, hlt, (List.getElem?_eq_some_iff.mp hslots).1⟩

theorem arrange_drawsHops (hplaces : g.assignLayers.Places g) (config : ArrangeConfig)
    (hr : (g.arrange config).Reorders g g.assignLayers) : (g.arrange config).DrawsHops g := by
  have hlaid := g.laid_arrange config
  have hrising : ∀ c ends, g.connection? c = some ends →
      ∃ low high, (g.arrange config).Leads ends low high ∧ low < high ∧ high < (g.arrange config).layers.length :=
    fun c ends => exists_leads_of_reorders hplaces hr
  have hends : ∀ c ends, (c, ends) ∈ g.connections.entries →
      ∃ low high, (g.arrange config).Leads ends low high := by
    intro c ends he
    obtain ⟨low, high, hleads, -, -⟩ := hrising c ends (Table.mem_entries_iff.mp he)
    exact ⟨low, high, hleads⟩
  have hpath : ∀ c ends low high, g.connection? c = some ends → (g.arrange config).Leads ends low high →
      (g.arrange config).Climbs c ends low high := by
    intro c ends low high hc hleads
    obtain ⟨low', high', hleads', hlt, -⟩ := hrising c ends hc
    obtain ⟨rfl, rfl⟩ := hleads.unique hleads'
    exact hlaid.climbs (Table.mem_entries_iff.mpr hc) hleads hlt
  exact {
    rising := hrising
    short := fun c ends low hc hleads =>
      hlaid.short c ends low (low + 1) (Table.mem_entries_iff.mpr hc) hleads (Nat.le_refl _)
    long := fun c ends low high hc hleads hlong =>
      hlaid.long c ends low high (Table.mem_entries_iff.mpr hc) hleads hlong
    keys := fun c r hr => Table.mem_keys_iff.mp (hlaid.keys c r hr)
    owned := fun k hk => hlaid.existsUnique hends hk
    via_word := by
      intro hroom c r hr k hk
      obtain ⟨low, hrecorded⟩ := hlaid.recorded hends hr
      obtain ⟨i, hi⟩ := List.mem_iff_getElem?.mp hk
      exact toNat_ofNat_of_placeholder hroom (hrecorded i k hi)
    path := hpath
    boundaries := fun b hb => Arrangement.boundaries_getElem? g _ hb
    hop := fun c ends low high b hc hleads hlow hhigh => (hpath c ends low high hc hleads).exists_hop hleads hlow hhigh
    no_hop := by
      intro c ends low high b hc hleads hnot
      refine Option.eq_none_iff_forall_ne_some.mpr ?_
      intro hop hhop
      exact hnot ((hpath c ends low high hc hleads).bounds_of_hop hleads hhop)
    inside := by
      intro c ends hc e he
      obtain ⟨low, high, hleads, hlow, hhigh⟩ := hrising c ends hc
      have hlen := (hpath c ends low high hc hleads).length
      unfold Arrangement.hops at he
      rw [hleads.1] at he
      have hbound := (List.mem_zipIdx he).2.1
      rw [List.length_zipWith, List.length_tail, hlen] at hbound
      omega
    drawn := by
      intro layers hperm b hops upper lower hhops hupper hlower hop hhop
      have hb : b + 1 < (g.arrange config).layers.length := by
        rw [← hperm.length_eq]
        exact (List.getElem?_eq_some_iff.mp hlower).1
      rw [Arrangement.boundaries_getElem? g _ hb] at hhops
      injection hhops with hhops
      subst hhops
      obtain ⟨⟨c, ends⟩, he, hacross⟩ := List.mem_filterMap.mp hhop
      have hc := Table.mem_entries_iff.mp he
      obtain ⟨low, high, hleads, hlt, -⟩ := hrising c ends hc
      exact (hpath c ends low high hc hleads).exists_span hr hleads hlt hperm hupper hlower hacross _ _ }

/--
**Every connection is drawn as hops from layer to layer.** This holds of every arrangement of a graph that passes the
check, whether it was new or read at first, and whatever edits were made to it. A connection to the next layer has no
route, and a longer one has a route of its own with a placeholder in each layer between. The hops across a boundary are
one hop of each connection that leads across it, along its path from port to port, and both ends of a hop are found in
the layers at the boundary, so that each hop is counted. The numbers of placeholders fit into 32 bits as long as there
are at most `2 ^ 32` of them. The hops with which the search counts are those of the arrangement that it finds.
-/
theorem connections_drawn_as_hops (hg : g.Attained) (hcheck : g.checkInvariants = .ok ()) (config : ArrangeConfig) :
    (g.arrange config).DrawsHops g
      ∧ Hops.of g (.ofLayering g g.assignLayers) = Hops.of g (g.arrange config) := by
  have hwf := hg.wellFormed
  have hplaces := hwf.assignLayers_places fun n node hn => hwf.onePort_of_check hcheck hn
  refine ⟨arrange_drawsHops hplaces config (hwf.arrange_reorders hplaces config), ?_⟩
  exact (Hops.of_layers g _ (arrangeLayers_perm g g.assignLayers config).length_eq _ _).symm

/-- Two nodes in a row between an input and an output, and a connection past both of them. -/
def bypassEdits : List Edit :=
  [.insert .input 0 "x", .add (.ofNames ⟨"math", "abs"⟩ [""] [""]), .add (.ofNames ⟨"math", "sqrt"⟩ [""] [""]),
    .insert .output 0 "y", .insert .output 1 "z", .connect ⟨⟨0⟩, 0⟩ ⟨⟨1⟩, 0⟩, .connect ⟨⟨1⟩, 0⟩ ⟨⟨2⟩, 0⟩,
    .connect ⟨⟨2⟩, 0⟩ ⟨⟨3⟩, 0⟩, .connect ⟨⟨0⟩, 0⟩ ⟨⟨4⟩, 0⟩]

theorem bypass_assignLayers : ((empty "bypass").run bypassEdits).assignLayers = {
    layers := [[⟨0⟩], [⟨1⟩], [⟨2⟩], [⟨3⟩, ⟨4⟩]]
    nodeLayers := .ofList [(⟨3⟩, 3), (⟨2⟩, 2), (⟨1⟩, 1), (⟨0⟩, 0), (⟨4⟩, 3)] } :=
  assignLayers_of_ranks [-3, -2, -1, 0] [[⟨0⟩], [⟨1⟩], [⟨2⟩], [⟨3⟩, ⟨4⟩]] (by decide +kernel)
    (by decide +kernel) (by decide +kernel) (by decide +kernel) (by cbv)

/-- The connection past the row takes a placeholder beside each of the two nodes. -/
theorem bypass_drawn_as_hops :
    (((empty "bypass").run bypassEdits).arrange {}).DrawsHops ((empty "bypass").run bypassEdits)
      ∧ (((empty "bypass").run bypassEdits).arrange {}).placeholders = [⟨⟨3⟩, 1⟩, ⟨⟨3⟩, 2⟩] := by
  have hedits : ((empty "bypass").run bypassEdits).Reachable fun e => e.Clean ∧ e.OnePort := by
    refine ⟨"bypass", bypassEdits, ?_, roomFor_of_length (by decide) (by decide), rfl⟩
    intro e he
    simp only [bypassEdits, List.mem_cons, List.not_mem_nil, or_false] at he
    rcases he with rfl | rfl | rfl | rfl | rfl | rfl | rfl | rfl | rfl
    case inr.inl => exact ⟨Node.ofNames_unconnected _ _ _, by decide, by decide⟩
    case inr.inr.inl => exact ⟨Node.ofNames_unconnected _ _ _, by decide, by decide⟩
    all_goals exact ⟨trivial, trivial⟩
  have hattained := (hedits.mono fun _ he => he.1).attained
  refine ⟨(connections_drawn_as_hops hattained hedits.checkInvariants {}).1, ?_⟩
  unfold arrange
  rw [bypass_assignLayers]
  decide +kernel

end Graph

end SignalGraph
