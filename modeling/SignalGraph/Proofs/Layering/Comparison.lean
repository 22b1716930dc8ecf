import SignalGraph.Proofs.Layering.Renumbering

/-!
# Nodes compare as in a total preorder

Comparing two nodes stops at the first difference, and it goes no further than the shorter of two lists. Lengths come
first, though, and in a graph whose ports list connections of the graph no connection is passed over. So what decides
is a lexicographic order of what the nodes show (`Profile`): names, numbers of ports, and port by port where signals
come from and which layers they go to. Nodes tie if they show the same.

Sorting by such an order has one result, whatever the algorithm, as long as it keeps what ties in order
(`SortsStably`).
-/

namespace SignalGraph

/-! ## Comparing lists -/

/-- Lists are compared alike if their items are. -/
theorem compareItems_of_forall₂ {α α' β β' : Type} {R : α → α' → Prop} {S : β → β' → Prop} {cmp : α → β → Ordering}
    {cmp' : α' → β' → Ordering} {as : List α} {as' : List α'} {bs : List β} {bs' : List β'}
    (hcmp : ∀ a ∈ as, ∀ a' ∈ as', ∀ b ∈ bs, ∀ b' ∈ bs', R a a' → S b b' → cmp a b = cmp' a' b')
    (has : List.Forall₂ R as as') (hbs : List.Forall₂ S bs bs') :
    compareItems cmp as bs = compareItems cmp' as' bs' := by
  induction has generalizing bs bs' with
  | nil => rfl
  | cons ha _ ih =>
      cases hbs with
      | nil => rfl
      | cons hb hbs =>
          rw [compareItems, compareItems, hcmp _ List.mem_cons_self _ List.mem_cons_self _ List.mem_cons_self _
            List.mem_cons_self ha hb, ih ?_ hbs]
          intro a ha a' ha' b hb b' hb'
          exact hcmp a (List.mem_cons_of_mem _ ha) a' (List.mem_cons_of_mem _ ha') b (List.mem_cons_of_mem _ hb) b'
            (List.mem_cons_of_mem _ hb')

/-- Compare two lists by their lengths, and then item by item. -/
def compareLists {α : Type} (cmp : α → α → Ordering) (as bs : List α) : Ordering :=
  (compare as.length bs.length).then (compareItems cmp as bs)

/-- What is compared second matters for ties only. -/
theorem then_congr {o x y : Ordering} (h : o = .eq → x = y) : o.then x = o.then y := by
  cases o with
  | eq => exact h rfl
  | lt => rfl
  | gt => rfl

section Lists

variable {α : Type} {cmp : α → α → Ordering}

/-- Lists of one length compare in lexicographic order. -/
theorem compareItems_eq_compareLex {as bs : List α} (h : as.length = bs.length) :
    compareItems cmp as bs = List.compareLex cmp as bs := by
  induction as generalizing bs with
  | nil =>
      rw [List.length_eq_zero_iff.mp h.symm]
      rfl
  | cons a as ih =>
      cases bs with
      | nil => exact absurd h (by simp)
      | cons b bs => rw [compareItems, List.compareLex_cons_cons, ih (Nat.succ.inj h)]

theorem eq_of_compareLex [Std.LawfulEqCmp cmp] {as bs : List α} (h : List.compareLex cmp as bs = .eq) : as = bs :=
  Std.LawfulEqCmp.eq_of_compare h

theorem compareLists_eq (cmp : α → α → Ordering) :
    compareLists cmp = compareLex (compareOn List.length) (List.compareLex cmp) := by
  funext as bs
  exact then_congr fun hlength => compareItems_eq_compareLex (compare_eq_iff_eq.mp hlength)

instance [Std.TransCmp cmp] : Std.TransCmp (compareLists cmp) := by
  rw [compareLists_eq]
  infer_instance

instance [Std.LawfulEqCmp cmp] : Std.LawfulEqCmp (compareLists cmp) where
  compare_self := by
    rw [compareLists_eq]
    exact fun {as} => Ordering.then_eq_eq.mpr ⟨Std.ReflCmp.compare_self, Std.ReflCmp.compare_self⟩
  eq_of_compare := by
    rw [compareLists_eq]
    exact fun h => Std.LawfulEqCmp.eq_of_compare (Ordering.then_eq_eq.mp h).2

end Lists

/-! ## What a node shows -/

/-- All connections of the port are in the graph. -/
def Graph.Lists (g : Graph) (p : Port) : Prop := ∀ c ∈ p.connections, ∃ ends, g.connection? c = some ends

namespace Surroundings

/-- Where an output stands: its layer, its place there, and its index. -/
def outputKey (s : Surroundings) (o : OutPort) : Option Nat × Nat × Nat :=
  (s.layers.get? o.node, s.place o.node, o.index)

def compareKeys (a b : Option Nat × Nat × Nat) : Ordering :=
  (compare a.1 b.1).then ((compare a.2.1 b.2.1).then (compare a.2.2 b.2.2))

/-- Where the connections of an input come from. -/
def sources (s : Surroundings) (p : Port) : List (Option Nat × Nat × Nat) :=
  (s.graph.endsOf p).map fun e => s.outputKey e.src

/-- The layers that the connections of an output lead to. -/
def targets (s : Surroundings) (p : Port) : List (Option Nat) :=
  (s.graph.endsOf p).map fun e => s.layers.get? e.dst.node

section Compare

variable {s : Surroundings} {p q : Port}

/-- Ports are compared by what their connections show. -/
theorem comparePorts_eq {α : Type} {cmp : Connection → Connection → Ordering} (key : Connection → α)
    {cmp' : α → α → Ordering} (hcmp : ∀ c d, cmp c d = cmp' (key c) (key d)) (hp : s.graph.Lists p)
    (hq : s.graph.Lists q) :
    s.comparePorts cmp p q = compareLists cmp' ((s.graph.endsOf p).map key) ((s.graph.endsOf q).map key) := by
  have hends : ∀ {p : Port}, s.graph.Lists p → List.Forall₂ (fun c k => ∃ ends, s.graph.connection? c = some ends
      ∧ key ends = k) p.connections ((s.graph.endsOf p).map key) := by
    intro p hp
    refine List.forall₂_map_right_iff.mpr ((forall₂_filterMap hp).imp ?_)
    exact fun c ends hc => ⟨ends, hc, rfl⟩
  unfold comparePorts compareLists
  rw [(hends hp).length_eq, (hends hq).length_eq, compareItems_of_forall₂ ?_ (hends hp) (hends hq)]
  rintro c - _ - d - _ - ⟨ends, hc, rfl⟩ ⟨ends', hd, rfl⟩
  rw [hc, hd]
  exact hcmp ends ends'

theorem compareInputs_eq (hp : s.graph.Lists p) (hq : s.graph.Lists q) :
    s.comparePorts s.compareSources p q = compareLists compareKeys (s.sources p) (s.sources q) :=
  comparePorts_eq (fun e => s.outputKey e.src) (fun _ _ => rfl) hp hq

theorem compareOutputs_eq (hp : s.graph.Lists p) (hq : s.graph.Lists q) :
    s.comparePorts s.compareTargets p q = compareLists compare (s.targets p) (s.targets q) :=
  comparePorts_eq (fun e => s.layers.get? e.dst.node) (fun _ _ => rfl) hp hq

end Compare

end Surroundings

namespace Graph

variable {g : Graph} {n : NodeId} {node : Node}

theorem Registered.lists_input (h : g.Registered) (hn : g.node? n = some node) : ∀ p ∈ node.inputs, g.Lists p := by
  intro p hp c hc
  obtain ⟨i, hi⟩ := List.mem_iff_getElem?.mp hp
  have hin : g.incoming? ⟨n, i⟩ = some p.connections := by
    rw [incoming?_of_node? hn, Node.incoming, List.getElem?_map, hi]
    rfl
  obtain ⟨ends, hends, -⟩ := (h.mem_incoming _ _ c hin).mp hc
  exact ⟨ends, hends⟩

theorem Registered.lists_output (h : g.Registered) (hn : g.node? n = some node) : ∀ p ∈ node.outputs, g.Lists p := by
  intro p hp c hc
  obtain ⟨i, hi⟩ := List.mem_iff_getElem?.mp hp
  have hout : g.outgoing? ⟨n, i⟩ = some p.connections := by
    rw [outgoing?_of_node? hn, Node.outgoing, List.getElem?_map, hi]
    rfl
  obtain ⟨ends, hends, -⟩ := (h.mem_outgoing _ _ c hout).mp hc
  exact ⟨ends, hends⟩

end Graph

namespace Surroundings

theorem compareKeys_eq : compareKeys = compareLex (compareOn fun k : Option Nat × Nat × Nat => k.1)
    (compareLex (compareOn fun k => k.2.1) (compareOn fun k => k.2.2)) := rfl

instance : Std.TransCmp compareKeys := by
  rw [compareKeys_eq]
  infer_instance

instance : Std.LawfulEqCmp compareKeys where
  compare_self := by simp [compareKeys]
  eq_of_compare := by
    rintro ⟨layer, place, index⟩ ⟨layer', place', index'⟩ h
    obtain ⟨hlayer, h⟩ := Ordering.then_eq_eq.mp h
    obtain ⟨hplace, hindex⟩ := Ordering.then_eq_eq.mp h
    obtain rfl : layer = layer' := Std.LawfulEqOrd.eq_of_compare hlayer
    obtain rfl : place = place' := compare_eq_iff_eq.mp hplace
    obtain rfl : index = index' := compare_eq_iff_eq.mp hindex
    rfl

end Surroundings

/-- What is compared of a node. -/
structure Profile where
  name : String
  /-- Where the signals of each input come from. -/
  sources : List (List (Option Nat × Nat × Nat))
  /-- The layers that each output feeds. -/
  targets : List (List (Option Nat))

namespace Profile

open Surroundings (compareKeys)

def compare (p q : Profile) : Ordering :=
  (Ord.compare p.name q.name).then <|
    (Ord.compare p.sources.length q.sources.length).then <|
      (Ord.compare p.targets.length q.targets.length).then <|
        (compareItems (compareLists compareKeys) p.sources q.sources).then <|
          compareItems (compareLists Ord.compare) p.targets q.targets

/-- Profiles compare in lexicographic order. -/
theorem compare_eq : compare = compareLex (compareOn name) (compareLex (compareOn fun p => p.sources.length)
    (compareLex (compareOn fun p => p.targets.length)
      (compareLex (Ordering.byKey sources (List.compareLex (compareLists compareKeys)))
        (Ordering.byKey targets (List.compareLex (compareLists Ord.compare)))))) := by
  funext p q
  -- ports are compared only where there are as many of them
  refine then_congr fun _ => then_congr fun hsources => then_congr fun htargets => ?_
  rw [compareItems_eq_compareLex (compare_eq_iff_eq.mp hsources),
    compareItems_eq_compareLex (compare_eq_iff_eq.mp htargets)]
  rfl

instance : Std.TransCmp compare := by
  rw [compare_eq]
  infer_instance

instance : Std.LawfulEqCmp compare where
  compare_self := Std.ReflCmp.compare_self
  eq_of_compare := by
    rintro ⟨name, sources, targets⟩ ⟨name', sources', targets'⟩ h
    rw [compare_eq] at h
    obtain ⟨hname, h⟩ := Ordering.then_eq_eq.mp h
    obtain ⟨-, h⟩ := Ordering.then_eq_eq.mp h
    obtain ⟨-, h⟩ := Ordering.then_eq_eq.mp h
    obtain ⟨hsources, htargets⟩ := Ordering.then_eq_eq.mp h
    obtain rfl : name = name' := Std.LawfulEqOrd.eq_of_compare hname
    obtain rfl : sources = sources' := eq_of_compareLex hsources
    obtain rfl : targets = targets' := eq_of_compareLex htargets
    rfl

end Profile

namespace Surroundings

/-- What a node shows. -/
def profile (s : Surroundings) (n : NodeId) : Profile :=
  match s.graph.node? n with
  | some node => ⟨node.name, node.inputs.map s.sources, node.outputs.map s.targets⟩
  | none => ⟨"", [], []⟩

variable {s : Surroundings}

theorem profile_of_node? {n : NodeId} {node : Node} (hn : s.graph.node? n = some node) :
    s.profile n = ⟨node.name, node.inputs.map s.sources, node.outputs.map s.targets⟩ := by
  unfold profile
  rw [hn]

/-- Nodes compare by what they show. -/
theorem compareNodes_eq (h : s.graph.WellFormed) {a b : NodeId} (ha : a ∈ s.graph.allNodes)
    (hb : b ∈ s.graph.allNodes) : s.compareNodes a b = (s.profile a).compare (s.profile b) := by
  obtain ⟨na, hna⟩ := h.mem_allNodes.mp ha
  obtain ⟨nb, hnb⟩ := h.mem_allNodes.mp hb
  have hshow : ∀ {α : Type} (f : Port → α) (ps : List Port), List.Forall₂ (fun p k => f p = k) ps (ps.map f) :=
    fun f ps => List.forall₂_map_right_iff.mpr (List.forall₂_same.mpr fun _ _ => rfl)
  have hinputs : compareItems (s.comparePorts s.compareSources) na.inputs nb.inputs
      = compareItems (compareLists compareKeys) (na.inputs.map s.sources) (nb.inputs.map s.sources) := by
    refine compareItems_of_forall₂ ?_ (hshow _ _) (hshow _ _)
    rintro p hp - - q hq - - rfl rfl
    exact compareInputs_eq (h.lists_input hna p hp) (h.lists_input hnb q hq)
  have houtputs : compareItems (s.comparePorts s.compareTargets) na.outputs nb.outputs
      = compareItems (compareLists compare) (na.outputs.map s.targets) (nb.outputs.map s.targets) := by
    refine compareItems_of_forall₂ ?_ (hshow _ _) (hshow _ _)
    rintro p hp - - q hq - - rfl rfl
    exact compareOutputs_eq (h.lists_output hna p hp) (h.lists_output hnb q hq)
  rw [profile_of_node? hna, profile_of_node? hnb]
  unfold compareNodes Profile.compare
  rw [hna, hnb]
  dsimp only
  rw [hinputs, houtputs, List.length_map, List.length_map, List.length_map, List.length_map]

/-- Nodes tie if they show the same. -/
theorem compareNodes_eq_eq_iff (h : s.graph.WellFormed) {a b : NodeId} (ha : a ∈ s.graph.allNodes)
    (hb : b ∈ s.graph.allNodes) : s.compareNodes a b = .eq ↔ s.profile a = s.profile b := by
  rw [compareNodes_eq h ha hb]
  exact Std.LawfulEqCmp.compare_eq_iff_eq

end Surroundings

/-! ## Sorting -/

/-- Items in ascending order, those that tie as they stood before. -/
structure SortsStably {α : Type} (cmp : α → α → Ordering) (xs ys : List α) : Prop where
  /-- They are the same items. -/
  perm : ys.Perm xs
  ascending : ys.Pairwise fun a b => (cmp a b).isLE
  /-- What ties with an item stands in the order in which it stood. -/
  ties : ∀ x ∈ xs, ys.filter (fun y => cmp x y == .eq) = xs.filter fun y => cmp x y == .eq

section Sorting

variable {α : Type} {cmp cmp' : α → α → Ordering} {xs ys zs : List α}

theorem SortsStably.congr (h : SortsStably cmp xs ys) (hcmp : ∀ a ∈ xs, ∀ b ∈ xs, cmp' a b = cmp a b) :
    SortsStably cmp' xs ys where
  perm := h.perm
  ascending := by
    refine h.ascending.imp_of_mem ?_
    intro a b ha hb hle
    rwa [hcmp a (h.perm.mem_iff.mp ha) b (h.perm.mem_iff.mp hb)]
  ties := by
    intro x hx
    have hsame : ∀ y ∈ xs, (cmp' x y == .eq) = (cmp x y == .eq) := fun y hy => by rw [hcmp x hx y hy]
    rw [List.filter_congr hsame, List.filter_congr fun y hy => hsame y (h.perm.mem_iff.mp hy)]
    exact h.ties x hx

variable [Std.TransCmp cmp]

/-- The first of some ascending items is the lowest. -/
theorem isLE_of_ascending {y z : α} (h : (y :: ys).Pairwise fun a b => (cmp a b).isLE) (hz : z ∈ y :: ys) :
    (cmp y z).isLE := by
  rcases List.mem_cons.mp hz with rfl | hz
  · exact Std.ReflCmp.isLE_rfl
  · exact List.rel_of_pairwise_cons h hz

/-- Two ascending lists of the same items are one list if items that tie stand in one order. -/
theorem eq_of_ascending (hperm : ys.Perm zs) (hys : ys.Pairwise fun a b => (cmp a b).isLE)
    (hzs : zs.Pairwise fun a b => (cmp a b).isLE)
    (hties : ∀ x ∈ ys, ys.filter (fun y => cmp x y == .eq) = zs.filter fun y => cmp x y == .eq) : ys = zs := by
  induction ys generalizing zs with
  | nil => exact (List.nil_perm.mp hperm).symm
  | cons y ys ih =>
      cases zs with
      | nil => exact absurd (List.perm_nil.mp hperm) (by simp)
      | cons z zs =>
          -- each of the two first items is lowest, so they tie, and the first of what ties with them is both
          have hyz := isLE_of_ascending hys (hperm.mem_iff.mpr List.mem_cons_self)
          have hzy := isLE_of_ascending hzs (hperm.mem_iff.mp List.mem_cons_self)
          have hself : cmp y y = .eq := Std.ReflCmp.compare_self
          have htied : cmp y z = .eq := Std.OrientedCmp.isLE_antisymm hyz hzy
          have hfirst := hties y List.mem_cons_self
          rw [List.filter_cons, List.filter_cons, hself, htied] at hfirst
          injection hfirst with hfirst hrest
          subst hfirst
          congr 1
          refine ih hperm.cons_inv hys.of_cons hzs.of_cons ?_
          intro x hx
          have htie := hties x (List.mem_cons_of_mem _ hx)
          rw [List.filter_cons, List.filter_cons] at htie
          split at htie
          · injection htie
          · exact htie

theorem SortsStably.unique (h : SortsStably cmp xs ys) (h' : SortsStably cmp xs zs) : ys = zs := by
  refine eq_of_ascending (h.perm.trans h'.perm.symm) h.ascending h'.ascending ?_
  intro x hx
  have hx := h.perm.mem_iff.mp hx
  exact (h.ties x hx).trans (h'.ties x hx).symm

theorem sortsStably_mergeSort (xs : List α) : SortsStably cmp xs (xs.mergeSort fun a b => cmp a b != .gt) := by
  have hle : ∀ a b, (cmp a b != .gt) = (cmp a b).isLE := fun a b => by cases cmp a b <;> rfl
  simp only [hle]
  have htrans : ∀ a b c, (cmp a b).isLE → (cmp b c).isLE → (cmp a c).isLE := fun _ _ _ => Std.TransCmp.isLE_trans
  have htotal : ∀ a b, (cmp a b).isLE || (cmp b a).isLE := by
    intro a b
    have hswap : cmp b a = (cmp a b).swap := Std.OrientedCmp.eq_swap
    rw [hswap]
    cases cmp a b <;> rfl
  refine ⟨List.mergeSort_perm _ _, List.pairwise_mergeSort htrans htotal xs, ?_⟩
  intro x _
  -- what ties with one item ascends, so sorting keeps it in order
  have hascending : (xs.filter fun y => cmp x y == .eq).Pairwise fun a b => (cmp a b).isLE := by
    refine List.pairwise_iff_forall_sublist.mpr ?_
    intro a b hab
    have ha := (List.mem_filter.mp (hab.subset (List.mem_cons_self))).2
    have hb := (List.mem_filter.mp (hab.subset (List.mem_cons_of_mem _ List.mem_cons_self))).2
    rw [beq_iff_eq] at ha hb
    exact Ordering.isLE_of_eq_eq (Std.TransCmp.eq_trans (Std.OrientedCmp.eq_symm ha) hb)
  have hsub := (List.sublist_mergeSort htrans htotal hascending List.filter_sublist).filter fun y => cmp x y == .eq
  rw [List.filter_filter] at hsub
  simp only [Bool.and_self] at hsub
  exact (hsub.eq_of_length ((List.mergeSort_perm _ _).filter _).length_eq.symm).symm

end Sorting

namespace Surroundings

variable {s : Surroundings}

/-- The nodes of the graph are in a total preorder, and sorting some of them has one result. -/
structure OrdersNodes (s : Surroundings) : Prop where
  self : ∀ a ∈ s.graph.allNodes, s.compareNodes a a = .eq
  swap : ∀ a ∈ s.graph.allNodes, ∀ b ∈ s.graph.allNodes, s.compareNodes b a = (s.compareNodes a b).swap
  trans : ∀ a ∈ s.graph.allNodes, ∀ b ∈ s.graph.allNodes, ∀ c ∈ s.graph.allNodes,
    (s.compareNodes a b).isLE → (s.compareNodes b c).isLE → (s.compareNodes a c).isLE
  /-- What any stable sorting of the nodes comes to is what merge sort comes to. -/
  sorts : ∀ ns, ns ⊆ s.graph.allNodes → ∀ sorted,
    SortsStably s.compareNodes ns sorted ↔ sorted = ns.mergeSort fun a b => s.compareNodes a b != .gt

/-- The order of profiles is that of the nodes, with whatever layers and places. -/
theorem ordersNodes (h : s.graph.WellFormed) : s.OrdersNodes where
  self := fun _ ha => (compareNodes_eq_eq_iff h ha ha).mpr rfl
  swap := by
    intro a ha b hb
    rw [compareNodes_eq h ha hb, compareNodes_eq h hb ha]
    exact Std.OrientedCmp.eq_swap
  trans := by
    intro a ha b hb c hc
    rw [compareNodes_eq h ha hb, compareNodes_eq h hb hc, compareNodes_eq h ha hc]
    exact Std.TransCmp.isLE_trans
  sorts := by
    intro ns hns sorted
    -- comparing is transitive on nodes of the graph only, but only those are compared, so profiles may stand in
    let cmp := Ordering.byKey s.profile Profile.compare
    have hcmp : ∀ a ∈ ns, ∀ b ∈ ns, s.compareNodes a b = cmp a b :=
      fun a ha b hb => compareNodes_eq h (hns ha) (hns hb)
    have hmerge : (ns.mergeSort fun a b => s.compareNodes a b != .gt) = ns.mergeSort fun a b => cmp a b != .gt := by
      have hmap := List.map_mergeSort (f := id) (r := fun a b => s.compareNodes a b != .gt)
        (s := fun a b => cmp a b != .gt) (l := ns) fun a ha b hb => congrArg (· != .gt) (hcmp a ha b hb)
      rwa [List.map_id, List.map_id] at hmap
    rw [hmerge]
    constructor
    · intro hsorted
      exact (hsorted.congr fun a ha b hb => (hcmp a ha b hb).symm).unique (sortsStably_mergeSort ns)
    · rintro rfl
      exact (sortsStably_mergeSort ns).congr hcmp

end Surroundings

end SignalGraph
