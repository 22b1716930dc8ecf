import Mathlib.Data.List.Chain
import Mathlib.Data.List.Sections
import Mathlib.Data.Nat.Factorial.Basic
import SignalGraph.Proofs.Arrangement.Reordering

/-!
# Every permutation has its turn

From ascending numbers on, the step to the next permutation visits all permutations of these numbers. They are
written down by their first numbers (`inOrder`): in front those that start with the least number, and within these
in the same way by the numbers that follow. A step stays among the permutations with one first number until the
numbers behind it are descending. Then it goes to the block of the next greater number, where they are ascending.

Counting on in a row of permutations visits all combinations of them (`walks_rows`), for a permutation that has
come to its end is back at its start when the next one goes on.
-/

namespace SignalGraph

/-- Some things in the order in which they are visited: from a first one to the next, until there is no next one. -/
structure Walks {α : Type} (next : α → Option α) (first : α) (all : List α) : Prop where
  head : all.head? = some first
  chain : all.IsChain fun a b => next a = some b
  last : ∀ a ∈ all.getLast?, next a = none

section Blocks

variable {α β : Type}

theorem head?_flatMap_of_some {a : α} {b : β} {as : List α} {f : α → List β} (ha : as.head? = some a)
    (hb : (f a).head? = some b) : (as.flatMap f).head? = some b := by
  obtain ⟨as, rfl⟩ := List.head?_eq_some_iff.mp ha
  rw [List.head?_flatMap, List.findSome?_cons, hb]

theorem getLast?_flatMap_of_some {a : α} {b : β} {as : List α} {f : α → List β} (ha : as.getLast? = some a)
    (hb : (f a).getLast? = some b) : (as.flatMap f).getLast? = some b := by
  obtain ⟨as, rfl⟩ := List.getLast?_eq_some_iff.mp ha
  rw [List.getLast?_flatMap, List.reverse_concat, List.findSome?_cons, hb]

/-- Blocks that are walked through, where the last entry of each leads to the first one of the next block. -/
theorem isChain_flatMap {r : β → β → Prop} {as : List α} {f : α → List β} (hne : ∀ a ∈ as, f a ≠ [])
    (hblock : ∀ a ∈ as, (f a).IsChain r)
    (hbetween : as.IsChain fun a a' => ∀ b ∈ (f a).getLast?, ∀ b' ∈ (f a').head?, r b b') :
    (as.flatMap f).IsChain r := by
  rw [List.flatMap_def, List.isChain_flatten, List.isChain_map]
  · refine ⟨?_, hbetween⟩
    intro block hmem
    obtain ⟨a, ha, rfl⟩ := List.mem_map.mp hmem
    exact hblock a ha
  · intro hmem
    obtain ⟨a, ha, hempty⟩ := List.mem_map.mp hmem
    exact hne a ha hempty

end Blocks

/-! ## One permutation -/

/-- The lists of `n` of some numbers, each of which is taken once, by the places of the first ones. -/
def inOrder : Nat → List Nat → List (List Nat)
  | 0, _ => [[]]
  | n + 1, l => l.flatMap fun a => (inOrder n (l.erase a)).map (a :: ·)

theorem length_erase_of_succ {n a : Nat} {l : List Nat} (hn : l.length = n + 1) (ha : a ∈ l) :
    (l.erase a).length = n := by
  rw [List.length_erase_of_mem ha, hn, Nat.add_sub_cancel]

theorem length_inOrder {n : Nat} {l : List Nat} (hn : l.length = n) : (inOrder n l).length = n.factorial := by
  induction n generalizing l with
  | zero => rfl
  | succ n ih =>
      have hblock : ∀ a ∈ l, ((inOrder n (l.erase a)).map (a :: ·)).length = n.factorial := by
        intro a ha
        rw [List.length_map, ih (length_erase_of_succ hn ha)]
      unfold inOrder
      rw [List.length_flatMap, List.map_congr_left hblock, List.map_const', List.sum_replicate_nat, hn,
        Nat.factorial_succ]

theorem mem_inOrder {n : Nat} {l p : List Nat} (hn : l.length = n) : p ∈ inOrder n l ↔ p.Perm l := by
  induction n generalizing l p with
  | zero =>
      rw [List.length_eq_zero_iff.mp hn, List.perm_nil]
      exact List.mem_singleton
  | succ n ih =>
      unfold inOrder
      rw [List.mem_flatMap]
      constructor
      · rintro ⟨a, ha, hp⟩
        obtain ⟨q, hq, rfl⟩ := List.mem_map.mp hp
        exact List.cons_perm_iff_perm_erase.mpr ⟨ha, (ih (length_erase_of_succ hn ha)).mp hq⟩
      · intro hp
        cases p with
        | nil => exact absurd (hp.length_eq.trans hn) (by simp)
        | cons a q =>
            obtain ⟨ha, hq⟩ := List.cons_perm_iff_perm_erase.mp hp
            exact ⟨a, ha, List.mem_map.mpr ⟨q, (ih (length_erase_of_succ hn ha)).mpr hq, rfl⟩⟩

theorem inOrder_ne_nil {n : Nat} {l : List Nat} (hn : l.length = n) : inOrder n l ≠ [] :=
  List.ne_nil_of_mem ((mem_inOrder hn).mpr (.refl l))

theorem head?_inOrder {n : Nat} {l : List Nat} (hn : l.length = n) : (inOrder n l).head? = some l := by
  induction n generalizing l with
  | zero =>
      rw [List.length_eq_zero_iff.mp hn]
      rfl
  | succ n ih =>
      obtain ⟨a, l, rfl⟩ := List.exists_cons_of_length_eq_add_one hn
      refine head?_flatMap_of_some List.head?_cons ?_
      rw [List.erase_cons_head, List.head?_map, ih (Nat.add_right_cancel hn)]
      rfl

section Ascending

variable {n a b : Nat} {l before behind : List Nat}

theorem not_mem_of_ascending (hl : (before ++ a :: behind).Pairwise (· < ·)) : a ∉ before := by
  obtain ⟨-, -, hless⟩ := List.pairwise_append.mp hl
  intro hmem
  exact Nat.lt_irrefl a (hless a hmem a List.mem_cons_self)

theorem erase_of_ascending (hl : (before ++ a :: behind).Pairwise (· < ·)) :
    (before ++ a :: behind).erase a = before ++ behind := by
  rw [List.erase_append_right _ (not_mem_of_ascending hl), List.erase_cons_head]

/-- Of ascending numbers, the last permutation is the one backwards. -/
theorem getLast?_inOrder (hn : l.length = n) (hl : l.Pairwise (· < ·)) :
    (inOrder n l).getLast? = some l.reverse := by
  induction n generalizing l with
  | zero =>
      rw [List.length_eq_zero_iff.mp hn]
      rfl
  | succ n ih =>
      rcases List.eq_nil_or_concat' l with rfl | ⟨l, b, rfl⟩
      · exact absurd hn (by simp)
      · obtain ⟨hbefore, -, -⟩ := List.pairwise_append.mp hl
        rw [List.length_append, List.length_singleton, Nat.add_right_cancel_iff] at hn
        refine getLast?_flatMap_of_some List.getLast?_concat ?_
        rw [erase_of_ascending hl, List.append_nil, List.getLast?_map, ih hn hbefore, List.reverse_concat]
        rfl

/-- Behind descending numbers there is no permutation of them. -/
theorem nextPermutation?_of_descending (hl : l.Pairwise (· > ·)) : nextPermutation? l = none := by
  induction l with
  | nil => rfl
  | cons a l ih =>
      obtain ⟨hgreatest, hl⟩ := List.pairwise_cons.mp hl
      have hnone : l.reverse.find? (a < ·) = none := by
        rw [List.find?_eq_none]
        intro b hb
        have hless := hgreatest b (List.mem_reverse.mp hb)
        rw [decide_eq_true_eq]
        omega
      unfold nextPermutation?
      rw [ih hl]
      dsimp only
      rw [hnone]
      rfl

theorem nextPermutation?_reverse (hl : l.Pairwise (· < ·)) : nextPermutation? l.reverse = none :=
  nextPermutation?_of_descending (List.pairwise_reverse.mpr hl)

/-- When the numbers behind the first one are descending, the next greater one takes its place. -/
theorem nextPermutation?_cons_reverse (hl : (before ++ a :: b :: behind).Pairwise (· < ·)) :
    nextPermutation? (a :: (before ++ b :: behind).reverse) = some (b :: (before ++ a :: behind)) := by
  obtain ⟨-, hrest, hless⟩ := List.pairwise_append.mp hl
  obtain ⟨hfirst, -⟩ := List.pairwise_cons.mp hrest
  have hascending : (before ++ b :: behind).Pairwise (· < ·) :=
    hl.sublist ((List.sublist_cons_self a _).append_left before)
  have hfind : (before ++ b :: behind).find? (a < ·) = some b := by
    have hnone : before.find? (a < ·) = none := by
      rw [List.find?_eq_none]
      intro c hc
      have hlt := hless c hc a List.mem_cons_self
      rw [decide_eq_true_eq]
      omega
    rw [List.find?_append, hnone, Option.none_or]
    exact List.find?_cons_of_pos (decide_eq_true (hfirst b List.mem_cons_self))
  unfold nextPermutation?
  rw [nextPermutation?_reverse hascending]
  dsimp only
  rw [List.reverse_reverse, hfind, Option.map_some,
    List.replace_append_right (not_mem_of_ascending hascending), List.replace_cons_self]

/-- The step to the next permutation visits the permutations of ascending numbers in their order. -/
theorem isChain_inOrder (hn : l.length = n) (hl : l.Pairwise (· < ·)) :
    (inOrder n l).IsChain fun p q => nextPermutation? p = some q := by
  induction n generalizing l with
  | zero => exact .singleton []
  | succ n ih =>
      refine isChain_flatMap ?_ ?_ ?_
      · intro a ha
        rw [ne_eq, List.map_eq_nil_iff]
        exact inOrder_ne_nil (length_erase_of_succ hn ha)
      · -- as long as the numbers behind the first one have a next permutation, the first one stays
        intro a ha
        rw [List.isChain_map]
        refine (ih (length_erase_of_succ hn ha) (hl.erase a)).imp ?_
        intro p q hpq
        unfold nextPermutation?
        rw [hpq]
      · -- from the last permutation of one block to the first one of the next
        rw [List.isChain_iff_forall_rel_of_append_cons_cons]
        rintro a b before behind rfl p hp q hq
        have ha : a ∈ before ++ a :: b :: behind := List.mem_append_right _ List.mem_cons_self
        have hb : b ∈ before ++ a :: b :: behind :=
          List.mem_append_right _ (List.mem_cons_of_mem _ List.mem_cons_self)
        have herase : (before ++ a :: b :: behind).erase b = before ++ a :: behind := by
          rw [List.append_cons] at hl ⊢
          rw [erase_of_ascending hl, ← List.append_cons]
        rw [List.getLast?_map, getLast?_inOrder (length_erase_of_succ hn ha) (hl.erase a),
          erase_of_ascending hl] at hp
        rw [List.head?_map, head?_inOrder (length_erase_of_succ hn hb), herase] at hq
        injection hp with hp
        injection hq with hq
        subst hp hq
        exact nextPermutation?_cons_reverse hl

end Ascending

/-! ## A row of permutations -/

theorem advanceAll?_cons_of_some {p q : List Nat} (h : nextPermutation? p = some q) (ps : List (List Nat)) :
    advanceAll? (p :: ps) = some (q :: ps) := by
  unfold advanceAll? advancePermutation
  rw [h]

theorem advanceAll?_cons_of_none {p : List Nat} (h : nextPermutation? p = none) (ps : List (List Nat)) :
    advanceAll? (p :: ps) = (advanceAll? ps).map (p.reverse :: ·) := by
  rw [advanceAll?, advancePermutation, h]

/-- All rows that have a permutation of each of some lists of numbers in its place. -/
def rows (starts : List (List Nat)) : List (List (List Nat)) :=
  (starts.map fun l => inOrder l.length l).sections

theorem rows_cons (l : List Nat) (starts : List (List Nat)) :
    rows (l :: starts) = (rows starts).flatMap fun ps => (inOrder l.length l).map (· :: ps) := rfl

theorem mem_rows {starts ps : List (List Nat)} : ps ∈ rows starts ↔ List.Forall₂ List.Perm ps starts := by
  unfold rows
  rw [List.mem_sections, List.forall₂_map_right_iff]
  exact ⟨.imp fun _ _ => (mem_inOrder rfl).mp, .imp fun _ _ => (mem_inOrder rfl).mpr⟩

theorem length_rows (starts : List (List Nat)) :
    (rows starts).length = (starts.map fun l => l.length.factorial).prod := by
  induction starts with
  | nil => rfl
  | cons l starts ih =>
      rw [rows_cons, List.length_flatMap, List.map_congr_left fun ps _ => List.length_map _, List.map_const',
        List.sum_replicate_nat, ih, length_inOrder rfl, List.map_cons, List.prod_cons, Nat.mul_comm]

theorem head?_rows (starts : List (List Nat)) : (rows starts).head? = some starts := by
  induction starts with
  | nil => rfl
  | cons l starts ih =>
      rw [rows_cons]
      refine head?_flatMap_of_some ih ?_
      rw [List.head?_map, head?_inOrder rfl]
      rfl

section Ascending

variable {starts : List (List Nat)}

theorem getLast?_rows (hstarts : ∀ l ∈ starts, l.Pairwise (· < ·)) :
    (rows starts).getLast? = some (starts.map List.reverse) := by
  induction starts with
  | nil => rfl
  | cons l starts ih =>
      obtain ⟨hl, hstarts⟩ := List.forall_mem_cons.mp hstarts
      rw [rows_cons]
      refine getLast?_flatMap_of_some (ih hstarts) ?_
      rw [List.getLast?_map, getLast?_inOrder rfl hl]
      rfl

theorem isChain_rows (hstarts : ∀ l ∈ starts, l.Pairwise (· < ·)) :
    (rows starts).IsChain fun ps qs => advanceAll? ps = some qs := by
  induction starts with
  | nil => exact .singleton []
  | cons l starts ih =>
      obtain ⟨hl, hstarts⟩ := List.forall_mem_cons.mp hstarts
      rw [rows_cons]
      refine isChain_flatMap ?_ ?_ ?_
      · intro ps _
        rw [ne_eq, List.map_eq_nil_iff]
        exact inOrder_ne_nil rfl
      · intro ps _
        rw [List.isChain_map]
        exact (isChain_inOrder rfl hl).imp fun p q hpq => advanceAll?_cons_of_some hpq ps
      · refine (ih hstarts).imp ?_
        -- the first permutation is back at its start when the others go on
        intro ps qs hpq p hp q hq
        rw [List.getLast?_map, getLast?_inOrder rfl hl] at hp
        rw [List.head?_map, head?_inOrder rfl] at hq
        injection hp with hp
        injection hq with hq
        subst hp hq
        rw [advanceAll?_cons_of_none (nextPermutation?_reverse hl), hpq, List.reverse_reverse]
        rfl

theorem advanceAll?_reverse (hstarts : ∀ l ∈ starts, l.Pairwise (· < ·)) :
    advanceAll? (starts.map List.reverse) = none := by
  induction starts with
  | nil => rfl
  | cons l starts ih =>
      obtain ⟨hl, hstarts⟩ := List.forall_mem_cons.mp hstarts
      rw [List.map_cons, advanceAll?_cons_of_none (nextPermutation?_reverse hl), ih hstarts]
      rfl

/-- **All combinations are visited** when counting on from ascending numbers. -/
theorem walks_rows (hstarts : ∀ l ∈ starts, l.Pairwise (· < ·)) : Walks advanceAll? starts (rows starts) where
  head := head?_rows starts
  chain := isChain_rows hstarts
  last := by
    intro ps hps
    rw [getLast?_rows hstarts] at hps
    injection hps with hps
    subst hps
    exact advanceAll?_reverse hstarts

end Ascending

end SignalGraph
