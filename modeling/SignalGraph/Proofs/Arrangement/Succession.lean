import Mathlib.Logic.Function.Iterate
import SignalGraph.Proofs.Arrangement.Permutations

/-!
# The step to the next permutation

`inOrder` lists the permutations of ascending numbers in lexicographic order (`inOrder_ascending`). Whatever order
distinct numbers stand in, it has one place in that list, so the step goes to what stands behind it there, and nothing
lies between the two (`Succeeds`). At the end of the list the numbers are descending, and backwards they are the first
entry again.

Step by step from `0, 1, …, n - 1` on, the list is read from its beginning to its end (`turn_eq_getElem`), and the
step that follows leads back to the beginning.
-/

namespace SignalGraph

variable {l p q : List Nat}

/-- The permutation that comes next in lexicographic order. -/
structure Succeeds (l q : List Nat) : Prop where
  /-- The numbers are the same. -/
  perm : q.Perm l
  /-- It is greater. -/
  greater : l < q
  /-- No permutation lies between the two. -/
  nothing_between : ∀ p, p.Perm l → ¬(l < p ∧ p < q)

/-- The order of the permutations after some steps from the ascending one. -/
def turn (n k : Nat) : List Nat := (fun l => (advancePermutation l).2)^[k] (List.range n)

/-! ## The permutations in lexicographic order -/

/-- Of ascending numbers, the permutations are listed in ascending order. -/
theorem inOrder_ascending {n : Nat} (hn : l.length = n) (hl : l.Pairwise (· < ·)) :
    (inOrder n l).Pairwise (· < ·) := by
  induction n generalizing l with
  | zero => exact List.pairwise_singleton _ _
  | succ n ih =>
      refine List.pairwise_flatMap.mpr ⟨?_, hl.imp ?_⟩
      · -- behind one first number, the rest decides
        intro a ha
        rw [List.pairwise_map]
        refine (ih (length_erase_of_succ hn ha) (hl.erase a)).imp ?_
        intro p q hpq
        exact List.cons_lt_cons_iff.mpr (Or.inr ⟨rfl, hpq⟩)
      · intro a b hab p hp q hq
        obtain ⟨p, -, rfl⟩ := List.mem_map.mp hp
        obtain ⟨q, -, rfl⟩ := List.mem_map.mp hq
        exact List.cons_lt_cons_iff.mpr (Or.inl hab)

/-- Distinct numbers can be put in ascending order. -/
theorem exists_ascending (hl : l.Nodup) : ∃ s : List Nat, s.Perm l ∧ s.Pairwise (· < ·) := by
  have hperm := List.mergeSort_perm l (fun a b => decide (a ≤ b))
  have hsorted : (l.mergeSort fun a b => decide (a ≤ b)).Pairwise fun a b => decide (a ≤ b) = true := by
    refine List.pairwise_mergeSort ?_ ?_ l
    · intro a b c hab hbc
      exact decide_eq_true (Nat.le_trans (of_decide_eq_true hab) (of_decide_eq_true hbc))
    · intro a b
      rw [Bool.or_eq_true, decide_eq_true_eq, decide_eq_true_eq]
      exact Nat.le_total a b
  refine ⟨_, hperm, hsorted.imp₂ ?_ (hperm.nodup_iff.mpr hl)⟩
  intro a b hle hne
  exact Nat.lt_of_le_of_ne (of_decide_eq_true hle) hne

/-! ## One step -/

/-- What stands behind a permutation in the list of all of them comes next in lexicographic order. -/
theorem succeeds_of_inOrder {s : List Nat} (hs : s.Pairwise (· < ·)) {before behind : List (List Nat)}
    (h : inOrder s.length s = before ++ l :: q :: behind) : Succeeds l q := by
  have hl : l.Perm s := (mem_inOrder rfl).mp (by rw [h]; simp)
  have hq : q.Perm s := (mem_inOrder rfl).mp (by rw [h]; simp)
  have hsorted := inOrder_ascending rfl hs
  rw [h] at hsorted
  obtain ⟨-, hrest, hbefore⟩ := List.pairwise_append.mp hsorted
  obtain ⟨hfirst, hrest⟩ := List.pairwise_cons.mp hrest
  obtain ⟨hsecond, -⟩ := List.pairwise_cons.mp hrest
  refine ⟨hq.trans hl.symm, hfirst q List.mem_cons_self, ?_⟩
  rintro p hp ⟨hlp, hpq⟩
  have hmem : p ∈ inOrder s.length s := (mem_inOrder rfl).mpr (hp.trans hl)
  rw [h, List.mem_append, List.mem_cons, List.mem_cons] at hmem
  rcases hmem with hmem | rfl | rfl | hmem
  · exact List.lt_asymm hlp (hbefore p hmem l List.mem_cons_self)
  · exact List.lt_irrefl p hlp
  · exact List.lt_irrefl p hpq
  · exact List.lt_asymm hpq (hsecond p hmem)

/-- The last permutation is the one backwards, and it has no greater one. -/
theorem greatest_of_inOrder {s : List Nat} (hs : s.Pairwise (· < ·)) {before : List (List Nat)}
    (h : inOrder s.length s = before ++ [l]) : l = s.reverse ∧ ∀ p, p.Perm l → ¬l < p := by
  have hlast := getLast?_inOrder rfl hs
  rw [h, List.getLast?_concat] at hlast
  injection hlast with hlast
  refine ⟨hlast, fun p hp hless => ?_⟩
  have hsorted := inOrder_ascending rfl hs
  have hmem : p ∈ inOrder s.length s := (mem_inOrder rfl).mpr (hp.trans (hlast ▸ s.reverse_perm))
  rw [h] at hsorted hmem
  rcases List.mem_append.mp hmem with hmem | hmem
  · exact List.lt_asymm hless ((List.pairwise_append.mp hsorted).2.2 p hmem l List.mem_cons_self)
  · exact List.lt_irrefl l (List.mem_singleton.mp hmem ▸ hless)

theorem advancePermutation_of_some (h : nextPermutation? l = some q) : advancePermutation l = (true, q) := by
  unfold advancePermutation
  rw [h]

theorem advancePermutation_reverse {s : List Nat} (hs : s.Pairwise (· < ·)) :
    advancePermutation s.reverse = (false, s) := by
  unfold advancePermutation
  rw [nextPermutation?_reverse hs]
  dsimp only
  rw [List.reverse_reverse]

/-- The step leads to the next permutation as long as there is one, and then back to the ascending one. -/
structure Advances (l : List Nat) : Prop where
  next : (∃ p, p.Perm l ∧ l < p) → ∃ q, advancePermutation l = (true, q) ∧ Succeeds l q
  restart : (¬∃ p, p.Perm l ∧ l < p) →
    ∃ s, advancePermutation l = (false, s) ∧ s.Perm l ∧ s.Pairwise (· < ·)

theorem advances_of_nodup (hl : l.Nodup) : Advances l := by
  obtain ⟨s, hperm, hs⟩ := exists_ascending hl
  obtain ⟨before, behind, h⟩ := List.append_of_mem ((mem_inOrder rfl).mpr hperm.symm)
  cases behind with
  | nil =>
      obtain ⟨hlast, hgreatest⟩ := greatest_of_inOrder hs h
      refine ⟨fun ⟨p, hp, hless⟩ => absurd hless (hgreatest p hp), fun _ => ⟨s, ?_, hperm, hs⟩⟩
      rw [hlast, advancePermutation_reverse hs]
  | cons q behind =>
      have hnext := List.isChain_iff_forall_rel_of_append_cons_cons.mp (isChain_inOrder rfl hs) h
      have hsucceeds := succeeds_of_inOrder hs h
      refine ⟨fun _ => ⟨q, advancePermutation_of_some hnext, hsucceeds⟩, fun hnone => ?_⟩
      exact absurd ⟨q, hsucceeds.perm, hsucceeds.greater⟩ hnone

/-! ## Step by step -/

theorem turn_succ (n k : Nat) : turn n (k + 1) = (advancePermutation (turn n k)).2 :=
  Function.iterate_succ_apply' _ k _

/-- Step by step, the list of all permutations is read from its beginning. -/
theorem turn_eq_getElem {n k : Nat} (hk : k < (inOrder n (List.range n)).length) :
    turn n k = (inOrder n (List.range n))[k] := by
  have hn : (List.range n).length = n := List.length_range
  induction k with
  | zero =>
      have hhead := head?_inOrder hn
      rw [List.head?_eq_getElem?, List.getElem?_eq_getElem hk] at hhead
      exact (Option.some.inj hhead).symm
  | succ k ih =>
      have hnext := List.isChain_iff_getElem.mp (isChain_inOrder hn List.pairwise_lt_range) k hk
      rw [turn_succ, ih (Nat.lt_of_succ_lt hk), advancePermutation_of_some hnext]

/-- All permutations of `0, 1, …, n - 1` have their turn once, and behind the last one comes the first. -/
structure TakeTurns (n : Nat) : Prop where
  /-- Each permutation has its turn at one place. -/
  once : ∀ p, p.Perm (List.range n) → ∃! k, k < n.factorial ∧ turn n k = p
  /-- At every place there is a permutation. -/
  perm : ∀ k < n.factorial, (turn n k).Perm (List.range n)
  /-- The last of `n!` calls, and no one before it, tells that there is no next permutation. -/
  tells : ∀ k < n.factorial, (advancePermutation (turn n k)).1 = true ↔ k + 1 < n.factorial
  /-- The last of `n!` calls leads back to the start. -/
  back : turn n n.factorial = List.range n

theorem takeTurns (n : Nat) : TakeTurns n := by
  have hn : (List.range n).length = n := List.length_range
  have hsorted : (List.range n).Pairwise (· < ·) := List.pairwise_lt_range
  have hlength : (inOrder n (List.range n)).length = n.factorial := length_inOrder hn
  have hpos : 0 < n.factorial := Nat.factorial_pos n
  have hnodup : (inOrder n (List.range n)).Nodup := by
    refine (inOrder_ascending hn hsorted).imp ?_
    rintro p _ hless rfl
    exact List.lt_irrefl p hless
  have hget : ∀ k < n.factorial, (inOrder n (List.range n))[k]? = some (turn n k) := by
    intro k hk
    rw [← hlength] at hk
    rw [turn_eq_getElem hk, List.getElem?_eq_getElem hk]
  have hlast : advancePermutation (turn n (n.factorial - 1)) = (false, List.range n) := by
    have hend := getLast?_inOrder hn hsorted
    rw [List.getLast?_eq_getElem?, hlength, hget _ (by omega)] at hend
    injection hend with hend
    rw [hend, advancePermutation_reverse hsorted]
  refine ⟨?_, ?_, ?_, ?_⟩
  · intro p hp
    obtain ⟨k, hk, rfl⟩ := List.mem_iff_getElem.mp ((mem_inOrder hn).mpr hp)
    refine ⟨k, ⟨hlength ▸ hk, turn_eq_getElem hk⟩, ?_⟩
    rintro j ⟨hj, hsame⟩
    rw [← hlength] at hj
    rw [turn_eq_getElem hj] at hsame
    exact (hnodup.getElem_inj_iff).mp hsame
  · intro k hk
    exact (mem_inOrder hn).mp (List.mem_of_getElem? (hget k hk))
  · intro k hk
    rcases Nat.lt_or_ge (k + 1) n.factorial with hlt | hge
    · have hnext := List.isChain_iff_getElem.mp (isChain_inOrder hn hsorted) k (hlength.symm ▸ hlt)
      rw [← turn_eq_getElem] at hnext
      rw [advancePermutation_of_some hnext]
      exact iff_of_true rfl hlt
    · rw [show k = n.factorial - 1 by omega, hlast]
      exact iff_of_false Bool.false_ne_true (by omega)
  · have hstep := turn_succ n (n.factorial - 1)
    rwa [Nat.sub_add_cancel hpos, hlast] at hstep

/--
**The permutations take turns.** Whatever distinct numbers a list holds, the step leads to the permutation that comes
next in lexicographic order, and from the last one back to the ascending one. So from `0, 1, …, n - 1` on, each
permutation of these numbers has its turn once in `n!` steps, and the last of them leads back to the start.
-/
theorem permutations_take_turns : (∀ l : List Nat, l.Nodup → Advances l) ∧ ∀ n, TakeTurns n :=
  ⟨fun _ => advances_of_nodup, takeTurns⟩

/-- A step in the midst of the permutations of four numbers, in front of a descending end, and the last step. -/
theorem middle_takes_turn :
    [2, 9, 7, 4].Nodup ∧ Advances [2, 9, 7, 4] ∧ Succeeds [2, 9, 7, 4] [4, 2, 7, 9]
      ∧ advancePermutation [9, 7, 4, 2] = (false, [2, 4, 7, 9]) := by
  have hnodup : [2, 9, 7, 4].Nodup := by decide
  have hadvances := permutations_take_turns.1 _ hnodup
  obtain ⟨q, hq, hsucceeds⟩ := hadvances.next ⟨[4, 2, 7, 9], by decide, by decide⟩
  have hstep : advancePermutation [2, 9, 7, 4] = (true, [4, 2, 7, 9]) := by decide
  rw [hstep] at hq
  injection hq with _ hq
  exact ⟨hnodup, hadvances, hq ▸ hsucceeds, by decide⟩

end SignalGraph
