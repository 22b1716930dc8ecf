import Mathlib.Data.List.Forall2
import Mathlib.Data.List.Induction
import Mathlib.Data.List.Nodup

/-!
# Lists, item by item

Programs are generated in `Except` and run in `Option`. What a row of such computations gives is stated item
by item, through `List.Forall₂`, and so is what becomes of a list when one item of it is changed. The last
section is about names and values that are paired by position.
-/

namespace SignalGraph

universe u v w

variable {α : Type u} {β : Type v} {ε : Type w}

/-- A computation in two steps succeeds if both do. -/
theorem Except.bind_eq_ok_iff {γ : Type v} {x : Except ε β} {f : β → Except ε γ} {c : γ} :
    (x >>= f) = .ok c ↔ ∃ b, x = .ok b ∧ f b = .ok c := by
  cases x with
  | error e =>
      constructor
      · intro h
        exact absurd h (by simp [bind, Except.bind])
      · rintro ⟨b, hb, -⟩
        exact absurd hb (by simp)
  | ok b =>
      constructor
      · intro h
        exact ⟨b, rfl, h⟩
      · rintro ⟨b', hb', h⟩
        injection hb' with hb'
        subst hb'
        exact h

theorem Except.map_eq_ok_iff {γ : Type v} {x : Except ε β} {f : β → γ} {c : γ} :
    x.map f = .ok c ↔ ∃ b, x = .ok b ∧ f b = c := by
  cases x with
  | error e => simp [Except.map]
  | ok b => simp [Except.map]

theorem Except.mapError_eq_ok_iff {ε' : Type w} {x : Except ε β} {f : ε → ε'} {b : β} :
    x.mapError f = .ok b ↔ x = .ok b := by
  cases x with
  | error e => simp [Except.mapError]
  | ok b' => simp [Except.mapError]

theorem Except.exists_of_isOk {x : Except ε β} (h : x.isOk = true) : ∃ b, x = .ok b := by
  cases x with
  | error e => exact absurd h (by simp [Except.isOk, Except.toBool])
  | ok b => exact ⟨b, rfl⟩

/--
A fold that can make every step comes to its end. `P` says what holds after some of the items; the items are
told by what they stand for.
-/
theorem foldlM_ok_of_step {σ : Type v} {f : σ → β → Except ε σ} {R : α → β → Prop} {P : List α → σ → Prop}
    {all : List α} (hstep : ∀ done a todo b s, all = done ++ a :: todo → R a b → P done s →
      ∃ s', f s b = .ok s' ∧ P (done ++ [a]) s')
    {bs : List β} (hR : List.Forall₂ R all bs) {s : σ} (h : P [] s) : ∃ s', bs.foldlM f s = .ok s' ∧ P all s' := by
  have hrun : ∀ todo done (bs : List β) s, all = done ++ todo → List.Forall₂ R todo bs → P done s →
      ∃ s', bs.foldlM f s = .ok s' ∧ P all s' := by
    intro todo
    induction todo with
    | nil =>
        intro done bs s hall hR h
        rw [List.forall₂_nil_left_iff.mp hR, hall, List.append_nil]
        exact ⟨s, rfl, h⟩
    | cons a todo ih =>
        intro done bs s hall hR h
        obtain ⟨b, rest, hab, hrest, rfl⟩ := List.forall₂_cons_left_iff.mp hR
        obtain ⟨mid, hmid, hP⟩ := hstep done a todo b s hall hab h
        obtain ⟨s', hs', hend⟩ := ih (done ++ [a]) rest mid (by rw [hall, List.append_assoc]; rfl) hrest hP
        refine ⟨s', ?_, hend⟩
        rw [List.foldlM_cons, hmid]
        exact hs'
  exact hrun all [] bs s rfl hR h

/-- What every step of a fold keeps holds at the end, if there is one. `P` says what holds after some of the items. -/
theorem foldlM_induction {σ : Type v} {f : σ → β → Except ε σ} {P : List β → σ → Prop} {all : List β}
    (hstep : ∀ done b todo s s', all = done ++ b :: todo → P done s → f s b = .ok s' → P (done ++ [b]) s')
    {s s' : σ} (h : P [] s) (hfold : all.foldlM f s = .ok s') : P all s' := by
  have hrun : ∀ todo done s, all = done ++ todo → P done s → todo.foldlM f s = .ok s' → P all s' := by
    intro todo
    induction todo with
    | nil =>
        intro done s hall hP hend
        injection hend with hend
        rw [hall, List.append_nil, ← hend]
        exact hP
    | cons b todo ih =>
        intro done s hall hP hend
        rw [List.foldlM_cons] at hend
        obtain ⟨mid, hmid, hend⟩ := Except.bind_eq_ok_iff.mp hend
        exact ih (done ++ [b]) mid (by rw [hall, List.append_assoc]; rfl) (hstep done b todo s mid hall hP hmid) hend
  exact hrun all [] s rfl h hfold

/--
A fold comes to its end if it can make every step. `P` says what holds after some of the items, and `C` what it then
takes to go on with the next one.
-/
theorem exists_foldlM_iff {σ : Type v} {f : σ → β → Except ε σ} {P : List β → σ → Prop} {C : List β → β → Prop}
    {all : List β} (hstep : ∀ done b todo s, all = done ++ b :: todo → P done s → ((∃ s', f s b = .ok s') ↔ C done b))
    (hkeep : ∀ done b todo s s', all = done ++ b :: todo → P done s → f s b = .ok s' → P (done ++ [b]) s')
    {s : σ} (h : P [] s) : (∃ s', all.foldlM f s = .ok s') ↔ ∀ done b todo, all = done ++ b :: todo → C done b := by
  constructor
  · rintro ⟨s', hs'⟩ done b todo rfl
    rw [List.foldlM_append] at hs'
    obtain ⟨mid, hmid, hrest⟩ := Except.bind_eq_ok_iff.mp hs'
    rw [List.foldlM_cons] at hrest
    obtain ⟨next, hnext, -⟩ := Except.bind_eq_ok_iff.mp hrest
    have hdone : P done mid := by
      refine foldlM_induction ?_ h hmid
      intro done' b' todo' t t' hall hP ht
      exact hkeep done' b' (todo' ++ b :: todo) t t' (by rw [hall, List.append_assoc]; rfl) hP ht
    exact (hstep done b todo mid rfl hdone).mp ⟨next, hnext⟩
  · intro hall
    have hsteps : ∀ done b todo b' t, all = done ++ b :: todo → b = b' → P done t →
        ∃ t', f t b' = .ok t' ∧ P (done ++ [b]) t' := by
      rintro done b todo _ t hsplit rfl hP
      obtain ⟨t', ht'⟩ := (hstep done b todo t hsplit hP).mpr (hall done b todo hsplit)
      exact ⟨t', ht', hkeep done b todo t t' hsplit hP ht'⟩
    obtain ⟨s', hs', -⟩ := foldlM_ok_of_step hsteps (List.forall₂_same.mpr fun _ _ => rfl) h
    exact ⟨s', hs'⟩

theorem mapM_eq_ok_iff {f : α → Except ε β} {xs : List α} {ys : List β} :
    xs.mapM f = .ok ys ↔ List.Forall₂ (fun x y => f x = .ok y) xs ys := by
  induction xs generalizing ys with
  | nil =>
      rw [List.mapM_nil, List.forall₂_nil_left_iff]
      constructor
      · intro h
        injection h with h
        exact h.symm
      · rintro rfl
        rfl
  | cons x xs ih =>
      rw [List.mapM_cons, Except.bind_eq_ok_iff, List.forall₂_cons_left_iff]
      constructor
      · rintro ⟨y, hy, h⟩
        obtain ⟨ys', hys', heq⟩ := Except.bind_eq_ok_iff.mp h
        injection heq with heq
        exact ⟨y, ys', hy, ih.mp hys', heq.symm⟩
      · rintro ⟨y, ys', hy, hys', rfl⟩
        exact ⟨y, hy, Except.bind_eq_ok_iff.mpr ⟨ys', ih.mpr hys', rfl⟩⟩

theorem exists_mapM_ok {f : α → Except ε β} {xs : List α} (h : ∀ x ∈ xs, ∃ y, f x = .ok y) :
    ∃ ys, xs.mapM f = .ok ys := by
  induction xs with
  | nil => exact ⟨[], rfl⟩
  | cons x xs ih =>
      obtain ⟨y, hy⟩ := h x List.mem_cons_self
      obtain ⟨ys, hys⟩ := ih fun x' hx' => h x' (List.mem_cons_of_mem _ hx')
      exact ⟨y :: ys, mapM_eq_ok_iff.mpr (.cons hy (mapM_eq_ok_iff.mp hys))⟩

/-- A row of computations succeeds exactly if each of them does. -/
theorem exists_mapM_ok_iff {f : α → Except ε β} {xs : List α} :
    (∃ ys, xs.mapM f = .ok ys) ↔ ∀ x ∈ xs, ∃ y, f x = .ok y := by
  refine ⟨?_, exists_mapM_ok⟩
  rintro ⟨ys, h⟩
  have hall := mapM_eq_ok_iff.mp h
  clear h
  induction hall with
  | nil => exact fun x hx => absurd hx List.not_mem_nil
  | cons hxy _ ih =>
      intro x hx
      rcases List.mem_cons.mp hx with rfl | hx
      · exact ⟨_, hxy⟩
      · exact ih x hx

theorem mapM_eq_some_iff {f : α → Option β} {xs : List α} {ys : List β} :
    xs.mapM f = some ys ↔ List.Forall₂ (fun x y => f x = some y) xs ys := by
  induction xs generalizing ys with
  | nil =>
      rw [List.mapM_nil, List.forall₂_nil_left_iff]
      constructor
      · intro h
        injection h with h
        exact h.symm
      · rintro rfl
        rfl
  | cons x xs ih =>
      rw [List.mapM_cons, Option.bind_eq_bind, Option.bind_eq_some_iff, List.forall₂_cons_left_iff]
      constructor
      · rintro ⟨y, hy, h⟩
        obtain ⟨ys', hys', heq⟩ := Option.bind_eq_some_iff.mp h
        injection heq with heq
        exact ⟨y, ys', hy, ih.mp hys', heq.symm⟩
      · rintro ⟨y, ys', hy, hys', rfl⟩
        exact ⟨y, hy, Option.bind_eq_some_iff.mpr ⟨ys', ih.mpr hys', rfl⟩⟩

/-- What a list with one more item holds at an index: what it held there, or the new item at the end. -/
theorem getElem?_concat_eq_some_iff {xs : List α} {x y : α} {i : Nat} :
    (xs ++ [x])[i]? = some y ↔ xs[i]? = some y ∨ i = xs.length ∧ x = y := by
  rw [List.getElem?_append]
  split
  · rename_i hi
    exact ⟨Or.inl, fun h => h.resolve_right fun hlast => Nat.ne_of_lt hi hlast.1⟩
  · rename_i hi
    rw [List.getElem?_eq_none (Nat.not_lt.mp hi), List.getElem?_singleton]
    split
    · rename_i hzero
      have hlast : i = xs.length := by omega
      simp [hlast]
    · rename_i hne
      have hnot : i ≠ xs.length := by omega
      simp [hnot]

theorem forall₂_getElem? {R : α → β → Prop} {xs : List α} {ys : List β} (h : List.Forall₂ R xs ys) {i : Nat} {y : β}
    (hy : ys[i]? = some y) : ∃ x, xs[i]? = some x ∧ R x y := by
  induction h generalizing i with
  | nil => exact absurd hy (by simp)
  | cons hxy _ ih =>
      cases i with
      | zero =>
          injection hy with hy
          exact ⟨_, rfl, hy ▸ hxy⟩
      | succ i => exact ih hy

/-- Where nothing is left out, the items of the result stand for those of the list. -/
theorem forall₂_filterMap {f : α → Option β} {xs : List α} (h : ∀ x ∈ xs, ∃ y, f x = some y) :
    List.Forall₂ (fun x y => f x = some y) xs (xs.filterMap f) := by
  induction xs with
  | nil => exact List.Forall₂.nil
  | cons x xs ih =>
      obtain ⟨y, hy⟩ := h x List.mem_cons_self
      rw [List.filterMap_cons_some hy]
      exact List.Forall₂.cons hy (ih fun x' hx' => h x' (List.mem_cons_of_mem _ hx'))

theorem forall₂_zipIdx {R : α → β → Prop} {xs : List α} {ys : List β} (h : List.Forall₂ R xs ys) (k : Nat) :
    List.Forall₂ (fun a b => R a.1 b.1 ∧ a.2 = b.2) (xs.zipIdx k) (ys.zipIdx k) := by
  induction h generalizing k with
  | nil => exact List.Forall₂.nil
  | cons hab _ ih => exact List.Forall₂.cons ⟨hab, rfl⟩ (ih (k + 1))

theorem flatMap_eq_of_forall₂ {γ : Type w} {F : α → List γ} {G : β → List γ} {xs : List α} {ys : List β}
    (h : List.Forall₂ (fun x y => F x = G y) xs ys) : xs.flatMap F = ys.flatMap G := by
  induction h with
  | nil => rfl
  | cons hab _ ih => rw [List.flatMap_cons, List.flatMap_cons, hab, ih]

/-- In a list without repetitions, an item is found at one place only. -/
theorem not_mem_of_nodup_append_cons {a : α} {xs ys : List α} (h : (xs ++ a :: ys).Nodup) : a ∉ xs ∧ a ∉ ys := by
  have hnot := (List.nodup_cons.mp (List.nodup_middle.mp h)).1
  rwa [List.mem_append, not_or] at hnot

/-! ## Changing one item -/

/-- Items that are each new behind those before them are all different. -/
theorem nodup_map_of_split {f : α → β} {xs : List α} (h : ∀ done x todo, xs = done ++ x :: todo → f x ∉ done.map f) :
    (xs.map f).Nodup := by
  induction xs using List.reverseRecOn with
  | nil => exact List.nodup_nil
  | append_singleton xs x ih =>
      have hxs : (xs.map f).Nodup := by
        refine ih fun done y todo hall => h done y (todo ++ [x]) ?_
        rw [hall, List.append_assoc]
        rfl
      rw [List.map_append, List.nodup_append]
      refine ⟨hxs, List.nodup_singleton _, ?_⟩
      rintro y hy z hz rfl
      exact h xs x [] rfl (List.mem_singleton.mp hz ▸ hy)

/-- What a change to one item does not touch is the same of all items. -/
theorem map_modify_of_absorb (f : α → α) (view : α → β) (h : ∀ a, view (f a) = view a) (xs : List α) (i : Nat) :
    (xs.modify i f).map view = xs.map view := by
  induction xs generalizing i with
  | nil => simp
  | cons x xs ih =>
      cases i with
      | zero => simp [h]
      | succ i => simp [List.modify_succ_cons, ih]

theorem forall₂_modify {R : α → β → Prop} {f : α → α} {xs : List α} {ys : List β} (h : List.Forall₂ R xs ys)
    (hf : ∀ x y, R x y → R (f x) y) (i : Nat) : List.Forall₂ R (xs.modify i f) ys := by
  induction h generalizing i with
  | nil =>
      rw [List.modify_nil]
      exact .nil
  | cons hxy hrest ih =>
      cases i with
      | zero =>
          rw [List.modify_zero_cons]
          exact .cons (hf _ _ hxy) hrest
      | succ i =>
          rw [List.modify_succ_cons]
          exact .cons hxy (ih i)

theorem forall₂_set {R : α → β → Prop} {xs : List α} {ys : List β} (h : List.Forall₂ R xs ys) {i : Nat} {x : α}
    (hx : ∀ y, ys[i]? = some y → R x y) : List.Forall₂ R (xs.set i x) ys := by
  induction h generalizing i with
  | nil => exact .nil
  | cons hxy hrest ih =>
      cases i with
      | zero => exact .cons (hx _ rfl) hrest
      | succ i => exact .cons hxy (ih fun y hy => hx y hy)

/-! ## Names paired with values -/

theorem lookup_zip [DecidableEq α] {ks : List α} {vs : List β} (hnodup : ks.Nodup) {i : Nat} {k : α} {v : β}
    (hk : ks[i]? = some k) (hv : vs[i]? = some v) : (ks.zip vs).lookup k = some v := by
  induction ks generalizing vs i with
  | nil => exact absurd hk (by simp)
  | cons k' ks ih =>
      obtain ⟨hnot, hrest⟩ := List.nodup_cons.mp hnodup
      cases vs with
      | nil => exact absurd hv (by simp)
      | cons v' vs =>
          rw [List.zip_cons_cons, List.lookup_cons]
          cases i with
          | zero =>
              injection hk with hk
              injection hv with hv
              rw [hk, hv, beq_self_eq_true]
          | succ i =>
              have hmem : k ∈ ks := List.mem_of_getElem? hk
              have hne : (k == k') = false := by
                rw [beq_eq_false_iff_ne]
                exact ne_of_mem_of_not_mem hmem hnot
              rw [hne]
              exact ih hrest hk hv

theorem lookup_zip_eq_none [DecidableEq α] {ks : List α} (vs : List β) {k : α} (hk : k ∉ ks) :
    (ks.zip vs).lookup k = none := by
  rw [List.lookup_eq_none_iff]
  intro e he
  rw [bne_iff_ne]
  rintro rfl
  exact hk (List.of_mem_zip he).1

end SignalGraph
