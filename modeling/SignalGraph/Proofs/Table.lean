import Mathlib.Data.List.Nodup
import SignalGraph.Table

/-!
# What a table says about a key

A table is read through `get?`. Because no key occurs twice, an entry and the answer of `get?` are the same
fact (`mem_entries_iff`), and every operation has one equation through `get?`. Where the order of the entries
matters it is stated of `keys` or of `entries`.
-/

namespace SignalGraph.Table

universe u v w

variable {κ : Type u} {ν : Type v}

/-- Tables with the same entries are equal. -/
theorem eq_of_entries {t t' : Table κ ν} (h : t.entries = t'.entries) : t = t' := by
  cases t
  cases t'
  congr

theorem keys_nodup (t : Table κ ν) : t.keys.Nodup := t.nodup

theorem keys_length (t : Table κ ν) : t.keys.length = t.size := by
  unfold keys size
  rw [List.length_map]

@[simp] theorem keys_mapValues {ω : Type w} (t : Table κ ν) (f : κ → ν → ω) :
    (t.mapValues f).keys = t.keys := by
  unfold keys mapValues
  rw [List.map_map]
  rfl

theorem mapValues_id (t : Table κ ν) : (t.mapValues fun _ v => v) = t := eq_of_entries (List.map_id _)

theorem mapValues_mapValues {ω χ : Type w} (t : Table κ ν) (f : κ → ν → ω) (f' : κ → ω → χ) :
    (t.mapValues f).mapValues f' = t.mapValues fun k v => f' k (f k v) :=
  eq_of_entries List.map_map

variable [DecidableEq κ]

/-! ## Entries -/

theorem mem_of_get? {t : Table κ ν} {k : κ} {v : ν} (h : t.get? k = some v) : (k, v) ∈ t.entries := by
  unfold get? at h
  obtain ⟨e, he, hv⟩ := Option.map_eq_some_iff.mp h
  have hk : e.1 = k := by simpa using List.find?_some he
  have hmem := List.mem_of_find?_eq_some he
  rw [← hk, ← hv]
  exact hmem

theorem get?_of_mem {t : Table κ ν} {k : κ} {v : ν} (h : (k, v) ∈ t.entries) : t.get? k = some v := by
  unfold get?
  cases hf : t.entries.find? (fun e => e.1 == k) with
  | none =>
      have hne := List.find?_eq_none.mp hf (k, v) h
      exact absurd hne (by simp)
  | some e =>
      have hk : e.1 = k := by simpa using List.find?_some hf
      have hmem := List.mem_of_find?_eq_some hf
      have heq : e = (k, v) := List.inj_on_of_nodup_map t.nodup hmem h hk
      rw [heq]
      rfl

/-- An entry is what `get?` finds. -/
theorem mem_entries_iff {t : Table κ ν} {k : κ} {v : ν} : (k, v) ∈ t.entries ↔ t.get? k = some v :=
  ⟨get?_of_mem, mem_of_get?⟩

theorem mem_keys_iff {t : Table κ ν} {k : κ} : k ∈ t.keys ↔ ∃ v, t.get? k = some v := by
  unfold keys
  constructor
  · intro h
    obtain ⟨e, he, hk⟩ := List.mem_map.mp h
    exact ⟨e.2, get?_of_mem (hk ▸ he)⟩
  · rintro ⟨v, h⟩
    exact List.mem_map.mpr ⟨(k, v), mem_of_get? h, rfl⟩

theorem get?_eq_none_iff {t : Table κ ν} {k : κ} : t.get? k = none ↔ k ∉ t.keys := by
  rw [mem_keys_iff]
  cases t.get? k <;> simp

theorem contains_iff {t : Table κ ν} {k : κ} : t.contains k = true ↔ k ∈ t.keys := by
  unfold contains keys
  simp

theorem mem_values_iff {t : Table κ ν} {v : ν} : v ∈ t.values ↔ ∃ k, t.get? k = some v := by
  unfold values
  constructor
  · intro h
    obtain ⟨e, he, hv⟩ := List.mem_map.mp h
    exact ⟨e.1, get?_of_mem (hv ▸ he)⟩
  · rintro ⟨k, h⟩
    exact List.mem_map.mpr ⟨(k, v), mem_of_get? h, rfl⟩

/-! ## One equation for each operation -/

@[simp] theorem get?_empty (k : κ) : (∅ : Table κ ν).get? k = none := rfl

theorem get?_mapValues {ω : Type w} (t : Table κ ν) (f : κ → ν → ω) (k : κ) :
    (t.mapValues f).get? k = (t.get? k).map (f k) := by
  cases h : t.get? k with
  | none =>
      rw [get?_eq_none_iff] at h
      exact get?_eq_none_iff.mpr (by rwa [keys_mapValues])
  | some v => exact get?_of_mem (List.mem_map.mpr ⟨(k, v), mem_of_get? h, rfl⟩)

theorem mapValues_congr {ω : Type w} {t : Table κ ν} {f f' : κ → ν → ω}
    (h : ∀ k v, t.get? k = some v → f k v = f' k v) : t.mapValues f = t.mapValues f' :=
  eq_of_entries (List.map_congr_left fun e he => Prod.ext rfl (h e.1 e.2 (get?_of_mem he)))

@[simp] theorem keys_modify (t : Table κ ν) (k : κ) (f : ν → ν) : (t.modify k f).keys = t.keys := by
  unfold keys modify
  rw [List.map_map]
  refine List.map_congr_left ?_
  intro e _
  dsimp only [Function.comp_apply]
  split <;> rfl

theorem get?_modify (t : Table κ ν) (k k' : κ) (f : ν → ν) :
    (t.modify k f).get? k' = if k' = k then (t.get? k').map f else t.get? k' := by
  cases h : t.get? k' with
  | none =>
      rw [get?_eq_none_iff] at h
      rw [get?_eq_none_iff.mpr (by rwa [keys_modify])]
      simp
  | some v =>
      have hmem := mem_of_get? h
      by_cases hk : k' = k
      · rw [if_pos hk]
        exact get?_of_mem (List.mem_map.mpr ⟨(k', v), hmem, if_pos hk⟩)
      · rw [if_neg hk]
        exact get?_of_mem (List.mem_map.mpr ⟨(k', v), hmem, if_neg hk⟩)

theorem keys_erase (t : Table κ ν) (k : κ) : (t.erase k).keys = t.keys.filter (· ≠ k) := by
  unfold keys erase
  rw [List.filter_map]
  rfl

theorem mem_keys_erase {t : Table κ ν} {k k' : κ} : k' ∈ (t.erase k).keys ↔ k' ∈ t.keys ∧ k' ≠ k := by
  rw [keys_erase, List.mem_filter, decide_eq_true_eq]

theorem get?_erase (t : Table κ ν) (k k' : κ) :
    (t.erase k).get? k' = if k' = k then none else t.get? k' := by
  split
  · rename_i h
    exact get?_eq_none_iff.mpr (by rw [mem_keys_erase]; exact fun hk => hk.2 h)
  · rename_i hne
    cases h : t.get? k' with
    | none =>
        rw [get?_eq_none_iff] at h ⊢
        exact fun hk => h (mem_keys_erase.mp hk).1
    | some v =>
        exact get?_of_mem (List.mem_filter.mpr ⟨mem_of_get? h, by simpa using hne⟩)

theorem set_of_mem {t : Table κ ν} {k : κ} (h : k ∈ t.keys) (v : ν) :
    t.set k v = t.modify k fun _ => v := by
  unfold set
  rw [dif_pos (contains_iff.mpr h)]

/-- A new key goes to the end. -/
theorem entries_set_of_not_mem {t : Table κ ν} {k : κ} (h : k ∉ t.keys) (v : ν) :
    (t.set k v).entries = t.entries ++ [(k, v)] := by
  unfold set
  rw [dif_neg (by rwa [contains_iff])]

/-- What a function makes of all values does not show a value that it does not tell from the one before. -/
theorem mapValues_set {ω : Type w} {t : Table κ ν} {k : κ} {v v' : ν} {f : ν → ω} (hk : t.get? k = some v)
    (hf : f v' = f v) : ((t.set k v').mapValues fun _ => f) = t.mapValues fun _ => f := by
  rw [set_of_mem (mem_keys_iff.mpr ⟨v, hk⟩)]
  refine eq_of_entries (List.map_map.trans (List.map_congr_left ?_))
  rintro ⟨k', w⟩ he
  dsimp only [Function.comp_apply]
  split
  · rename_i heq
    rw [heq] at he
    rw [Option.some.inj ((get?_of_mem he).symm.trans hk), hf]
  · rfl

theorem keys_set_of_mem {t : Table κ ν} {k : κ} (h : k ∈ t.keys) (v : ν) : (t.set k v).keys = t.keys := by
  rw [set_of_mem h, keys_modify]

theorem keys_set_of_not_mem {t : Table κ ν} {k : κ} (h : k ∉ t.keys) (v : ν) :
    (t.set k v).keys = t.keys ++ [k] := by
  unfold keys at h ⊢
  rw [entries_set_of_not_mem h, List.map_append]
  rfl

theorem mem_keys_set {t : Table κ ν} {k k' : κ} {v : ν} : k' ∈ (t.set k v).keys ↔ k' = k ∨ k' ∈ t.keys := by
  by_cases h : k ∈ t.keys
  · rw [keys_set_of_mem h]
    constructor
    · exact Or.inr
    · rintro (rfl | hk)
      · exact h
      · exact hk
  · rw [keys_set_of_not_mem h, List.mem_append, List.mem_singleton, or_comm]

theorem get?_set (t : Table κ ν) (k k' : κ) (v : ν) :
    (t.set k v).get? k' = if k' = k then some v else t.get? k' := by
  by_cases h : k ∈ t.keys
  · rw [set_of_mem h, get?_modify]
    obtain ⟨w, hw⟩ := mem_keys_iff.mp h
    split
    · rename_i heq
      rw [heq, hw]
      rfl
    · rfl
  · split
    · rename_i heq
      refine get?_of_mem ?_
      rw [entries_set_of_not_mem h, heq]
      simp
    · rename_i hne
      cases hk : t.get? k' with
      | none =>
          rw [get?_eq_none_iff] at hk ⊢
          rw [mem_keys_set]
          rintro (heq | hmem)
          · exact hne heq
          · exact hk hmem
      | some w =>
          refine get?_of_mem ?_
          rw [entries_set_of_not_mem h]
          exact List.mem_append_left _ (mem_of_get? hk)

theorem get?_set_self (t : Table κ ν) (k : κ) (v : ν) : (t.set k v).get? k = some v := by
  rw [get?_set, if_pos rfl]

theorem get?_set_of_ne (t : Table κ ν) {k k' : κ} (v : ν) (h : k' ≠ k) :
    (t.set k v).get? k' = t.get? k' := by
  rw [get?_set, if_neg h]

/-! ## Setting many entries -/

theorem mem_keys_setAll {es : List (κ × ν)} {t : Table κ ν} {k : κ} :
    k ∈ (t.setAll es).keys ↔ k ∈ es.map Prod.fst ∨ k ∈ t.keys := by
  unfold setAll
  induction es generalizing t with
  | nil => simp
  | cons e es ih => rw [List.foldl_cons, ih, mem_keys_set, List.map_cons, List.mem_cons, or_assoc, or_left_comm]

/-- What is found was there before or is one of the entries. -/
theorem mem_of_get?_setAll {es : List (κ × ν)} {t : Table κ ν} {k : κ} {v : ν}
    (h : (t.setAll es).get? k = some v) : t.get? k = some v ∨ (k, v) ∈ es := by
  induction es generalizing t with
  | nil => exact Or.inl h
  | cons e es ih =>
      rcases ih h with h | h
      · rw [get?_set] at h
        split at h
        · rename_i hk
          injection h with h
          refine Or.inr ?_
          rw [hk, ← h]
          exact List.mem_cons_self
        · exact Or.inl h
      · exact Or.inr (List.mem_cons_of_mem _ h)

/-- Where no entry is set, everything stays. -/
theorem get?_setAll_of_not_mem {es : List (κ × ν)} (t : Table κ ν) {k : κ} (h : k ∉ es.map Prod.fst) :
    (t.setAll es).get? k = t.get? k := by
  unfold setAll
  induction es generalizing t with
  | nil => rfl
  | cons e es ih =>
      rw [List.map_cons, List.mem_cons, not_or] at h
      exact (ih _ h.2).trans (get?_set_of_ne t e.2 h.1)

/-- Entries of distinct keys do not replace one another. -/
theorem get?_setAll_of_mem {es : List (κ × ν)} (t : Table κ ν) (hnodup : (es.map Prod.fst).Nodup) {k : κ} {v : ν}
    (h : (k, v) ∈ es) : (t.setAll es).get? k = some v := by
  unfold setAll
  induction es generalizing t with
  | nil => exact absurd h (by simp)
  | cons e es ih =>
      obtain ⟨hnot, hrest⟩ := List.nodup_cons.mp hnodup
      rcases List.mem_cons.mp h with rfl | h
      · exact (get?_setAll_of_not_mem _ hnot).trans (get?_set_self t k v)
      · exact ih _ hrest h

/-- Keys are set one after the other, to values that depend on what the table says about other keys only. -/
theorem get?_foldl_set_of_forall {f : Table κ ν → κ → ν} {ks : List κ} {t : Table κ ν} {v : κ → ν}
    (hf : ∀ t', (∀ m, m ∉ ks → t'.get? m = t.get? m) → ∀ m ∈ ks, f t' m = v m) (k : κ) :
    (ks.foldl (fun t m => t.set m (f t m)) t).get? k = if k ∈ ks then some (v k) else t.get? k := by
  have hrun : ∀ (todo : List κ) (t' : Table κ ν), todo ⊆ ks → (∀ m, m ∉ ks → t'.get? m = t.get? m) →
      (todo.foldl (fun t m => t.set m (f t m)) t').get? k = if k ∈ todo then some (v k) else t'.get? k := by
    intro todo
    induction todo with
    | nil => exact fun t' _ _ => (if_neg List.not_mem_nil).symm
    | cons m todo ih =>
        intro t' hsub hkept
        obtain ⟨hm, hrest⟩ := List.cons_subset.mp hsub
        have hkept' : ∀ m', m' ∉ ks → (t'.set m (f t' m)).get? m' = t.get? m' := by
          intro m' hm'
          have hne : m' ≠ m := fun heq => hm' (heq ▸ hm)
          rw [get?_set_of_ne _ _ hne, hkept m' hm']
        rw [List.foldl_cons, ih _ hrest hkept', get?_set, hf t' hkept m hm]
        by_cases hlater : k ∈ todo
        · rw [if_pos hlater, if_pos (List.mem_cons_of_mem m hlater)]
        · rw [if_neg hlater]
          by_cases hself : k = m
          · rw [if_pos hself, if_pos (hself ▸ List.mem_cons_self), hself]
          · rw [if_neg hself, if_neg (by rw [List.mem_cons, not_or]; exact ⟨hself, hlater⟩)]
  exact hrun ks t (List.Subset.refl ks) fun _ _ => rfl

/-- One value is set for several keys. -/
theorem get?_foldl_set (ks : List κ) (t : Table κ ν) (v : ν) (k : κ) :
    (ks.foldl (fun t m => t.set m v) t).get? k = if k ∈ ks then some v else t.get? k :=
  get?_foldl_set_of_forall (v := fun _ => v) (fun _ _ _ _ => rfl) k

end SignalGraph.Table
