import Mathlib.Data.List.Nodup
import Mathlib.Data.List.Perm.Subperm
import SignalGraph.Proofs.Table
import SignalGraph.Program.Generate

/-!
# No two things in a program go by one name

Parameters are distinct, and none of them looks like a generated variable. Modules are distinct, one for each
package. Fields are distinct, because the number behind the last low line of each is its own.

Where a name is taken, the first free one of a row of candidates is used. The row is one longer than the list
of taken names, and its candidates are distinct, so there always is one (`firstFree_not_mem`).
-/

namespace SignalGraph.Identifier

/-! ## Numbers in names -/

/-- The digits of a number, as they stand in a name. -/
theorem toList_toString (n : Nat) : (toString n).toList = Nat.toDigits 10 n := by
  rw [Nat.toString_eq_ofList_toDigits, String.toList_ofList]

theorem isDigit_of_mem_toString {n : Nat} {c : Char} (h : c ∈ (toString n).toList) : c.isDigit = true := by
  rw [toList_toString] at h
  exact Nat.isDigit_of_mem_toDigits (by decide) (by decide) h

theorem toString_inj {m n : Nat} (h : (toString m).toList = (toString n).toList) : m = n := by
  rw [toList_toString, toList_toString] at h
  have hvalue := congrArg (fun ds => Nat.ofDigitChars 10 ds 0) h
  simpa using hvalue

theorem toString_ne_nil (n : Nat) : (toString n).toList ≠ [] := by
  rw [toList_toString]
  exact Nat.toDigits_ne_nil

/-- A number behind a low line can be read off the end of a name. -/
theorem number_of_suffix {s t : String} {m n : Nat} (h : s ++ "_" ++ toString m = t ++ "_" ++ toString n) :
    m = n := by
  have hread : ∀ (s : String) (n : Nat),
      (s ++ "_" ++ toString n).toList.reverse.takeWhile Char.isDigit = (toString n).toList.reverse := by
    intro s n
    have hdigits : ∀ c ∈ (toString n).toList.reverse, c.isDigit = true := by
      intro c hc
      exact isDigit_of_mem_toString (List.mem_reverse.mp hc)
    rw [String.toList_append, String.toList_append, List.reverse_append, List.reverse_append,
      List.takeWhile_append_of_pos hdigits]
    -- the reading stops at the low line
    have hline : ("_".toList.reverse ++ s.toList.reverse).takeWhile Char.isDigit = [] := rfl
    rw [hline, List.append_nil]
  have hm := hread s m
  rw [h, hread t n] at hm
  exact toString_inj (List.reverse_injective hm.symm)

theorem numbered_injective (base sep : String) {i j : Nat} (h : numbered base sep i = numbered base sep j) :
    i = j := by
  have hlong : ∀ k : Nat, base ≠ base ++ sep ++ toString (k + 2) := by
    intro k heq
    have hl := congrArg (fun s => s.toList.length) heq
    simp only [String.toList_append, List.length_append] at hl
    have hpos := List.length_pos_iff.mpr (toString_ne_nil (k + 2))
    omega
  cases i with
  | zero =>
      cases j with
      | zero => rfl
      | succ j => exact absurd h (hlong j)
  | succ i =>
      cases j with
      | zero => exact absurd h.symm (hlong i)
      | succ j =>
          have hl : (base ++ sep ++ toString (i + 2)).toList = (base ++ sep ++ toString (j + 2)).toList :=
            congrArg String.toList h
          simp only [String.toList_append] at hl
          have := toString_inj (List.append_cancel_left hl)
          omega

/-! ## Free names -/

theorem firstFree_not_mem {taken : List String} {candidate : Nat → String}
    (hinj : ∀ i j, candidate i = candidate j → i = j) : firstFree taken candidate ∉ taken := by
  unfold firstFree
  cases hf : ((List.range (taken.length + 1)).map candidate).find? (!taken.contains ·) with
  | some name => simpa using List.find?_some hf
  | none =>
      -- all candidates would be taken, but there are more of them than taken names
      exfalso
      have hall := List.find?_eq_none.mp hf
      have hsub : (List.range (taken.length + 1)).map candidate ⊆ taken := by
        intro name hname
        simpa using hall name hname
      have hnodup : ((List.range (taken.length + 1)).map candidate).Nodup :=
        List.Nodup.map (fun i j => hinj i j) List.nodup_range
      have hle := (List.subperm_of_subset hnodup hsub).length_le
      rw [List.length_map, List.length_range] at hle
      omega

theorem exists_candidate (taken : List String) (candidate : Nat → String) :
    ∃ k, firstFree taken candidate = candidate k := by
  unfold firstFree
  cases hf : ((List.range (taken.length + 1)).map candidate).find? (!taken.contains ·) with
  | none => exact ⟨0, rfl⟩
  | some name =>
      obtain ⟨k, -, hk⟩ := List.mem_map.mp (List.mem_of_find?_eq_some hf)
      exact ⟨k, hk.symm⟩

/-! ## Parameters -/

theorem isVariable_variableName (k : Nat) : isVariable (variableName k) = true := by
  have hlist : (variableName k).toList = 'v' :: (toString k).toList := by
    unfold variableName
    rw [String.toList_append]
    rfl
  unfold isVariable
  rw [hlist]
  cases hd : (toString k).toList with
  | nil => exact absurd hd (toString_ne_nil k)
  | cons c cs =>
      refine List.all_eq_true.mpr fun d hmem => isDigit_of_mem_toString (n := k) ?_
      rw [hd]
      exact hmem

theorem variableName_injective {i j : Nat} (h : variableName i = variableName j) : i = j := by
  have hl := congrArg String.toList h
  unfold variableName at hl
  rw [String.toList_append, String.toList_append] at hl
  exact toString_inj (List.append_cancel_left hl)

/-- A name with a low line is none of a variable. -/
theorem isVariable_eq_false_of_mem {name : String} (h : '_' ∈ name.toList) : isVariable name = false := by
  unfold isVariable
  split
  · rename_i c cs hlist
    rw [hlist] at h
    rw [← Bool.not_eq_true, List.all_eq_true]
    intro hall
    rcases List.mem_cons.mp h with heq | hmem
    · exact absurd heq (by decide)
    · exact absurd (hall _ hmem) (by decide)
  · rfl

theorem isVariable_numbered {base : String} (h : isVariable base = false) (k : Nat) :
    isVariable (numbered base "_" k) = false := by
  cases k with
  | zero => exact h
  | succ k =>
      refine isVariable_eq_false_of_mem ?_
      unfold numbered
      rw [String.toList_append, String.toList_append]
      exact List.mem_append_left _ (List.mem_append_right _ (by decide))

theorem isVariable_parameter (taken : List String) (base : String) :
    isVariable (parameter taken base) = false := by
  have hbase : isVariable (if isVariable base then base ++ "_" else base) = false := by
    split
    · refine isVariable_eq_false_of_mem ?_
      rw [String.toList_append]
      exact List.mem_append_right _ (by decide)
    · rename_i h
      exact Bool.eq_false_iff.mpr h
  unfold parameter
  obtain ⟨k, hk⟩ := exists_candidate taken (numbered (if isVariable base then base ++ "_" else base) "_")
  rw [hk]
  exact isVariable_numbered hbase k

theorem parameter_not_mem (taken : List String) (base : String) : parameter taken base ∉ taken :=
  firstFree_not_mem fun _ _ => numbered_injective _ _

/-- What holds of the parameter names given so far. -/
theorem foldl_parameters (ts taken : List String) (hnodup : taken.Nodup)
    (hvar : ∀ name ∈ taken, isVariable name = false) :
    let names := ts.foldl (fun taken t => taken ++ [parameter taken (ofText t "input")]) taken
    names.Nodup ∧ (∀ name ∈ names, isVariable name = false) ∧ names.length = taken.length + ts.length := by
  induction ts generalizing taken with
  | nil => exact ⟨hnodup, hvar, rfl⟩
  | cons t ts ih =>
      have hfresh := parameter_not_mem taken (ofText t "input")
      have hnodup' : (taken ++ [parameter taken (ofText t "input")]).Nodup := by
        rw [← List.concat_eq_append]
        exact List.Nodup.concat hfresh hnodup
      have hvar' : ∀ name ∈ taken ++ [parameter taken (ofText t "input")], isVariable name = false := by
        intro name hname
        rcases List.mem_append.mp hname with h | h
        · exact hvar name h
        · rw [List.mem_singleton.mp h]
          exact isVariable_parameter _ _
      obtain ⟨h1, h2, h3⟩ := ih _ hnodup' hvar'
      refine ⟨h1, h2, h3.trans ?_⟩
      rw [List.length_append, List.length_singleton, List.length_cons]
      omega

/-- Parameters are distinct, in number as the terminals, and not named like variables. -/
theorem parameters_spec (ts : List String) :
    (parameters ts).Nodup ∧ (∀ name ∈ parameters ts, isVariable name = false)
      ∧ (parameters ts).length = ts.length := by
  obtain ⟨h1, h2, h3⟩ := foldl_parameters ts [] List.nodup_nil (by simp)
  exact ⟨h1, h2, h3.trans (Nat.zero_add _)⟩

end SignalGraph.Identifier

namespace SignalGraph.Program

/-! ## Modules -/

/-- The module names given so far are distinct, and the packages met so far have one. -/
theorem foldl_aliases (pkgs : List String) (t : Table String String) (hnodup : t.values.Nodup) :
    let t' := pkgs.foldl (fun t pkg =>
      if t.contains pkg then t else t.set pkg (Identifier.moduleAlias t.values pkg)) t
    t'.values.Nodup ∧ ∀ pkg, pkg ∈ t'.keys ↔ pkg ∈ t.keys ∨ pkg ∈ pkgs := by
  induction pkgs generalizing t with
  | nil => exact ⟨hnodup, fun pkg => by simp⟩
  | cons p pkgs ih =>
      rw [List.foldl_cons]
      by_cases hp : t.contains p = true
      · -- a package that was met before keeps its module
        rw [if_pos hp]
        obtain ⟨h1, h2⟩ := ih t hnodup
        refine ⟨h1, fun pkg => (h2 pkg).trans ?_⟩
        rw [List.mem_cons]
        constructor
        · rintro (h | h)
          · exact Or.inl h
          · exact Or.inr (Or.inr h)
        · rintro (h | rfl | h)
          · exact Or.inl h
          · exact Or.inl (Table.contains_iff.mp hp)
          · exact Or.inr h
      · rw [if_neg hp]
        have hnot : p ∉ t.keys := fun h => hp (Table.contains_iff.mpr h)
        have hvalues : (t.set p (Identifier.moduleAlias t.values p)).values
            = t.values ++ [Identifier.moduleAlias t.values p] := by
          unfold Table.values
          rw [Table.entries_set_of_not_mem hnot, List.map_append]
          rfl
        have hfresh : Identifier.moduleAlias t.values p ∉ t.values :=
          Identifier.firstFree_not_mem fun _ _ => Identifier.numbered_injective _ _
        have hnodup' : (t.set p (Identifier.moduleAlias t.values p)).values.Nodup := by
          rw [hvalues, ← List.concat_eq_append]
          exact List.Nodup.concat hfresh hnodup
        obtain ⟨h1, h2⟩ := ih _ hnodup'
        refine ⟨h1, fun pkg => (h2 pkg).trans ?_⟩
        rw [Table.mem_keys_set, List.mem_cons]
        exact ⟨fun h => by tauto, fun h => by tauto⟩

theorem aliases_spec (pkgs : List String) :
    (aliases pkgs).values.Nodup ∧ ∀ pkg, pkg ∈ (aliases pkgs).keys ↔ pkg ∈ pkgs := by
  obtain ⟨h1, h2⟩ := foldl_aliases pkgs ∅ List.nodup_nil
  refine ⟨h1, fun pkg => (h2 pkg).trans ?_⟩
  have hempty : pkg ∉ (∅ : Table String String).keys := by
    rw [← Table.get?_eq_none_iff]
    rfl
  exact ⟨fun h => h.resolve_left hempty, Or.inr⟩

/-! ## Fields -/

/-- What holds of a table of fields while it is filled from distinct nodes. -/
structure FieldsFor (computed : List (NodeId × Node)) (t : Table NodeId Field) : Prop where
  /-- A field belongs to a node that needs one, and is of its kind. -/
  sound : ∀ n f, t.get? n = some f → ∃ node, (n, node) ∈ computed ∧ node.hasField = true ∧ f.origin = node.origin
  /-- A node that needs a field has one. -/
  complete : ∀ n node, (n, node) ∈ computed → node.hasField = true → ∃ f, t.get? n = some f
  /-- The number at the end of a name is that of an entry. -/
  numbered : ∀ n f, t.get? n = some f → ∃ s i, i < t.size ∧ f.name = s ++ "_" ++ toString i
  /-- No two fields have one name. -/
  distinct : ∀ n m f f', t.get? n = some f → t.get? m = some f' → f.name = f'.name → n = m

theorem FieldsFor.skip {computed : List (NodeId × Node)} {t : Table NodeId Field} {n : NodeId} {node : Node}
    (h : FieldsFor computed t) (hfield : node.hasField = false) : FieldsFor (computed ++ [(n, node)]) t where
  sound := by
    intro m f hm
    obtain ⟨found, hin, hyes, hf⟩ := h.sound m f hm
    exact ⟨found, List.mem_append_left _ hin, hyes, hf⟩
  complete := by
    intro m found hin hyes
    rcases List.mem_append.mp hin with hin | hin
    · exact h.complete m found hin hyes
    · rw [List.mem_singleton] at hin
      injection hin with hm hnode
      rw [hnode, hfield] at hyes
      exact absurd hyes (by simp)
  numbered := h.numbered
  distinct := h.distinct

theorem FieldsFor.not_mem_keys {computed : List (NodeId × Node)} {t : Table NodeId Field} {n : NodeId}
    (h : FieldsFor computed t) (hnew : n ∉ computed.map Prod.fst) : n ∉ t.keys := by
  intro hmem
  obtain ⟨f, hf⟩ := Table.mem_keys_iff.mp hmem
  obtain ⟨found, hin, -⟩ := h.sound n f hf
  exact hnew (List.mem_map.mpr ⟨_, hin, rfl⟩)

/-- A field of the table has an old number, and the next field the next number. -/
theorem FieldsFor.name_ne {computed : List (NodeId × Node)} {t : Table NodeId Field} {n : NodeId} {f : Field}
    (h : FieldsFor computed t) (hn : t.get? n = some f) (s : String) : f.name ≠ s ++ "_" ++ toString t.size := by
  intro heq
  obtain ⟨s', i, hi, hname⟩ := h.numbered n f hn
  rw [hname] at heq
  have := Identifier.number_of_suffix heq
  omega

theorem FieldsFor.field {computed : List (NodeId × Node)} {t : Table NodeId Field} {n : NodeId} {node : Node}
    (h : FieldsFor computed t) (hfield : node.hasField = true) (hnew : n ∉ computed.map Prod.fst) :
    FieldsFor (computed ++ [(n, node)])
      (t.set n ⟨Identifier.ofText node.name "node" ++ "_" ++ toString t.size, node.origin⟩) where
  sound := by
    intro m f hm
    rw [Table.get?_set] at hm
    split at hm
    · rename_i heq
      injection hm with hm
      refine ⟨node, ?_, hfield, by rw [← hm]⟩
      rw [heq]
      simp
    · obtain ⟨found, hin, hyes, hf⟩ := h.sound m f hm
      exact ⟨found, List.mem_append_left _ hin, hyes, hf⟩
  complete := by
    intro m found hin hyes
    rw [Table.get?_set]
    split
    · exact ⟨_, rfl⟩
    · rename_i hne
      rcases List.mem_append.mp hin with hin | hin
      · exact h.complete m found hin hyes
      · rw [List.mem_singleton] at hin
        injection hin with hm
        exact absurd hm hne
  numbered := by
    intro m f hm
    have hsize : (t.set n ⟨Identifier.ofText node.name "node" ++ "_" ++ toString t.size, node.origin⟩).size
        = t.size + 1 := by
      unfold Table.size
      rw [Table.entries_set_of_not_mem (h.not_mem_keys hnew), List.length_append, List.length_singleton]
    rw [hsize]
    rw [Table.get?_set] at hm
    split at hm
    · injection hm with hm
      exact ⟨_, t.size, Nat.lt_succ_self _, by rw [← hm]⟩
    · obtain ⟨s, i, hi, hname⟩ := h.numbered m f hm
      exact ⟨s, i, Nat.lt_succ_of_lt hi, hname⟩
  distinct := by
    intro m m' f f' hm hm' heq
    rw [Table.get?_set] at hm hm'
    split at hm
    · rename_i hmn
      split at hm'
      · rename_i hmn'
        rw [hmn, hmn']
      · injection hm with hm
        rw [← hm] at heq
        exact absurd heq.symm (h.name_ne hm' _)
    · split at hm'
      · injection hm' with hm'
        rw [← hm'] at heq
        exact absurd heq (h.name_ne hm _)
      · exact h.distinct m m' f f' hm hm' heq

theorem foldl_fieldsFor (rest : List (NodeId × Node)) {done : List (NodeId × Node)} {t : Table NodeId Field}
    (h : FieldsFor done t) (hnodup : ((done ++ rest).map Prod.fst).Nodup) :
    FieldsFor (done ++ rest) ((rest.filter (·.2.hasField)).foldl (fun t e =>
      t.set e.1 ⟨Identifier.ofText e.2.name "node" ++ "_" ++ toString t.size, e.2.origin⟩) t) := by
  induction rest generalizing done t with
  | nil => simpa using h
  | cons e rest ih =>
      have happ : done ++ e :: rest = (done ++ [e]) ++ rest := by simp
      rw [happ] at hnodup ⊢
      cases hfield : e.2.hasField with
      | false =>
          have hfilter : (e :: rest).filter (·.2.hasField) = rest.filter (·.2.hasField) := by simp [hfield]
          rw [hfilter]
          exact ih (h.skip hfield) hnodup
      | true =>
          have hfilter : (e :: rest).filter (·.2.hasField) = e :: rest.filter (·.2.hasField) := by simp [hfield]
          rw [hfilter, List.foldl_cons]
          refine ih (h.field hfield ?_) hnodup
          rw [List.map_append, List.map_append] at hnodup
          have hdone := (List.nodup_append.mp hnodup).1
          intro hmem
          exact (List.nodup_append.mp hdone).2.2 _ hmem e.1 (by simp) rfl

theorem fieldsOf_spec {computed : List (NodeId × Node)} (hnodup : (computed.map Prod.fst).Nodup) :
    FieldsFor computed (fieldsOf computed) := by
  have hempty : FieldsFor [] (∅ : Table NodeId Field) := {
    sound := fun n f hn => absurd hn (by simp)
    complete := fun n node hin => absurd hin (by simp)
    numbered := fun n f hn => absurd hn (by simp)
    distinct := fun n m f f' hn => absurd hn (by simp) }
  exact foldl_fieldsFor computed hempty hnodup

end SignalGraph.Program
