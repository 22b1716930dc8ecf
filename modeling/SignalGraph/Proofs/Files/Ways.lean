import SignalGraph.Proofs.Files.Tree

/-!
# Ways to directories

When a directory is made, so are those on the way to it. A straight way goes up at its start only, so that everything
on it lies on the way to its end; the directories that are made along it hold the one that is wanted.
-/

namespace SignalGraph

namespace FileTree

/-! ## Paths of parts -/

theorem mem_splitOn {p : Char → Bool} {cs w : List Char} (h : w ∈ Text.splitOn p cs) : ∀ c ∈ w, p c = false := by
  induction cs generalizing w with
  | nil =>
      rw [Text.splitOn, List.mem_singleton] at h
      simp [h]
  | cons c cs ih =>
      unfold Text.splitOn at h
      split at h
      · rcases List.mem_cons.mp h with rfl | h
        · simp
        · exact ih h
      · rename_i hc
        split at h
        · rw [List.mem_singleton] at h
          simpa [h] using hc
        · rename_i v vs hvs
          rcases List.mem_cons.mp h with rfl | h
          · intro d hd
            rcases List.mem_cons.mp hd with rfl | hd
            · simpa using hc
            · exact ih (hvs ▸ List.mem_cons_self) d hd
          · exact ih (hvs ▸ List.mem_cons_of_mem _ h)

theorem mem_parts {path part : String} (h : part ∈ parts path) : part ≠ "" ∧ '/' ∉ part.toList := by
  unfold parts at h
  obtain ⟨hmem, hne⟩ := List.mem_filter.mp h
  obtain ⟨w, hw, rfl⟩ := List.mem_map.mp hmem
  refine ⟨by simpa using hne, ?_⟩
  rw [String.toList_ofList]
  intro hslash
  exact absurd (mem_splitOn hw '/' hslash) (by decide)

theorem parts_intercalate {ps : List String} (h : ∀ p ∈ ps, p ≠ "" ∧ '/' ∉ p.toList) :
    parts (String.intercalate "/" ps) = ps := by
  induction ps with
  | nil => rfl
  | cons p ps ih =>
      have hp := parts_of_no_slash (h p List.mem_cons_self).1 (h p List.mem_cons_self).2
      have hps := ih fun q hq => h q (List.mem_cons_of_mem _ hq)
      cases ps with
      | nil => simpa using hp
      | cons q ps =>
          rw [String.intercalate_cons_cons, parts_append, hp, hps]
          rfl

theorem foldl_follow_filter (ps place : List String) :
    (ps.filter (· != ".")).foldl follow place = ps.foldl follow place := by
  induction ps generalizing place with
  | nil => rfl
  | cons p ps ih =>
      rw [List.filter_cons]
      split
      · rw [List.foldl_cons, List.foldl_cons, ih]
      · rename_i hpoint
        have hstay : follow place p = place := by
          unfold follow
          rw [if_pos (by simpa using hpoint)]
        rw [List.foldl_cons, ih, hstay]

/-- Parts that lead nowhere do not change where a path leads. -/
theorem placeOf_eq_steps (path : String) : placeOf path = (steps path).foldl follow [] := by
  unfold placeOf steps
  dsimp only
  rw [List.foldl_append, foldl_follow_filter, ← List.foldl_append, List.take_append_drop]

theorem mem_steps {path part : String} (h : part ∈ steps path) : part ∈ parts path := by
  rcases List.mem_append.mp h with h | h
  · exact List.mem_of_mem_take h
  · exact List.mem_of_mem_drop (List.mem_filter.mp h).1

/-! ## Straight ways -/

/-- No part leads up, but where only the top and what holds it have been passed. -/
def Straight (place : List String) : List String → Prop
  | [] => True
  | part :: ps => (part = ".." → isAbove place = true) ∧ Straight (follow place part) ps

/-- Whether a path goes up at its start only. -/
def IsStraight (path : String) : Prop := Straight [] (steps path)

theorem holder_of_isAbove {place : List String} (h : isAbove place = true) : holder place = place ++ [".."] := by
  have hall : place = List.replicate place.length ".." := by
    refine List.eq_replicate_iff.mpr ⟨rfl, ?_⟩
    intro part hpart
    simpa using List.all_eq_true.mp h part hpart
  unfold holder
  rw [if_pos h, hall, ← List.replicate_succ, List.replicate_succ']

theorem prefix_follow {place : List String} {part : String} (h : part = ".." → isAbove place = true) :
    place <+: follow place part := by
  unfold follow
  split
  · exact List.prefix_rfl
  · split
    · rename_i hpoints
      rw [holder_of_isAbove (h (by simpa using hpoints))]
      exact List.prefix_append _ _
    · exact List.prefix_append _ _

theorem Straight.prefix_foldl {place ps : List String} (h : Straight place ps) : place <+: ps.foldl follow place := by
  induction ps generalizing place with
  | nil => exact List.prefix_rfl
  | cons part ps ih => exact (prefix_follow h.1).trans (ih h.2)

theorem Straight.prefix_take {place ps : List String} (h : Straight place ps) (n : Nat) :
    (ps.take n).foldl follow place <+: ps.foldl follow place := by
  induction ps generalizing place n with
  | nil => simp
  | cons part ps ih =>
      cases n with
      | zero => exact h.prefix_foldl
      | succ n => exact ih h.2 n

/-- What is on a straight way holds the place to which the way leads. -/
theorem IsStraight.prefix_placeOf {path : String} (h : IsStraight path) :
    ∀ p ∈ path :: holders path, placeOf p <+: placeOf path := by
  intro p hp
  rcases List.mem_cons.mp hp with rfl | hp
  · exact List.prefix_rfl
  · unfold holders at hp
    obtain ⟨n, -, rfl⟩ := List.mem_map.mp hp
    have hparts : parts (String.intercalate "/" ((steps path).take n)) = (steps path).take n :=
      parts_intercalate fun q hq => mem_parts (mem_steps (List.mem_of_mem_take hq))
    have hplace : placeOf (String.intercalate "/" ((steps path).take n)) = ((steps path).take n).foldl follow [] := by
      unfold placeOf
      rw [hparts]
    rw [hplace, placeOf_eq_steps path]
    exact h.prefix_take n

end FileTree

end SignalGraph
