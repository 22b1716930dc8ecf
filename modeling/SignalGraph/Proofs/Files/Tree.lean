import SignalGraph.Files.Tree
import SignalGraph.Proofs.Sequence
import SignalGraph.Proofs.Table

/-!
# Places and what is at them

A path leads to one place, whatever the tree holds (`placeOf`); the tree decides only whether the way there is open.
What is done at a path changes what is at its place, and making directories fills empty places on the way. So a
directory, once there, stays, and a file that can be read stays readable until its own place is written.
-/

namespace SignalGraph

/-! ## Parts of paths -/

namespace Text

variable {p : Char → Bool}

theorem splitOn_ne_nil (cs : List Char) : splitOn p cs ≠ [] := by
  induction cs with
  | nil => simp [splitOn]
  | cons c cs ih =>
      unfold splitOn
      split
      · simp
      · split <;> simp

theorem splitOn_append {c : Char} (hc : p c = true) (cs ds : List Char) :
    splitOn p (cs ++ c :: ds) = splitOn p cs ++ splitOn p ds := by
  induction cs with
  | nil => simp [splitOn, hc]
  | cons d cs ih =>
      rw [List.cons_append, splitOn, splitOn, ih]
      split
      · rfl
      · cases hcs : splitOn p cs with
        | nil => exact absurd hcs (splitOn_ne_nil cs)
        | cons w ws => rfl

theorem splitOn_of_none {cs : List Char} (h : ∀ c ∈ cs, p c = false) : splitOn p cs = [cs] := by
  induction cs with
  | nil => rfl
  | cons c cs ih =>
      rw [splitOn, h c List.mem_cons_self, ih fun d hd => h d (List.mem_cons_of_mem _ hd)]
      rfl

end Text

/-- A name of one part, which a path may end with. -/
structure IsFileName (name : String) : Prop where
  ne_empty : name ≠ ""
  ne_point : name ≠ "."
  ne_points : name ≠ ".."
  no_slash : '/' ∉ name.toList

namespace FileTree

theorem parts_append (directory path : String) :
    parts (directory ++ "/" ++ path) = parts directory ++ parts path := by
  have hslash : ("/" : String).toList = ['/'] := rfl
  unfold parts
  rw [String.toList_append, String.toList_append, hslash, List.append_assoc, List.singleton_append,
    Text.splitOn_append (by rfl), List.map_append, List.filter_append]

theorem parts_of_no_slash {name : String} (hne : name ≠ "") (hslash : '/' ∉ name.toList) : parts name = [name] := by
  have hnone : ∀ c ∈ name.toList, (c == '/') = false := by
    intro c hc
    rw [beq_eq_false_iff_ne]
    rintro rfl
    exact hslash hc
  unfold parts
  rw [Text.splitOn_of_none hnone, List.map_singleton, String.ofList_toList]
  simp [hne]

/-- What stands in front of a name that is joined to a directory. -/
theorem joinPath_cases (directory : String) {name : String} (h : IsFileName name) :
    directory = "" ∧ joinPath directory name = name ∨
      ∃ front, parts front = parts directory ∧ joinPath directory name = front ++ "/" ++ name := by
  have hrelative : name.startsWith "/" = false := by
    rw [Bool.eq_false_iff]
    intro hstart
    obtain ⟨rest, hrest⟩ := String.startsWith_string_iff.mp hstart
    exact h.no_slash (by simp [← hrest])
  unfold joinPath
  rw [hrelative, Bool.false_or]
  split
  · rename_i hempty
    exact Or.inl ⟨String.isEmpty_iff.mp hempty, rfl⟩
  · split
    · rename_i hend
      rw [← String.endsWith_toSlice, String.Slice.endsWith_string_iff, String.copy_toSlice] at hend
      obtain ⟨front, hfront⟩ := hend
      have hsplit : directory = String.ofList front ++ "/" := String.toList_inj.mp (by simpa using hfront.symm)
      refine Or.inr ⟨String.ofList front, ?_, by rw [← hsplit]⟩
      -- a slash at the end of the directory adds no part to it
      have hparts := parts_append (String.ofList front) ""
      have hnone : parts "" = [] := rfl
      rw [String.append_empty, ← hsplit, hnone, List.append_nil] at hparts
      exact hparts.symm
    · exact Or.inr ⟨directory, rfl, rfl⟩

theorem parts_joinPath {directory name : String} (h : IsFileName name) :
    parts (joinPath directory name) = parts directory ++ [name] := by
  have hname := parts_of_no_slash h.ne_empty h.no_slash
  rcases joinPath_cases directory h with ⟨hempty, hjoin⟩ | ⟨front, hfront, hjoin⟩
  · rw [hjoin, hname, hempty]
    rfl
  · rw [hjoin, parts_append, hname, hfront]

theorem endsWith_joinPath {directory name : String} (h : IsFileName name) :
    (joinPath directory name).endsWith "/" = false := by
  rw [Bool.eq_false_iff]
  intro hend
  rw [← String.endsWith_toSlice, String.Slice.endsWith_string_iff, String.copy_toSlice] at hend
  obtain ⟨before, hbefore⟩ := hend
  obtain ⟨front, hfront⟩ : ∃ front : String, joinPath directory name = front ++ name := by
    rcases joinPath_cases directory h with ⟨-, hjoin⟩ | ⟨front, -, hjoin⟩
    · exact ⟨"", by rw [hjoin, String.empty_append]⟩
    · exact ⟨front ++ "/", hjoin⟩
  have hne : name.toList ≠ [] := by
    intro hnil
    exact h.ne_empty (String.toList_inj.mp hnil)
  -- the last character is one of the name
  have hlast := congrArg List.getLast? hbefore
  rw [hfront, String.toList_append, List.getLast?_append_of_ne_nil _ hne] at hlast
  refine h.no_slash (List.mem_of_getLast? (a := '/') ?_)
  rw [← hlast]
  simp

/-! ## Places -/

/-- The place that a part of a path leads to from another. -/
def follow (place : List String) (part : String) : List String :=
  if part == "." then place else if part == ".." then holder place else place ++ [part]

/-- The place that a path leads to. -/
def placeOf (path : String) : List String := (parts path).foldl follow []

theorem follow_of_isFileName {name : String} (h : IsFileName name) (place : List String) :
    follow place name = place ++ [name] := by
  unfold follow
  rw [if_neg (by simpa using h.ne_point), if_neg (by simpa using h.ne_points)]

theorem placeOf_joinPath {directory name : String} (h : IsFileName name) :
    placeOf (joinPath directory name) = placeOf directory ++ [name] := by
  unfold placeOf
  rw [parts_joinPath h, List.foldl_append, List.foldl_cons, List.foldl_nil, follow_of_isFileName h]

variable {t t' t₁ t₂ : FileTree}

theorem entryAt?_set (t : FileTree) (place place' : List String) (e : FileEntry) :
    (t.set place e).entryAt? place' =
      if isAbove place' then some .directory else if place' = place then some e else t.entryAt? place' := by
  unfold entryAt? set
  dsimp only
  rw [Table.get?_set]
  split
  · rfl
  · rfl

/-! ## Ways -/

theorem lookup_eq_ok_iff {place : List String} {name : String} {found : Option FileEntry} :
    t.lookup place name = .ok found ↔ name.utf8ByteSize ≤ maxNameBytes ∧ t.entryAt? (place ++ [name]) = found := by
  unfold lookup
  split
  · rename_i hlong
    simp [Nat.not_le_of_lt hlong]
  · rename_i hshort
    simp [Nat.le_of_not_lt hshort]

/-- The way to a part is open if the part is a point or two, or if a directory has its name. -/
theorem enter_eq_ok_iff {place place' : List String} {part : String} :
    t.enter place part = .ok place' ↔ place' = follow place part ∧ (part ≠ "." → part ≠ ".." →
      part.utf8ByteSize ≤ maxNameBytes ∧ t.entryAt? (place ++ [part]) = some .directory) := by
  unfold enter follow
  by_cases hpoint : part = "."
  · simp [hpoint, eq_comm]
  · by_cases hpoints : part = ".."
    · simp [hpoints, eq_comm]
    · simp only [beq_iff_eq, hpoint, hpoints, if_false, ne_eq, not_false_eq_true, forall_true_left]
      constructor
      · intro h
        obtain ⟨found, hlookup, hfound⟩ := Except.bind_eq_ok_iff.mp h
        obtain ⟨hshort, hentry⟩ := lookup_eq_ok_iff.mp hlookup
        match found, hfound with
        | some .directory, hfound =>
            injection hfound with hfound
            exact ⟨hfound.symm, hshort, hentry⟩
      · rintro ⟨rfl, hdirectory⟩
        exact Except.bind_eq_ok_iff.mpr ⟨_, lookup_eq_ok_iff.mpr hdirectory, rfl⟩

theorem foldlM_enter {ps : List String} {place place' : List String} (h : ps.foldlM t.enter place = .ok place') :
    place' = ps.foldl follow place := by
  induction ps generalizing place with
  | nil =>
      injection h with h
      exact h.symm
  | cons p ps ih =>
      rw [List.foldlM_cons] at h
      obtain ⟨next, hnext, hrest⟩ := Except.bind_eq_ok_iff.mp h
      rw [List.foldl_cons, ← (enter_eq_ok_iff.mp hnext).1]
      exact ih hrest

theorem locate_eq_ok_iff {path : String} {e : PathEnd} : t.locate path = .ok e ↔
    checkPath path = .ok () ∧ (parts path).dropLast.foldlM t.enter [] = .ok e.place
      ∧ e.name = (parts path).getLastD "." ∧ e.slash = path.endsWith "/" := by
  unfold locate
  constructor
  · intro h
    obtain ⟨⟨⟩, hcheck, h⟩ := Except.bind_eq_ok_iff.mp h
    obtain ⟨place, hway, h⟩ := Except.bind_eq_ok_iff.mp h
    injection h with h
    subst h
    exact ⟨hcheck, hway, rfl, rfl⟩
  · rintro ⟨hcheck, hway, hname, hslash⟩
    obtain ⟨place, name, slash⟩ := e
    dsimp only at hway hname hslash
    subst hname hslash
    exact Except.bind_eq_ok_iff.mpr ⟨(), hcheck, Except.bind_eq_ok_iff.mpr ⟨place, hway, rfl⟩⟩

/-- The last part of a path, if it is a name, is at the place of the path. -/
theorem placeOf_of_locate {path : String} {e : PathEnd} (h : t.locate path = .ok e) (hname : e.isPoints = false) :
    placeOf path = e.place ++ [e.name] := by
  obtain ⟨-, hway, hlast, -⟩ := locate_eq_ok_iff.mp h
  unfold PathEnd.isPoints at hname
  simp only [Bool.or_eq_false_iff, beq_eq_false_iff_ne] at hname
  rcases List.eq_nil_or_concat (parts path) with hparts | ⟨front, last, hparts⟩
  · rw [hparts] at hlast
    exact absurd hlast hname.1
  · rw [List.concat_eq_append] at hparts
    rw [hparts, List.dropLast_concat] at hway
    rw [hparts, List.getLastD_concat] at hlast
    unfold placeOf
    rw [hparts, List.foldl_append, ← foldlM_enter hway, List.foldl_cons, List.foldl_nil, ← hlast]
    unfold follow
    rw [if_neg (by simpa using hname.1), if_neg (by simpa using hname.2)]

/-! ## What is at a path -/

theorem find_eq_ok_iff {path : String} {found : FileEntry} : t.find path = .ok found ↔
    ∃ e, t.locate path = .ok e ∧ (e.isPoints = true ∧ found = .directory ∨
      e.isPoints = false ∧ e.name.utf8ByteSize ≤ maxNameBytes ∧ t.entryAt? (placeOf path) = some found
        ∧ (e.slash = true → found = .directory)) := by
  unfold find
  rw [Except.bind_eq_ok_iff]
  refine exists_congr fun e => and_congr_right fun hlocate => ?_
  cases hpoints : e.isPoints with
  | true =>
      rw [if_pos rfl]
      constructor
      · intro h
        injection h with h
        exact Or.inl ⟨rfl, h.symm⟩
      · rintro (⟨-, rfl⟩ | ⟨h, -⟩)
        · rfl
        · exact absurd h (by simp)
  | false =>
      rw [placeOf_of_locate hlocate hpoints, if_neg (by simp), Except.bind_eq_ok_iff]
      simp only [Bool.false_eq_true, false_and, true_and, false_or]
      constructor
      · rintro ⟨entry, hlookup, h⟩
        obtain ⟨hshort, hentry⟩ := lookup_eq_ok_iff.mp hlookup
        match entry, h with
        | some .directory, h =>
            injection h with h
            subst h
            exact ⟨hshort, hentry, fun _ => rfl⟩
        | some (.file bs), h =>
            dsimp only at h
            split at h
            · exact absurd h (by simp [throw, throwThe, MonadExceptOf.throw])
            · rename_i hslash
              injection h with h
              subst h
              exact ⟨hshort, hentry, fun h => absurd h hslash⟩
      · rintro ⟨hshort, hentry, hslash⟩
        refine ⟨some found, lookup_eq_ok_iff.mpr ⟨hshort, hentry⟩, ?_⟩
        cases found with
        | directory => rfl
        | file bs =>
            have hno : e.slash = false := by
              rw [Bool.eq_false_iff]
              intro h
              exact absurd (hslash h) (by simp)
            dsimp only
            rw [hno]
            rfl

theorem read_eq_ok_iff {path : String} {bs : List UInt8} : t.read path = .ok bs ↔
    ∃ e, t.locate path = .ok e ∧ e.isPoints = false ∧ e.slash = false ∧ e.name.utf8ByteSize ≤ maxNameBytes
      ∧ t.entryAt? (placeOf path) = some (.file bs) := by
  unfold read
  rw [Except.bind_eq_ok_iff]
  constructor
  · rintro ⟨found, hfind, h⟩
    match found, h with
    | .file found, h =>
        injection h with h
        subst h
        obtain ⟨e, hlocate, hpoints | ⟨hpoints, hshort, hentry, hslash⟩⟩ := find_eq_ok_iff.mp hfind
        · exact absurd hpoints.2 (by simp)
        · refine ⟨e, hlocate, hpoints, ?_, hshort, hentry⟩
          rw [Bool.eq_false_iff]
          intro h
          exact absurd (hslash h) (by simp)
  · rintro ⟨e, hlocate, hpoints, hslash, hshort, hentry⟩
    refine ⟨.file bs, find_eq_ok_iff.mpr ⟨e, hlocate, Or.inr ⟨hpoints, hshort, hentry, ?_⟩⟩, rfl⟩
    rw [hslash]
    simp

theorem isPresent_of_read {path : String} {bs : List UInt8} (h : t.read path = .ok bs) : t.isPresent path = true := by
  unfold read at h
  obtain ⟨found, hfind, -⟩ := Except.bind_eq_ok_iff.mp h
  unfold isPresent
  rw [hfind]
  rfl

/-- Nothing is at a name in a directory if there is nothing at its place. -/
theorem isPresent_eq_false {directory name : String} (hname : IsFileName name)
    (h : t.entryAt? (placeOf directory ++ [name]) = none) : t.isPresent (joinPath directory name) = false := by
  cases hfind : t.find (joinPath directory name) with
  | error e =>
      unfold isPresent
      rw [hfind]
      rfl
  | ok found =>
      exfalso
      obtain ⟨e, hlocate, hfound⟩ := find_eq_ok_iff.mp hfind
      have hlast := (locate_eq_ok_iff.mp hlocate).2.2.1
      rw [parts_joinPath hname, List.getLastD_concat] at hlast
      rcases hfound with ⟨hpoints, -⟩ | ⟨-, -, hentry, -⟩
      · unfold PathEnd.isPoints at hpoints
        rw [hlast] at hpoints
        simp [hname.ne_point, hname.ne_points] at hpoints
      · rw [placeOf_joinPath hname, h] at hentry
        exact absurd hentry (by simp)

theorem find_of_isDirectory {path : String} (h : t.isDirectory path = true) : t.find path = .ok .directory := by
  unfold isDirectory at h
  split at h
  · rename_i hfind
    exact hfind
  · exact absurd h (by simp)

/-- The way to a directory is open to its end. -/
theorem foldlM_enter_of_isDirectory {path : String} (h : t.isDirectory path = true) :
    (parts path).foldlM t.enter [] = .ok (placeOf path) := by
  obtain ⟨e, hlocate, hend⟩ := find_eq_ok_iff.mp (find_of_isDirectory h)
  obtain ⟨-, hway, hlast, -⟩ := locate_eq_ok_iff.mp hlocate
  unfold placeOf
  rcases List.eq_nil_or_concat (parts path) with hparts | ⟨front, last, hparts⟩
  · rw [hparts]
    rfl
  · rw [List.concat_eq_append] at hparts
    rw [hparts, List.dropLast_concat] at hway
    rw [hparts, List.getLastD_concat] at hlast
    have henter : t.enter e.place last = .ok (follow e.place last) := by
      refine enter_eq_ok_iff.mpr ⟨rfl, ?_⟩
      intro hpoint hpoints
      rcases hend with ⟨hisPoints, -⟩ | ⟨hnot, hshort, hentry, -⟩
      · unfold PathEnd.isPoints at hisPoints
        simp [hlast, hpoint, hpoints] at hisPoints
      · rw [placeOf_of_locate hlocate hnot, hlast] at hentry
        exact ⟨hlast ▸ hshort, hentry⟩
    rw [hparts, List.foldlM_append, List.foldl_append, ← foldlM_enter hway, List.foldl_cons, List.foldl_nil]
    exact Except.bind_eq_ok_iff.mpr ⟨e.place, hway, Except.bind_eq_ok_iff.mpr ⟨_, henter, rfl⟩⟩

/-! ## What stays -/

/-- The directories of `t` are directories of `t'`. -/
def KeepsDirectories (t t' : FileTree) : Prop :=
  ∀ place, t.entryAt? place = some .directory → t'.entryAt? place = some .directory

theorem KeepsDirectories.foldlM_enter (h : KeepsDirectories t t') {ps : List String} {place place' : List String}
    (hway : ps.foldlM t.enter place = .ok place') : ps.foldlM t'.enter place = .ok place' := by
  induction ps generalizing place with
  | nil => exact hway
  | cons p ps ih =>
      rw [List.foldlM_cons] at hway ⊢
      obtain ⟨next, hnext, hrest⟩ := Except.bind_eq_ok_iff.mp hway
      obtain ⟨hplace, hopen⟩ := enter_eq_ok_iff.mp hnext
      refine Except.bind_eq_ok_iff.mpr ⟨next, enter_eq_ok_iff.mpr ⟨hplace, ?_⟩, ih hrest⟩
      intro hpoint hpoints
      exact ⟨(hopen hpoint hpoints).1, h _ (hopen hpoint hpoints).2⟩

theorem KeepsDirectories.locate (h : KeepsDirectories t t') {path : String} {e : PathEnd}
    (hlocate : t.locate path = .ok e) : t'.locate path = .ok e := by
  obtain ⟨hcheck, hway, hrest⟩ := locate_eq_ok_iff.mp hlocate
  exact locate_eq_ok_iff.mpr ⟨hcheck, h.foldlM_enter hway, hrest⟩

/-- A file is read as before if its place is left alone. -/
theorem KeepsDirectories.read (h : KeepsDirectories t t') {path : String} {bs : List UInt8}
    (hread : t.read path = .ok bs) (hentry : t'.entryAt? (placeOf path) = t.entryAt? (placeOf path)) :
    t'.read path = .ok bs := by
  obtain ⟨e, hlocate, hpoints, hslash, hshort, hfile⟩ := read_eq_ok_iff.mp hread
  exact read_eq_ok_iff.mpr ⟨e, h.locate hlocate, hpoints, hslash, hshort, hentry.trans hfile⟩

/-! ## Writing -/

/-- At one place there is `e` now, and there was no directory before. -/
structure Puts (place : List String) (e : FileEntry) (t t' : FileTree) : Prop where
  free : t.entryAt? place ≠ some .directory
  entry : t'.entryAt? place = some e
  other : ∀ p, p ≠ place → t'.entryAt? p = t.entryAt? p

theorem Puts.keepsDirectories {place : List String} {e : FileEntry} (h : Puts place e t t') : KeepsDirectories t t' := by
  intro p hp
  rw [h.other p fun heq => h.free (heq ▸ hp)]
  exact hp

theorem puts_set {place : List String} (e : FileEntry) (h : t.entryAt? place ≠ some .directory) :
    Puts place e t (t.set place e) := by
  have hnot : isAbove place = false := by
    rw [Bool.eq_false_iff]
    intro habove
    exact h (by rw [entryAt?, if_pos habove])
  refine ⟨h, ?_, ?_⟩
  · rw [entryAt?_set, hnot, if_neg (by simp), if_pos rfl]
  · intro p hp
    rw [entryAt?_set, if_neg hp]
    unfold entryAt?
    split <;> rfl

theorem write_eq_ok {path : String} {bs : List UInt8} (h : t.write path bs = .ok t') :
    Puts (placeOf path) (.file bs) t t' ∧ t'.read path = .ok bs := by
  unfold write at h
  obtain ⟨e, hlocate, h⟩ := Except.bind_eq_ok_iff.mp h
  cases hend : e.isPoints || e.slash with
  | true =>
      rw [hend, if_pos rfl] at h
      exact absurd h (by simp [throw, throwThe, MonadExceptOf.throw])
  | false =>
      rw [hend, if_neg (by simp)] at h
      obtain ⟨hpoints, hslash⟩ := Bool.or_eq_false_iff.mp hend
      have hplace := placeOf_of_locate hlocate hpoints
      obtain ⟨found, hlookup, h⟩ := Except.bind_eq_ok_iff.mp h
      obtain ⟨hshort, hentry⟩ := lookup_eq_ok_iff.mp hlookup
      rw [← hplace] at hentry h
      have hset : found ≠ some .directory ∧ t.set (placeOf path) (.file bs) = t' := by
        match found, h with
        | some (.file _), h =>
            injection h with h
            exact ⟨by simp, h⟩
        | none, h =>
            injection h with h
            exact ⟨by simp, h⟩
      obtain ⟨hfree, rfl⟩ := hset
      have hputs : Puts (placeOf path) (.file bs) t (t.set (placeOf path) (.file bs)) :=
        puts_set _ (hentry ▸ hfree)
      refine ⟨hputs, read_eq_ok_iff.mpr ?_⟩
      exact ⟨e, hputs.keepsDirectories.locate hlocate, hpoints, hslash, hshort, hputs.entry⟩

/-- A file is written if the way is open, the name is short enough and no directory has it. -/
theorem exists_write {directory name : String} (hname : IsFileName name)
    (hcheck : checkPath (joinPath directory name) = .ok ()) (hshort : name.utf8ByteSize ≤ maxNameBytes)
    (hway : (parts directory).foldlM t.enter [] = .ok (placeOf directory))
    (hfree : t.entryAt? (placeOf directory ++ [name]) ≠ some .directory) (bs : List UInt8) :
    ∃ t', t.write (joinPath directory name) bs = .ok t' := by
  have hlocate : t.locate (joinPath directory name) = .ok ⟨placeOf directory, name, false⟩ := by
    refine locate_eq_ok_iff.mpr ⟨hcheck, ?_, ?_, (endsWith_joinPath hname).symm⟩
    · rw [parts_joinPath hname, List.dropLast_concat]
      exact hway
    · rw [parts_joinPath hname, List.getLastD_concat]
  have hlookup : t.lookup (placeOf directory) name = .ok (t.entryAt? (placeOf directory ++ [name])) :=
    lookup_eq_ok_iff.mpr ⟨hshort, rfl⟩
  have hend : (PathEnd.isPoints ⟨placeOf directory, name, false⟩ || false) = false := by
    simp [PathEnd.isPoints, hname.ne_point, hname.ne_points]
  refine ⟨t.set (placeOf directory ++ [name]) (.file bs), Except.bind_eq_ok_iff.mpr ⟨_, hlocate, ?_⟩⟩
  rw [if_neg (by rw [hend]; simp)]
  refine Except.bind_eq_ok_iff.mpr ⟨_, hlookup, ?_⟩
  split
  · rename_i heq
    exact absurd heq hfree
  · rfl

/-! ## Making directories -/

/-- Some of the places, at which there was nothing, are directories now. -/
def MakesDirectories (places : List (List String)) (t t' : FileTree) : Prop :=
  ∀ p, t'.entryAt? p = t.entryAt? p ∨ p ∈ places ∧ t.entryAt? p = none ∧ t'.entryAt? p = some .directory

theorem MakesDirectories.refl (places : List (List String)) (t : FileTree) : MakesDirectories places t t :=
  fun _ => Or.inl rfl

theorem MakesDirectories.trans {places : List (List String)} (h : MakesDirectories places t t₁)
    (h' : MakesDirectories places t₁ t₂) : MakesDirectories places t t₂ := by
  intro p
  rcases h' p with hsame' | ⟨hmem, hnone, hmade⟩
  · rw [hsame']
    exact h p
  · rcases h p with hsame | ⟨-, -, hmade'⟩
    · exact Or.inr ⟨hmem, hsame ▸ hnone, hmade⟩
    · exact absurd (hnone.symm.trans hmade') (by simp)

theorem MakesDirectories.mono {places places' : List (List String)} (h : MakesDirectories places t t')
    (hsub : places ⊆ places') : MakesDirectories places' t t' :=
  fun p => (h p).imp_right fun hmade => ⟨hsub hmade.1, hmade.2⟩

theorem MakesDirectories.keepsDirectories {places : List (List String)} (h : MakesDirectories places t t') :
    KeepsDirectories t t' := by
  intro p hp
  rcases h p with hsame | ⟨-, -, hmade⟩
  · exact hsame.trans hp
  · exact hmade

theorem MakesDirectories.entryAt?_eq {places : List (List String)} (h : MakesDirectories places t t') {p : List String}
    (hp : p ∉ places) : t'.entryAt? p = t.entryAt? p :=
  (h p).resolve_right fun hmade => hp hmade.1

theorem makeDirectory_eq_ok {path : String} (h : t.makeDirectory path = .ok t') :
    MakesDirectories [placeOf path] t t' ∧ t'.isDirectory path = true := by
  unfold makeDirectory at h
  obtain ⟨e, hlocate, h⟩ := Except.bind_eq_ok_iff.mp h
  cases hpoints : e.isPoints with
  | true =>
      rw [hpoints, if_pos rfl] at h
      exact absurd h (by simp [throw, throwThe, MonadExceptOf.throw])
  | false =>
      rw [hpoints, if_neg (by simp)] at h
      have hplace := placeOf_of_locate hlocate hpoints
      obtain ⟨found, hlookup, h⟩ := Except.bind_eq_ok_iff.mp h
      obtain ⟨hshort, hentry⟩ := lookup_eq_ok_iff.mp hlookup
      rw [← hplace] at hentry h
      match found, h with
      | none, h =>
          injection h with h
          subst h
          have hputs : Puts (placeOf path) .directory t (t.set (placeOf path) .directory) :=
            puts_set _ (by rw [hentry]; simp)
          constructor
          · intro p
            by_cases hp : p = placeOf path
            · subst hp
              exact Or.inr ⟨List.mem_singleton_self _, hentry, hputs.entry⟩
            · exact Or.inl (hputs.other p hp)
          · have hlocated := hputs.keepsDirectories.locate hlocate
            unfold isDirectory
            rw [find_eq_ok_iff.mpr ⟨e, hlocated, Or.inr ⟨hpoints, hshort, hputs.entry, fun _ => rfl⟩⟩]

theorem ensureDirectory_eq_ok {path : String} (h : t.ensureDirectory path = .ok t') :
    MakesDirectories [placeOf path] t t' ∧ t'.isDirectory path = true := by
  unfold ensureDirectory at h
  split at h
  · split at h
    · rename_i hthere
      injection h with h
      exact h ▸ ⟨.refl _ _, hthere⟩
    · exact absurd h (by simp)
  · exact makeDirectory_eq_ok h

/-- The directories that hold the first one are made before it, and stay. -/
theorem makeFirst_makes (t : FileTree) (paths : List String) :
    MakesDirectories (paths.map placeOf) t (t.makeFirst paths).2 := by
  induction paths with
  | nil => exact .refl _ _
  | cons path holders ih =>
      have hfirst : ∀ {t t' : FileTree}, t.ensureDirectory path = .ok t' →
          MakesDirectories ((path :: holders).map placeOf) t t' := by
        intro t t' h
        exact (ensureDirectory_eq_ok h).1.mono (by simp)
      have hholders : MakesDirectories ((path :: holders).map placeOf) t (t.makeFirst holders).2 :=
        ih.mono (List.subset_cons_self _ _)
      unfold makeFirst
      split
      · rename_i t' h
        exact hfirst h
      · split
        · rename_i e t' hmade
          rw [hmade] at hholders
          exact hholders
        · rename_i t' hmade
          rw [hmade] at hholders
          split
          · rename_i t'' h
            exact hholders.trans (hfirst h)
          · exact hholders
      · exact .refl _ _

theorem makeDirectories_makes (t : FileTree) (path : String) :
    MakesDirectories ((path :: holders path).map placeOf) t (t.makeDirectories path).2 := by
  unfold makeDirectories
  split
  · exact .refl _ _
  · exact makeFirst_makes t _

/-- The first directory is there if all goes well. -/
theorem isDirectory_makeFirst {path : String} {holders : List String} (h : t.makeFirst (path :: holders) = (.ok (), t')) :
    t'.isDirectory path = true := by
  unfold makeFirst at h
  split at h
  · rename_i t₁ hfirst
    injection h with _ h
    exact h ▸ (ensureDirectory_eq_ok hfirst).2
  · split at h
    · exact absurd (congrArg Prod.fst h) (by simp)
    · split at h
      · rename_i t₂ hagain
        injection h with _ h
        exact h ▸ (ensureDirectory_eq_ok hagain).2
      · exact absurd (congrArg Prod.fst h) (by simp)
  · exact absurd (congrArg Prod.fst h) (by simp)

/-- The way to a directory is open once it is made. -/
theorem foldlM_enter_of_makeDirectories {path : String} (h : t.makeDirectories path = (.ok (), t')) :
    (parts path).foldlM t'.enter [] = .ok (placeOf path) := by
  unfold makeDirectories at h
  split at h
  · rename_i hempty
    rw [String.isEmpty_iff.mp hempty]
    rfl
  · exact foldlM_enter_of_isDirectory (isDirectory_makeFirst h)

end FileTree

/-! ## Running on a tree -/

/-- What a computation answers on a tree of files, and the tree that it leaves. -/
def onTree {ε α : Type} (x : ExceptT ε (StateM FileTree) α) (t : FileTree) : Except ε α × FileTree := x.run.run t

section Running

variable {ε ε' α β : Type} (t : FileTree)

/-- A file operation comes first. -/
theorem onTree_bind (x : StateM FileTree β) (f : β → ExceptT ε (StateM FileTree) α) :
    onTree (liftM x >>= f) t = onTree (f (x.run t).1) (x.run t).2 := rfl

theorem run_isPresent (path : String) :
    (Files.isPresent path : StateM FileTree Bool).run t = (t.isPresent path, t) := rfl

theorem run_read (path : String) :
    (Files.read path : StateM FileTree (Except FileError (List UInt8))).run t = (t.read path, t) := rfl

theorem run_makeDirectories (path : String) :
    (Files.makeDirectories path : StateM FileTree (Except FileError Unit)).run t = t.makeDirectories path := rfl

theorem run_write (path : String) (bs : List UInt8) :
    (Files.write path bs : StateM FileTree (Except FileError Unit)).run t = match t.write path bs with
      | .ok t => (.ok (), t)
      | .error e => (.error e, t) := rfl

theorem onTree_seq (x : ExceptT ε (StateM FileTree) β) (f : β → ExceptT ε (StateM FileTree) α) :
    onTree (x >>= f) t = match onTree x t with
      | (.ok b, t') => onTree (f b) t'
      | (.error e, t') => (.error e, t') := by
  have hrun : onTree (x >>= f) t = ((match (onTree x t).1 with
      | .ok b => (f b).run
      | .error e => pure (.error e) : StateM FileTree (Except ε α)).run (onTree x t).2) := rfl
  rw [hrun]
  rcases onTree x t with ⟨answer, t'⟩
  cases answer <;> rfl

theorem onTree_adapt (f : ε → ε') (x : ExceptT ε (StateM FileTree) α) :
    onTree (x.adapt f) t = ((onTree x t).1.mapError f, (onTree x t).2) := rfl

end Running

end SignalGraph
