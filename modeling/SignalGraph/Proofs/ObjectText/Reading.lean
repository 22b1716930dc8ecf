import SignalGraph.Proofs.ObjectText.Scanning

/-!
# Written values are read back

The values that records consist of are texts, numbers, sequences, and structures with a name and named fields.
Such a value is written over several lines; `Spells` says that tokens are read as a value wherever they stand, and
`Written` that the text of a value is cut into such tokens. Both are put together from the parts of the value, so
that text of any size is read back (`parse?_render`).
-/

namespace SignalGraph.ObjectText

/-- Whether a name in front of a parenthesis is read as that of a structure. -/
def isStructName (name : String) : Bool := isName name && name != "None" && name != "Some" && !atoms.contains name

/-- The values that records consist of. -/
inductive Value.Plain : Value → Prop where
  | string (s : String) : Plain (.string s)
  | number (n : Nat) (hbound : n < 2 ^ 64) : Plain (.int false n none)
  | list (vs : List Value) (hitems : ∀ v ∈ vs, Plain v) : Plain (.list vs)
  | struct (name : String) (fs : List (String × Value)) (hname : isStructName name = true) (hne : fs ≠ [])
      (hfields : ∀ f ∈ fs, isName f.1 = true) (hvalues : ∀ f ∈ fs, Plain f.2) : Plain (.struct (some name) fs)

/-! ## Tokens of values -/

/-- The tokens are read as the value, whatever follows, where values may nest so deep. -/
def Spells (ts : List Token) (v : Value) : Prop :=
  ∀ x fuel depth rest, ts.length ≤ fuel → v.nesting ≤ depth → readValue x fuel depth (ts ++ rest) = some (v, rest)

/-- The tokens in front of the closing bracket are read as the items of a sequence. -/
def SpellsItems (ts : List Token) (vs : List Value) : Prop :=
  ∀ x fuel depth rest, ts.length < fuel → nestingOfItems vs ≤ depth →
    readItems x fuel depth ']' (ts ++ .mark ']' :: rest) = some (vs, rest)

/-- The tokens in front of the closing parenthesis are read as named fields. -/
def SpellsFields (ts : List Token) (fs : List (String × Value)) : Prop :=
  ∀ x fuel depth rest, ts.length < fuel → nestingOfFields fs ≤ depth →
    readFields x fuel depth (ts ++ .mark ')' :: rest) = some (fs, rest)

/-- Of the marks, only an opening bracket starts a value. -/
theorem Spells.head {ts : List Token} {v : Value} (h : Spells ts v) :
    ∃ t rest, ts = t :: rest ∧ ∀ c, t = .mark c → c = '(' ∨ c = '[' ∨ c = '\x7b' := by
  have hread := h {} (ts.length + 1) (v.nesting + 1) [] (Nat.le_succ _) (Nat.le_succ _)
  rw [List.append_nil] at hread
  cases ts with
  | nil => simp [readValue] at hread
  | cons t rest =>
      refine ⟨t, rest, rfl, ?_⟩
      rintro c rfl
      by_contra hc
      simp only [not_or] at hc
      simp [readValue, hc] at hread

theorem spells_string (s : String) : Spells [.string s] (.string s) := by
  intro x fuel depth rest _ _
  simp [readValue]

theorem spells_number (n : Nat) : Spells [.int false n none] (.int false n none) := by
  intro x fuel depth rest _ _
  simp [readValue]

theorem spellsItems_nil : SpellsItems [] [] := by
  intro x fuel depth rest hfuel _
  obtain ⟨fuel, rfl⟩ : ∃ k, fuel = k + 1 := ⟨fuel - 1, (Nat.succ_pred_eq_of_pos hfuel).symm⟩
  cases depth <;> simp [readItems]

theorem spellsItems_cons {ts ts' : List Token} {v : Value} {vs : List Value} (h : Spells ts v)
    (h' : SpellsItems ts' vs) : SpellsItems (ts ++ .mark ',' :: ts') (v :: vs) := by
  intro x fuel depth rest hfuel hdepth
  rw [List.length_append, List.length_cons] at hfuel
  rw [nestingOfItems] at hdepth
  obtain ⟨fuel, rfl⟩ : ∃ k, fuel = k + 1 := ⟨fuel - 1, by omega⟩
  obtain ⟨depth, rfl⟩ : ∃ k, depth = k + 1 := ⟨depth - 1, by omega⟩
  have hvalue := h x fuel depth (.mark ',' :: (ts' ++ .mark ']' :: rest)) (by omega) (by omega)
  have hitems := h' x fuel (depth + 1) rest (by omega) (by omega)
  have hhead : (ts ++ .mark ',' :: (ts' ++ .mark ']' :: rest)).head? ≠ some (.mark ']') := by
    obtain ⟨t, more, rfl, hmark⟩ := h.head
    intro heq
    injection heq with heq
    exact absurd (hmark ']' heq) (by decide)
  rw [List.append_assoc, List.cons_append, readItems, if_neg (by simpa using hhead)]
  simp [hvalue, hitems]

/-- A sequence between its brackets. -/
theorem spells_list {ts : List Token} {vs : List Value} (h : SpellsItems ts vs) :
    Spells (.mark '[' :: (ts ++ [.mark ']'])) (.list vs) := by
  intro x fuel depth rest hfuel hdepth
  simp only [List.length_cons, List.length_append, List.length_nil] at hfuel
  rw [Value.nesting] at hdepth
  obtain ⟨fuel, rfl⟩ : ∃ k, fuel = k + 1 := ⟨fuel - 1, by omega⟩
  obtain ⟨depth, rfl⟩ : ∃ k, depth = k + 1 := ⟨depth - 1, by omega⟩
  have hitems := h x fuel depth rest (by omega) (by omega)
  rw [List.cons_append, List.append_assoc, List.singleton_append]
  simp [readValue, hitems]

theorem spellsFields_nil : SpellsFields [] [] := by
  intro x fuel depth rest hfuel _
  obtain ⟨fuel, rfl⟩ : ∃ k, fuel = k + 1 := ⟨fuel - 1, (Nat.succ_pred_eq_of_pos hfuel).symm⟩
  simp [readFields]

theorem spellsFields_cons {ts ts' : List Token} {name : String} {v : Value} {fs : List (String × Value)}
    (h : Spells ts v) (h' : SpellsFields ts' fs) :
    SpellsFields (.ident false name :: .mark ':' :: (ts ++ .mark ',' :: ts')) ((name, v) :: fs) := by
  intro x fuel depth rest hfuel hdepth
  simp only [List.length_cons, List.length_append] at hfuel
  rw [nestingOfFields] at hdepth
  obtain ⟨fuel, rfl⟩ : ∃ k, fuel = k + 1 := ⟨fuel - 1, by omega⟩
  obtain ⟨depth, rfl⟩ : ∃ k, depth = k + 1 := ⟨depth - 1, by omega⟩
  have hvalue := h x fuel depth (.mark ',' :: (ts' ++ .mark ')' :: rest)) (by omega) (by omega)
  have hfields := h' x fuel (depth + 1) rest (by omega) (by omega)
  rw [List.cons_append, List.cons_append, List.append_assoc, List.cons_append]
  simp [readFields, hvalue, hfields]

/-- Fields start with the name of the first and its colon. -/
theorem SpellsFields.first {ts : List Token} {fs : List (String × Value)} (h : SpellsFields ts fs) (hne : fs ≠ []) :
    ∃ raw field rest, ts = .ident raw field :: .mark ':' :: rest := by
  have hread := h {} (ts.length + 1) (nestingOfFields fs) [] (Nat.lt_succ_self _) le_rfl
  unfold readFields at hread
  dsimp only at hread
  split at hread
  · rename_i heq
    injection hread with hread
    exact absurd (congrArg Prod.fst hread).symm hne
  · rename_i raw field rest _ heq _
    cases ts with
    | nil => simp at heq
    | cons t ts =>
        cases ts with
        | nil => simp at heq
        | cons t' more =>
            obtain ⟨rfl, rfl, -⟩ : t = .ident raw field ∧ t' = .mark ':' ∧ _ := by simpa using heq
            exact ⟨raw, field, more, rfl⟩
  · exact absurd hread (by simp)

/-- A structure with its name and its fields. The first field shows that the fields are named. -/
theorem spells_struct {ts : List Token} {name : String} {fs : List (String × Value)} (hname : isStructName name = true)
    (hne : fs ≠ []) (h : SpellsFields ts fs) :
    Spells (.ident false name :: .mark '(' :: (ts ++ [.mark ')'])) (.struct (some name) fs) := by
  obtain ⟨raw, field, ts, rfl⟩ := h.first hne
  intro x fuel depth rest hfuel hdepth
  simp only [List.length_cons, List.length_append, List.length_nil] at hfuel
  rw [Value.nesting] at hdepth
  obtain ⟨fuel, rfl⟩ : ∃ k, fuel = k + 2 := ⟨fuel - 2, by omega⟩
  obtain ⟨depth, rfl⟩ : ∃ k, depth = k + 1 := ⟨depth - 1, by omega⟩
  have hfields := h x fuel depth rest (by simp only [List.length_cons]; omega) (by omega)
  obtain ⟨⟨⟨-, hnone⟩, hsome⟩, hatom⟩ : ((isName name = true ∧ name ≠ "None") ∧ name ≠ "Some") ∧ name ∉ atoms := by
    simpa [isStructName] using hname
  simp only [List.cons_append, List.append_assoc, List.nil_append] at hfields ⊢
  simp [readValue, readParens, hnone, hsome, hatom, hfields]

/-! ## Text of values -/

variable {layout : Layout}

/-- With a comma behind it, the text of the value is cut into tokens that spell it, however far in it stands. -/
def Written (layout : Layout) (v : Value) : Prop :=
  ∀ depth, ∃ ts, Reads .blank (renderValue layout depth v ++ [',']) .blank (ts ++ [.mark ',']) ∧ Spells ts v

theorem reads_lineEnd {cs : List Char} {ts : List Token} (h : Reads .blank (cs ++ [',']) .blank (ts ++ [.mark ','])) :
    Reads .blank (cs ++ [',', '\n']) .blank (ts ++ [.mark ',']) := by
  have hend : Reads .blank ['\n'] .blank [] := .one rfl
  have hall := h.append hend
  rwa [List.append_assoc, List.append_nil] at hall

theorem written_string (s : String) : Written layout (.string s) := by
  intro depth
  exact ⟨[.string s], (reads_quote s).append (.one rfl), spells_string s⟩

theorem written_number {n : Nat} (h : n < 2 ^ 64) : Written layout (.int false n none) := by
  intro depth
  refine ⟨[.int false n none], ?_, spells_number n⟩
  simpa [renderValue, renderInt] using reads_number h

/-- The lines of items. -/
theorem written_items {vs : List Value} (h : ∀ v ∈ vs, Written layout v) (depth i : Nat) :
    ∃ ts, Reads .blank (renderItems layout depth i vs) .blank ts ∧ SpellsItems ts vs := by
  induction vs generalizing i with
  | nil => exact ⟨[], .nil _, spellsItems_nil⟩
  | cons v vs ih =>
      obtain ⟨ts, hline, hspell⟩ := h v List.mem_cons_self depth
      obtain ⟨ts', hlines, hspells⟩ := ih (fun w hw => h w (List.mem_cons_of_mem _ hw)) (i + 1)
      refine ⟨ts ++ .mark ',' :: ts', ?_, spellsItems_cons hspell hspells⟩
      have hfront := (reads_indent depth).after_nothing (reads_itemNumber layout i)
      have hall := hfront.after_nothing ((reads_lineEnd hline).append hlines)
      simpa [renderItems] using hall

/-- The lines of named fields. -/
theorem written_fields {fs : List (String × Value)} (hfields : ∀ f ∈ fs, isName f.1 = true)
    (h : ∀ f ∈ fs, Written layout f.2) (depth : Nat) :
    ∃ ts, Reads .blank (renderFields layout depth fs) .blank ts ∧ SpellsFields ts fs := by
  induction fs with
  | nil => exact ⟨[], .nil _, spellsFields_nil⟩
  | cons f fs ih =>
      obtain ⟨name, v⟩ := f
      have hname : isName name = true := hfields (name, v) List.mem_cons_self
      obtain ⟨ts, hline, hspell⟩ := h (name, v) List.mem_cons_self depth
      obtain ⟨ts', hlines, hspells⟩ := ih (fun f hf => hfields f (List.mem_cons_of_mem _ hf))
        (fun f hf => h f (List.mem_cons_of_mem _ hf))
      refine ⟨.ident false name :: .mark ':' :: (ts ++ .mark ',' :: ts'), ?_, spellsFields_cons hspell hspells⟩
      have hfront := (reads_indent depth).after_nothing (reads_field hname)
      have hall := hfront.append ((reads_lineEnd hline).append hlines)
      simpa [renderFields] using hall

/-- A structure ends with its parenthesis, whatever follows. -/
theorem reads_struct {name : String} {fs : List (String × Value)} (hname : isStructName name = true) (hne : fs ≠ [])
    (hfields : ∀ f ∈ fs, isName f.1 = true) (h : ∀ f ∈ fs, Written layout f.2) (depth : Nat) :
    ∃ ts, Reads .blank (renderValue layout depth (.struct (some name) fs)) .blank ts
      ∧ Spells ts (.struct (some name) fs) := by
  obtain ⟨ts, hlines, hspells⟩ := written_fields hfields h (depth + 1)
  have hisName : isName name = true := by
    unfold isStructName at hname
    simp only [Bool.and_eq_true] at hname
    exact hname.1.1.1
  refine ⟨_, ?_, spells_struct hname hne hspells⟩
  have hclose : Reads .blank [')'] .blank [.mark ')'] := .one rfl
  have hall := (reads_opening hisName).append (hlines.append ((reads_indent depth).after_nothing hclose))
  cases fs with
  | nil => exact absurd rfl hne
  | cons f fs => simpa [renderValue] using hall

theorem written_list {vs : List Value} (h : ∀ v ∈ vs, Written layout v) : Written layout (.list vs) := by
  intro depth
  obtain ⟨ts, hlines, hspells⟩ := written_items h (depth + 1) 0
  refine ⟨_, ?_, spells_list hspells⟩
  have hclose : Reads .blank [']', ','] .blank [.mark ']', .mark ','] := .single rfl (.one rfl)
  cases vs with
  | nil =>
      cases hlines
      exact .single rfl hclose
  | cons v vs =>
      have hopen : Reads .blank ['[', '\n'] .blank [.mark '['] := .single rfl (.one rfl)
      have hall := hopen.append (hlines.append ((reads_indent depth).after_nothing hclose))
      simpa [renderValue] using hall

/-- The text of a value of which records consist spells it. -/
theorem Value.Plain.written {v : Value} (h : v.Plain) (layout : Layout) : Written layout v := by
  induction h with
  | string s => exact written_string s
  | number n hbound => exact written_number hbound
  | list vs _ ih => exact written_list ih
  | struct name fs hname hne hfields _ ih =>
      intro depth
      obtain ⟨ts, hreads, hspells⟩ := reads_struct hname hne hfields ih depth
      exact ⟨ts, hreads.append (.one rfl), hspells⟩

/-! ## Whole texts -/

/-- A text that does not start with a number sign names no extensions. -/
theorem readExtensions_of_head {ts : List Token} (h : ts.head? ≠ some (.mark '#')) (fuel : Nat) (x : Extensions) :
    readExtensions fuel x ts = some (x, ts) := by
  unfold readExtensions
  split
  · exact absurd rfl h
  · exact absurd rfl h
  · rfl

theorem Value.Plain.reads_struct {name : String} {fs : List (String × Value)}
    (h : Value.Plain (.struct (some name) fs)) (layout : Layout) :
    ∃ ts, Reads .blank (renderValue layout 0 (.struct (some name) fs)) .blank ts
      ∧ Spells ts (.struct (some name) fs) := by
  cases h with
  | struct _ _ hname hne hfields hvalues =>
      exact ObjectText.reads_struct hname hne hfields (fun f hf => (hvalues f hf).written layout) 0

/--
**A written structure is read back**, with its texts, its numbers and the order of its items and fields. The text may
be followed by blanks and line ends.
-/
theorem parse?_render {name : String} {fs : List (String × Value)} (h : Value.Plain (.struct (some name) fs))
    (hnesting : (Value.struct (some name) fs).nesting ≤ nestingLimit) (layout : Layout) {trailing : String}
    (hblank : ∀ c ∈ trailing.toList, isSpace c = true) :
    parse? (render layout (.struct (some name) fs) ++ trailing) = some ({}, .struct (some name) fs) := by
  obtain ⟨ts, hreads, hspells⟩ := h.reads_struct layout
  have hscan : scan? (render layout (.struct (some name) fs) ++ trailing) = some ts := by
    refine scan?_of_reads ?_
    have hall := hreads.append (reads_spaces hblank)
    rw [List.append_nil] at hall
    rwa [render, String.toList_append, String.toList_ofList]
  have hplain : readExtensions ts.length {} ts = some ({}, ts) := by
    obtain ⟨t, rest, rfl, hmark⟩ := hspells.head
    refine readExtensions_of_head ?_ _ _
    intro heq
    injection heq with heq
    exact absurd (hmark '#' heq) (by decide)
  have hvalue := hspells {} (3 * ts.length + 1) nestingLimit [] (by omega) hnesting
  rw [List.append_nil] at hvalue
  simp [parse?, hscan, hplain, hvalue]

end SignalGraph.ObjectText
