import Mathlib.Data.List.TakeWhile
import SignalGraph.ObjectText.Printer
import SignalGraph.Proofs.ObjectText.Quoting

/-!
# Cutting written text into tokens

`Reads` follows the machine over a piece of text: from what it is in the middle of, to what it is in the middle of
then, with the tokens that are complete by then. Pieces that follow each other are put together by `Reads.append`,
so that each kind of piece that is written between tokens or as a token is looked at once.
-/

namespace SignalGraph.ObjectText

/-- Over the characters `cs`, the machine goes from `m` to `m'` and completes the tokens `ts`. -/
inductive Reads : Mode → List Char → Mode → List Token → Prop where
  | nil (m : Mode) : Reads m [] m []
  | cons {m m₁ m₂ : Mode} {c : Char} {cs : List Char} {ts ts' : List Token} (hstep : m.step? c = some (m₁, ts))
      (hrest : Reads m₁ cs m₂ ts') : Reads m (c :: cs) m₂ (ts ++ ts')

theorem Reads.one {m m' : Mode} {c : Char} {ts : List Token} (h : m.step? c = some (m', ts)) : Reads m [c] m' ts := by
  simpa using Reads.cons h (.nil m')

theorem Reads.append {m m₁ m₂ : Mode} {cs cs' : List Char} {ts ts' : List Token} (h : Reads m cs m₁ ts)
    (h' : Reads m₁ cs' m₂ ts') : Reads m (cs ++ cs') m₂ (ts ++ ts') := by
  induction h with
  | nil => exact h'
  | cons hstep _ ih =>
      rw [List.cons_append, List.append_assoc]
      exact .cons hstep (ih h')

/-- A character that completes no token. -/
theorem Reads.silent {m m₁ m₂ : Mode} {c : Char} {cs : List Char} {ts : List Token}
    (hstep : m.step? c = some (m₁, [])) (hrest : Reads m₁ cs m₂ ts) : Reads m (c :: cs) m₂ ts := .cons hstep hrest

/-- A character that completes a token. -/
theorem Reads.single {m m₁ m₂ : Mode} {c : Char} {cs : List Char} {t : Token} {ts : List Token}
    (hstep : m.step? c = some (m₁, [t])) (hrest : Reads m₁ cs m₂ ts) : Reads m (c :: cs) m₂ (t :: ts) := .cons hstep hrest

/-- Characters that complete no token. -/
theorem Reads.after_nothing {m m₁ m₂ : Mode} {cs cs' : List Char} {ts : List Token} (h : Reads m cs m₁ [])
    (h' : Reads m₁ cs' m₂ ts) : Reads m (cs ++ cs') m₂ ts := h.append h'

/-- Characters that the machine keeps, each as it comes. -/
theorem reads_kept {f : List Char → Mode} {cs : List Char}
    (h : ∀ c ∈ cs, ∀ kept, (f kept).step? c = some (f (c :: kept), [])) (kept : List Char) :
    Reads (f kept) cs (f (cs.reverse ++ kept)) [] := by
  induction cs generalizing kept with
  | nil => exact .nil _
  | cons c cs ih =>
      have hrest := ih (fun d hd => h d (List.mem_cons_of_mem _ hd)) (c :: kept)
      rw [List.reverse_cons, List.append_assoc, List.singleton_append]
      exact .silent (h c List.mem_cons_self kept) hrest

theorem scanFrom_of_reads {m m' : Mode} {cs : List Char} {ts : List Token} (h : Reads m cs m' ts)
    (done : List Token) : scanFrom done m cs = m'.finish?.map fun last => done.reverse ++ ts ++ last := by
  induction h generalizing done with
  | nil => simp [scanFrom]
  | cons hstep _ ih =>
      rw [scanFrom, hstep]
      dsimp only
      rw [ih]
      simp

/-- A text behind which the machine is between tokens. -/
theorem scan?_of_reads {s : String} {ts : List Token} (h : Reads .blank s.toList .blank ts) : scan? s = some ts := by
  unfold scan?
  rw [scanFrom_of_reads h]
  simp [Mode.finish?]

/-! ## Between tokens -/

theorem reads_spaces {cs : List Char} (h : ∀ c ∈ cs, isSpace c = true) : Reads .blank cs .blank [] := by
  refine reads_kept (f := fun _ => .blank) ?_ []
  intro c hc _
  simp only [Mode.step?, Mode.start?]
  rw [if_pos (h c hc)]

theorem reads_indent (depth : Nat) : Reads .blank (indent depth) .blank [] := by
  refine reads_spaces ?_
  intro c hc
  rw [List.eq_of_mem_replicate hc]
  rfl

/-- Within a comment, characters that mark neither its end nor a comment in it. -/
theorem reads_comment {cs : List Char} (h : ∀ c ∈ cs, c ≠ '/' ∧ c ≠ '*') :
    Reads (.blockComment 0 none) cs (.blockComment 0 none) [] := by
  refine reads_kept (f := fun _ => .blockComment 0 none) ?_ []
  intro c hc _
  simp [Mode.step?, h c hc]

/-- The number of an item leaves no trace. -/
theorem reads_itemNumber (layout : Layout) (i : Nat) : Reads .blank (itemNumber layout i) .blank [] := by
  have hdigit : ∀ d < 10, Nat.digitChar d ≠ '/' ∧ Nat.digitChar d ≠ '*' := by
    decide
  have hnumber : Reads (.blockComment 0 none) (Nat.toDigits 10 i) (.blockComment 0 none) [] := by
    refine reads_comment ?_
    intro c hc
    obtain ⟨d, hd, rfl⟩ := Text.mem_toDigits (by decide) i c hc
    exact hdigit d hd
  have hopen : Reads .blank ['/', '*', '['] (.blockComment 0 none) [] :=
    .silent rfl (.silent rfl (.one rfl))
  have hclose : Reads (.blockComment 0 none) [']', '*', '/', ' '] .blank [] :=
    .silent rfl (.silent rfl (.silent rfl (.one rfl)))
  unfold itemNumber
  split
  · exact (hopen.after_nothing hnumber).after_nothing hclose
  · exact .nil _

/-! ## Texts -/

/-- Between quotes, characters that are neither a quote nor a backslash. -/
theorem reads_clean {cs : List Char} (h : ∀ c ∈ cs, c ≠ '"' ∧ c ≠ '\\') (kept : List Char) :
    Reads (.quoted false false kept) cs (.quoted false false (cs.reverse ++ kept)) [] := by
  refine reads_kept ?_ kept
  intro c hc kept
  simp [Mode.step?, h c hc]

theorem reads_standsFor {c : Char} {ds : List Char} (h : Text.StandsFor c ds) (kept : List Char) :
    Reads (.quoted false false kept) ds (.quoted false false (ds.reverse ++ kept)) [] := by
  cases h with
  | plain hquote hslash =>
      refine reads_clean ?_ kept
      intro d hd
      rw [List.mem_singleton.mp hd]
      exact ⟨hquote, hslash⟩
  | escaped d rest hclean _ =>
      have hslash : Mode.step? '\\' (.quoted false false kept) = some (.quoted false true ('\\' :: kept), []) := rfl
      -- the character behind the backslash is kept whatever it is
      have hletter : Mode.step? d (.quoted false true ('\\' :: kept)) =
          some (.quoted false false (d :: '\\' :: kept), []) := by
        simp [Mode.step?]
      have hrest := reads_clean hclean (d :: '\\' :: kept)
      have hkept : ('\\' :: d :: rest).reverse ++ kept = rest.reverse ++ (d :: '\\' :: kept) := by
        simp
      rw [hkept]
      exact .silent hslash (.silent hletter hrest)

theorem reads_quoteChars (cs kept : List Char) :
    Reads (.quoted false false kept) (Text.quoteChars cs)
      (.quoted false false ((Text.quoteChars cs).reverse ++ kept)) [] := by
  induction cs generalizing kept with
  | nil => exact .nil _
  | cons c cs ih =>
      have hchar := reads_standsFor (Text.standsFor_quoteChar c) kept
      have hrest := ih ((Text.quoteChar c).reverse ++ kept)
      unfold Text.quoteChars at hrest ⊢
      rw [List.flatMap_cons, List.reverse_append, List.append_assoc]
      exact hchar.after_nothing hrest

/-- A quoted text is one token, and the token holds the text. -/
theorem reads_quote (s : String) : Reads .blank (Text.quote s).toList .blank [.string s] := by
  have hopen : Reads .blank ['"'] (.quoted false false []) [] := .one rfl
  have hbody := reads_quoteChars s.toList []
  rw [List.append_nil] at hbody
  have hclose : Reads (.quoted false false (Text.quoteChars s.toList).reverse) ['"'] .blank [.string s] := by
    refine .one ?_
    simp [Mode.step?, quotedToken?, Text.unquoteChars?_quoteChars]
  unfold Text.quote
  rw [String.toList_ofList]
  exact (hopen.after_nothing hbody).after_nothing hclose

/-! ## Numbers -/

theorem isDigit_of_mem_toDigits {n : Nat} {c : Char} (h : c ∈ Nat.toDigits 10 n) : c.isDigit = true :=
  Nat.isDigit_of_mem_toDigits (by decide) (by decide) h

theorem digits?_toDigits (n : Nat) : digits? 10 (Nat.toDigits 10 n) = some n := by
  have hkept : (Nat.toDigits 10 n).filter (· ≠ '_') = Nat.toDigits 10 n := by
    refine List.filter_eq_self.mpr ?_
    intro c hc
    have hline : c ≠ '_' := by
      rintro rfl
      exact absurd (isDigit_of_mem_toDigits hc) (by decide)
    simpa using hline
  unfold digits?
  rw [hkept]
  refine Text.foldlM_toDigits (by decide) ?_ n
  intro m d hd
  simp only [Text.hexValue?_digitChar d (by omega), bind, Option.bind_some, if_pos hd, pure]

/-- Digits have neither sign nor base in front. -/
theorem splitSign_toDigits (n : Nat) : Decimal.splitSign (Nat.toDigits 10 n) = (false, Nat.toDigits 10 n) := by
  unfold Decimal.splitSign
  split
  · rename_i heq
    exact absurd (isDigit_of_mem_toDigits (heq ▸ List.mem_cons_self)) (by decide)
  · rename_i heq
    exact absurd (isDigit_of_mem_toDigits (heq ▸ List.mem_cons_self)) (by decide)
  · rfl

theorem splitBase_toDigits (n : Nat) : splitBase (Nat.toDigits 10 n) = (10, Nat.toDigits 10 n) := by
  have hsecond : ∀ {c d : Char} {cs : List Char}, Nat.toDigits 10 n = c :: d :: cs → d.isDigit = true := by
    intro c d cs heq
    exact isDigit_of_mem_toDigits (heq ▸ List.mem_cons_of_mem _ List.mem_cons_self)
  unfold splitBase
  split
  · rename_i heq
    exact absurd (hsecond heq) (by decide)
  · rename_i heq
    exact absurd (hsecond heq) (by decide)
  · rename_i heq
    exact absurd (hsecond heq) (by decide)
  · rfl

/-- The digits of a number of eight bytes are read as that number. -/
theorem readNumber?_toDigits {n : Nat} (h : n < 2 ^ 64) : readNumber? (Nat.toDigits 10 n) = some (.int false n none) := by
  have hdigits : ∀ c ∈ Nat.toDigits 10 n, ((Text.hexValue? c).isSome || c == '_') = true := by
    intro c hc
    obtain ⟨d, hd, rfl⟩ := Text.mem_toDigits (by decide) n c hc
    simp [Text.hexValue?_digitChar d (by omega)]
  have htake := List.takeWhile_eq_self_iff.mpr hdigits
  have hdrop := List.dropWhile_eq_nil_iff.mpr hdigits
  have hne : Nat.toDigits 10 n ≠ [] := Nat.toDigits_ne_nil
  have hhead : (Nat.toDigits 10 n).head? ≠ some '_' := by
    intro hhead
    exact absurd (isDigit_of_mem_toDigits (List.mem_of_head? hhead)) (by decide)
  have hholds : (IntKind.plain false).holds false n = true := by
    simpa [IntKind.plain, IntKind.holds] using h
  unfold readNumber? readInt?
  simp only [splitSign_toDigits, splitBase_toDigits, htake, hdrop, digits?_toDigits]
  simp [hne, hhead, hholds]

theorem reads_digits {cs : List Char} (h : ∀ c ∈ cs, c.isDigit = true) (kept : List Char) :
    Reads (.number kept) cs (.number (cs.reverse ++ kept)) [] := by
  refine reads_kept ?_ kept
  intro c hc kept
  simp [Mode.step?, isNumberChar, Char.isAlphanum, h c hc]

theorem start?_digit : ∀ d < 10, Mode.start? (Nat.digitChar d) = some (.number [Nat.digitChar d], []) := by
  decide

/-- A number is one token, which is complete behind the comma. -/
theorem reads_number {n : Nat} (h : n < 2 ^ 64) :
    Reads .blank (Nat.toDigits 10 n ++ [',']) .blank [.int false n none, .mark ','] := by
  have hnumber : Reads .blank (Nat.toDigits 10 n) (.number (Nat.toDigits 10 n).reverse) [] := by
    cases hcs : Nat.toDigits 10 n with
    | nil => exact absurd hcs Nat.toDigits_ne_nil
    | cons c cs =>
        obtain ⟨d, hd, hc⟩ := Text.mem_toDigits (by decide) n c (hcs ▸ List.mem_cons_self)
        have hstep : Mode.step? c .blank = some (.number [c], []) := hc ▸ start?_digit d hd
        have hrest : ∀ e ∈ cs, e.isDigit = true := by
          intro e he
          exact isDigit_of_mem_toDigits (hcs ▸ List.mem_cons_of_mem _ he)
        rw [List.reverse_cons]
        exact .silent hstep (reads_digits hrest [c])
  have hcomma : Mode.step? ',' (.number (Nat.toDigits 10 n).reverse) = some (.blank, [.int false n none, .mark ',']) := by
    simp only [Mode.step?]
    rw [if_neg (by decide), List.reverse_reverse, readNumber?_toDigits h]
    rfl
  exact hnumber.after_nothing (.one hcomma)

/-! ## Names -/

/-- Whether the machine takes a text for one name. -/
def isName (name : String) : Bool :=
  match name.toList with
  | [] => false
  | c :: cs => Mode.start? c == some (.word [c], []) && cs.all Text.isIdentifierContinue

theorem reads_continue {cs : List Char} (h : ∀ c ∈ cs, Text.isIdentifierContinue c = true) (kept : List Char) :
    Reads (.word kept) cs (.word (cs.reverse ++ kept)) [] := by
  refine reads_kept ?_ kept
  intro c hc kept
  simp [Mode.step?, h c hc]

theorem reads_name {name : String} (h : isName name = true) : Reads .blank name.toList (.word name.toList.reverse) [] := by
  unfold isName at h
  cases hcs : name.toList with
  | nil =>
      rw [hcs] at h
      exact absurd h (by simp)
  | cons c cs =>
      rw [hcs] at h
      simp only [Bool.and_eq_true, beq_iff_eq, List.all_eq_true] at h
      rw [List.reverse_cons]
      have hstep : Mode.step? c .blank = some (.word [c], []) := h.1
      exact .silent hstep (reads_continue h.2 [c])

/-- A name ends in front of a colon or a parenthesis. -/
theorem step?_word {c : Char} (hc : c = ':' ∨ c = '(') (name : String) :
    Mode.step? c (.word name.toList.reverse) = Mode.startAfter? (.ident false name) c := by
  have hend : Text.isIdentifierContinue c = false := by
    rcases hc with rfl | rfl <;> decide
  have hmark : c ≠ '"' ∧ c ≠ '\'' ∧ c ≠ '#' := by
    rcases hc with rfl | rfl <;> decide
  simp only [Mode.step?, hend]
  simp [hmark]

/-- The name of a field is complete behind its colon. -/
theorem reads_field {name : String} (h : isName name = true) :
    Reads .blank (name.toList ++ [':', ' ']) .blank [.ident false name, .mark ':'] := by
  have hcolon : Mode.step? ':' (.word name.toList.reverse) = some (.blank, [.ident false name, .mark ':']) :=
    step?_word (Or.inl rfl) name
  exact (reads_name h).after_nothing (.cons hcolon (.one rfl))

/-- The name of a structure is complete behind the opening parenthesis, and that behind the end of the line. -/
theorem reads_opening {name : String} (h : isName name = true) :
    Reads .blank (name.toList ++ ['(', '\n']) .blank [.ident false name, .mark '('] := by
  have hopen : Mode.step? '(' (.word name.toList.reverse) = some (.opened, [.ident false name]) :=
    step?_word (Or.inr rfl) name
  exact (reads_name h).after_nothing (.cons hopen (.one rfl))

end SignalGraph.ObjectText
