import Mathlib.Data.List.Chain
import SignalGraph.Proofs.Program.Lines

/-!
# How names are spelled

The names of a program are made of any text. Of ASCII text they are made of ASCII letters, digits and low lines, with
no digit in front (`Spelled`), and the words in a name of a value stand apart by one low line each (`Text.Words`). What
is spelled that way already stays as it is, so writing a text as words twice is writing it once.

No name is a word of the language, but a word that the language keeps for later may be one: the list of words that are
marked by a low line has the others only (`reserved_words_unmarked`).
-/

namespace SignalGraph

namespace Text

/-! ## Words apart by low lines -/

/-- A character inside a lower-case word. -/
def isWordChar (c : Char) : Bool := c.isLower || c.isDigit

/-- Lower-case words with one low line between each two of them. -/
structure Words (s : String) : Prop where
  chars : ∀ c ∈ s.toList, isWordChar c = true ∨ c = '_'
  first : s.toList.head? ≠ some '_'
  last : s.toList.getLast? ≠ some '_'
  single : ¬['_', '_'] <:+: s.toList

/-- What has been written of such words, in reverse. A low line may wait at the end for the next word. -/
structure Begun (out : List Char) : Prop where
  chars : ∀ c ∈ out, isWordChar c = true ∨ c = '_'
  single : out.IsChain fun c d => c = '_' → d ≠ '_'
  first : out.getLast? ≠ some '_'

variable {out : List Char} {c : Char}

theorem ne_line_of_isWordChar (h : isWordChar c = true) : c ≠ '_' := by
  rintro rfl
  exact absurd h (by decide)

theorem begun_nil : Begun [] := ⟨by simp, .nil, by simp⟩

/-- A character may follow if it is one of a word, or a low line behind a word. -/
theorem Begun.cons (h : Begun out) (hc : isWordChar c = true ∨ c = '_' ∧ ∃ d ds, out = d :: ds ∧ d ≠ '_') :
    Begun (c :: out) where
  chars := by
    intro d hd
    rcases List.mem_cons.mp hd with rfl | hd
    · exact hc.imp_right And.left
    · exact h.chars d hd
  single := by
    cases hout : out with
    | nil => exact .singleton c
    | cons d ds =>
        refine List.isChain_cons_cons.mpr ⟨?_, hout ▸ h.single⟩
        intro hline
        rcases hc with hword | ⟨-, d', ds', hout', hne⟩
        · exact absurd hline (ne_line_of_isWordChar hword)
        · rw [hout] at hout'
          injection hout' with hd
          rwa [hd]
  first := by
    cases hout : out with
    | nil =>
        rcases hc with hword | ⟨-, d, ds, hout', -⟩
        · rw [List.getLast?_singleton, Ne, Option.some.injEq]
          exact ne_line_of_isWordChar hword
        · exact absurd (hout.symm.trans hout') (by simp)
    | cons d ds =>
        rw [List.getLast?_cons_cons, ← hout]
        exact h.first

/-- What was written before is such a beginning too. -/
theorem Begun.of_append {cs : List Char} (h : Begun (cs ++ out)) : Begun out where
  chars := fun c hc => h.chars c (List.mem_append_right _ hc)
  single := h.single.suffix (List.suffix_append cs out)
  first := by
    intro hline
    refine h.first ?_
    rw [List.getLast?_append, hline]
    rfl

/-- A low line stands behind a word. -/
theorem Begun.word_of_line (h : Begun ('_' :: out)) : ∃ d ds, out = d :: ds ∧ d ≠ '_' := by
  cases out with
  | nil => exact absurd rfl h.first
  | cons d ds => exact ⟨d, ds, rfl, (List.isChain_cons_cons.mp h.single).1 rfl⟩

/-- If no low line waits at the end, these are words. -/
theorem Begun.words (h : Begun out) (hlast : out.head? ≠ some '_') : Words (String.ofList out.reverse) where
  chars := by
    rw [String.toList_ofList]
    exact fun c hc => h.chars c (List.mem_reverse.mp hc)
  first := by
    rw [String.toList_ofList, List.head?_reverse]
    exact h.first
  last := by
    rw [String.toList_ofList, List.getLast?_reverse]
    exact hlast
  single := by
    rw [String.toList_ofList]
    intro htwo
    have hpair : ['_', '_'] <:+: out := List.reverse_infix.mp (show ['_', '_'].reverse <:+: out.reverse from htwo)
    have hchain := List.IsChain.infix h.single hpair
    exact List.isChain_pair.mp hchain rfl rfl

/-- In ASCII the lower-case form of a letter or digit is one character. -/
theorem lowerChar_of_isAscii (hascii : isAscii c = true) (hc : isAlphanumeric c = true) :
    lowerChar c = [c.toLower] ∧ isWordChar c.toLower = true :=
  of_isAscii (P := fun c => isAlphanumeric c = true → lowerChar c = [c.toLower] ∧ isWordChar c.toLower = true)
    (by decide) hascii hc

/-- Writing on keeps single low lines between words. -/
theorem Begun.snakeFrom {cs : List Char} (hascii : ∀ c ∈ cs, isAscii c = true) (h : Begun out) {afterLower : Bool}
    (hlower : afterLower = true → ∃ d ds, out = d :: ds ∧ d ≠ '_') : Begun (snakeFrom out afterLower cs) := by
  induction cs generalizing out afterLower with
  | nil => exact h
  | cons c cs ih =>
      have hrest : ∀ c ∈ cs, isAscii c = true := fun d hd => hascii d (List.mem_cons_of_mem _ hd)
      unfold Text.snakeFrom
      split
      · rename_i halpha
        obtain ⟨hlow, hword⟩ := lowerChar_of_isAscii (hascii c List.mem_cons_self) halpha
        -- a capital behind a lower-case letter starts a word of its own
        have hbefore : Begun (if isUppercase c && afterLower then '_' :: out else out) := by
          split
          · rename_i hupper
            exact h.cons (Or.inr ⟨rfl, hlower (Bool.and_eq_true_iff.mp hupper).2⟩)
          · exact h
        rw [hlow]
        exact ih hrest (hbefore.cons (Or.inl hword)) fun _ => ⟨_, _, rfl, ne_line_of_isWordChar hword⟩
      · split
        · exact ih hrest begun_nil (fun h => absurd h (by simp))
        · exact ih hrest h (fun h => absurd h (by simp))
        · rename_i hnil hline
          refine ih hrest (h.cons (Or.inr ⟨rfl, ?_⟩)) (fun h => absurd h (by simp))
          cases hout : out with
          | nil => exact absurd hout hnil
          | cons d ds => exact ⟨d, ds, rfl, fun hd => hline ds (hd ▸ hout)⟩

/-- The words of an ASCII text. -/
theorem exists_begun {s : String} (hascii : ∀ c ∈ s.toList, isAscii c = true) :
    ∃ out, Begun out ∧ out.head? ≠ some '_' ∧ snakeCase s = String.ofList out.reverse := by
  have hbegun : Begun (snakeFrom [] false s.toList) := begun_nil.snakeFrom hascii fun h => absurd h (by simp)
  refine ⟨(snakeFrom [] false s.toList).dropWhile (· == '_'), ?_, ?_, rfl⟩
  · have hsplit := List.takeWhile_append_dropWhile (p := (· == '_')) (l := snakeFrom [] false s.toList)
    rw [← hsplit] at hbegun
    exact hbegun.of_append
  · intro hline
    have hnot := List.head?_dropWhile_not (· == '_') (snakeFrom [] false s.toList)
    rw [hline] at hnot
    exact absurd hnot (by simp)

theorem words_snakeCase {s : String} (hascii : ∀ c ∈ s.toList, isAscii c = true) : Words (snakeCase s) := by
  obtain ⟨out, hbegun, hlast, hout⟩ := exists_begun hascii
  exact hout ▸ hbegun.words hlast

theorem isAscii_of_isWordChar (h : isWordChar c = true) : isAscii c = true := by
  unfold isWordChar Char.isLower Char.isDigit at h
  simp only [Bool.or_eq_true, Bool.and_eq_true, decide_eq_true_eq, UInt32.le_iff_toNat_le] at h
  refine decide_eq_true ?_
  unfold Char.toNat
  rcases h with ⟨-, hhigh⟩ | ⟨-, hhigh⟩
  · exact Nat.lt_of_le_of_lt hhigh (by decide)
  · exact Nat.lt_of_le_of_lt hhigh (by decide)

/-- A character of a word is written as it is. -/
theorem lowerChar_of_isWordChar (h : isWordChar c = true) :
    isAlphanumeric c = true ∧ isUppercase c = false ∧ lowerChar c = [c] :=
  of_isAscii (P := fun c => isWordChar c = true →
    isAlphanumeric c = true ∧ isUppercase c = false ∧ lowerChar c = [c])
    (by decide) (isAscii_of_isWordChar h) h

/-- What is written as words is written as it is. -/
theorem snakeFrom_of_begun {cs : List Char} (h : Begun (cs.reverse ++ out)) (afterLower : Bool) :
    snakeFrom out afterLower cs = cs.reverse ++ out := by
  induction cs generalizing out afterLower with
  | nil => rfl
  | cons c cs ih =>
      -- the invariant is about all that there will be, so the next character goes over to what is written
      have hmove : (c :: cs).reverse ++ out = cs.reverse ++ c :: out := by simp
      rw [hmove] at h ⊢
      unfold Text.snakeFrom
      rcases h.chars c (by simp) with hword | rfl
      · obtain ⟨halpha, hupper, hlower⟩ := lowerChar_of_isWordChar hword
        rw [if_pos halpha, hlower, hupper]
        exact ih h _
      · obtain ⟨d, ds, rfl, hne⟩ := h.of_append.word_of_line
        rw [if_neg (by decide)]
        split
        · rename_i hnil
          exact absurd hnil (by simp)
        · rename_i hline
          injection hline with hd
          exact absurd hd hne
        · exact ih h _

theorem snakeCase_of_begun (h : Begun out) (hlast : out.head? ≠ some '_') :
    snakeCase (String.ofList out.reverse) = String.ofList out.reverse := by
  have hwritten : snakeFrom [] false out.reverse = out := by
    have hbegun : Begun (out.reverse.reverse ++ []) := by simpa using h
    simpa using snakeFrom_of_begun hbegun false
  have hkept : out.dropWhile (· == '_') = out := by
    cases hout : out with
    | nil => rfl
    | cons d ds =>
        rw [hout, List.head?_cons, Ne, Option.some.injEq] at hlast
        rw [List.dropWhile_cons_of_neg (by simpa using hlast)]
  unfold snakeCase
  rw [String.toList_ofList, hwritten, hkept]

theorem snakeCase_snakeCase {s : String} (hascii : ∀ c ∈ s.toList, isAscii c = true) :
    snakeCase (snakeCase s) = snakeCase s := by
  obtain ⟨out, hbegun, hlast, hout⟩ := exists_begun hascii
  rw [hout]
  exact snakeCase_of_begun hbegun hlast

/-! ## Joined words -/

/-- In ASCII the upper-case form of a letter or digit is a capital or a digit. -/
theorem upperChar_of_isAscii (hascii : isAscii c = true) (hc : isAlphanumeric c = true) :
    upperChar c = [c.toUpper] ∧ (c.toUpper.isUpper = true ∨ c.toUpper.isDigit = true) :=
  of_isAscii (P := fun c => isAlphanumeric c = true →
    upperChar c = [c.toUpper] ∧ (c.toUpper.isUpper = true ∨ c.toUpper.isDigit = true))
    (by decide) hascii hc

theorem isAlphanum_of_isAscii (hascii : isAscii c = true) (hc : isAlphanumeric c = true) : c.isAlphanum = true := by
  unfold isAlphanumeric at hc
  rwa [if_pos hascii] at hc

/-- Joined words have letters and digits only. -/
theorem isAlphanum_of_mem_camelFrom {cs : List Char} (hascii : ∀ c ∈ cs, isAscii c = true) (start : Bool) :
    ∀ c ∈ camelFrom start cs, c.isAlphanum = true := by
  induction cs generalizing start with
  | nil => exact fun c hc => absurd hc List.not_mem_nil
  | cons c cs ih =>
      have hrest := ih fun d hd => hascii d (List.mem_cons_of_mem _ hd)
      unfold camelFrom
      split
      · rename_i halpha
        have hfirst : ∀ d ∈ if start then upperChar c else [c], d.isAlphanum = true := by
          have hc := hascii c List.mem_cons_self
          split
          · obtain ⟨hup, hd⟩ := upperChar_of_isAscii hc halpha
            rw [hup]
            intro d hmem
            rw [List.mem_singleton.mp hmem]
            unfold Char.isAlphanum Char.isAlpha
            rcases hd with hd | hd <;> simp [hd]
          · intro d hmem
            rw [List.mem_singleton.mp hmem]
            exact isAlphanum_of_isAscii hc halpha
        intro d hd
        exact (List.mem_append.mp hd).elim (hfirst d) (hrest false d)
      · exact hrest true

/-- The first word starts with a capital or a digit. -/
theorem head_camelFrom {cs : List Char} (hascii : ∀ c ∈ cs, isAscii c = true) :
    ∀ c ∈ (camelFrom true cs).head?, c.isUpper = true ∨ c.isDigit = true := by
  induction cs with
  | nil => exact fun c hc => absurd hc (by simp [camelFrom])
  | cons c cs ih =>
      unfold camelFrom
      split
      · rename_i halpha
        obtain ⟨hup, hd⟩ := upperChar_of_isAscii (hascii c List.mem_cons_self) halpha
        intro d hmem
        rw [if_pos rfl, hup, List.singleton_append, List.head?_cons, Option.mem_some_iff] at hmem
        exact hmem ▸ hd
      · exact ih fun d hd => hascii d (List.mem_cons_of_mem _ hd)

end Text

namespace Identifier

/-! ## Names of values -/

/-- The words of the language that are never names. -/
def strictWords : List String := [
  "as", "async", "await", "break", "const", "continue", "crate", "dyn", "else", "enum", "extern", "false",
  "fn", "for", "if", "impl", "in", "let", "loop", "match", "mod", "move", "mut", "pub", "ref", "return",
  "self", "Self", "static", "struct", "super", "trait", "true", "type", "unsafe", "use", "where", "while"]

/-- The words that the language keeps for later, which are no names either. -/
def reservedWords : List String := [
  "abstract", "become", "box", "do", "final", "macro", "override", "priv", "try", "typeof", "unsized",
  "virtual", "yield"]

/-- What parameters, packages, functions and fields are called where a text has no letter and no digit. -/
def valueFallbacks : List String := ["input", "pkg", "process", "node"]

/-- Lower-case letters, digits and low lines, but not a low line alone, and no digit in front. -/
structure Spelled (name : String) : Prop where
  nonempty : name ≠ ""
  chars : ∀ c ∈ name.toList, Text.isWordChar c = true ∨ c = '_'
  start : name.toList.head?.any Char.isDigit = false
  more : name ≠ "_"

variable {name fallback text : String}

/-- A name is the text or the fallback, with a low line in front of a digit. -/
theorem complete_cases (name fallback : String) :
    ∃ chosen, (chosen = name ∧ name ≠ "" ∨ chosen = fallback ∧ name = "")
      ∧ (complete name fallback = chosen ∧ chosen.toList.head?.any Char.isDigit = false
        ∨ complete name fallback = "_" ++ chosen ∧ chosen.toList.head?.any Char.isDigit = true) := by
  refine ⟨if name.isEmpty then fallback else name, ?_, ?_⟩
  · split
    · rename_i hempty
      exact Or.inr ⟨rfl, String.isEmpty_iff.mp hempty⟩
    · rename_i hfilled
      exact Or.inl ⟨rfl, fun h => hfilled (String.isEmpty_iff.mpr h)⟩
  · unfold complete
    dsimp only
    generalize (if name.isEmpty then fallback else name) = chosen
    split
    · rename_i hdigit
      exact Or.inr ⟨rfl, hdigit⟩
    · rename_i hother
      exact Or.inl ⟨rfl, Bool.eq_false_iff.mpr hother⟩

theorem toList_line (name : String) : ("_" ++ name).toList = '_' :: name.toList := String.toList_append

/-- What stands for a value before it is compared with the words of the language. -/
theorem spelled_complete (hname : Text.Words name) (hfallback : fallback ∈ valueFallbacks) :
    Spelled (complete name fallback) := by
  obtain ⟨chosen, hchosen, hcomplete⟩ := complete_cases name fallback
  have hwords : chosen ≠ "" ∧ (∀ c ∈ chosen.toList, Text.isWordChar c = true ∨ c = '_')
      ∧ chosen.toList.head? ≠ some '_' := by
    rcases hchosen with ⟨rfl, hne⟩ | ⟨rfl, -⟩
    · exact ⟨hne, hname.chars, hname.first⟩
    · have hall : ∀ f ∈ valueFallbacks, f ≠ "" ∧ f.toList.all Text.isWordChar = true ∧ f.toList.head? ≠ some '_' := by
        decide
      obtain ⟨hne, hchars, hfirst⟩ := hall _ hfallback
      exact ⟨hne, fun c hc => Or.inl (List.all_eq_true.mp hchars c hc), hfirst⟩
  obtain ⟨hne, hchars, hfirst⟩ := hwords
  rcases hcomplete with ⟨heq, hstart⟩ | ⟨heq, -⟩
  · rw [heq]
    exact ⟨hne, hchars, hstart, fun hline => hfirst (by rw [hline]; rfl)⟩
  · rw [heq]
    refine ⟨?_, ?_, ?_, ?_⟩
    · rw [Ne, ← String.toList_eq_nil_iff, toList_line]
      exact List.cons_ne_nil _ _
    · rw [toList_line]
      exact fun c hc => (List.mem_cons.mp hc).elim Or.inr (hchars c)
    · rw [toList_line]
      rfl
    · intro hline
      have hl := congrArg String.toList hline
      rw [toList_line] at hl
      injection hl with _ hnil
      exact hne (String.toList_eq_nil_iff.mp hnil)

/-- A low line at the end changes nothing about the spelling. -/
theorem Spelled.marked (h : Spelled name) : Spelled (name ++ "_") where
  nonempty := by
    rw [Ne, ← String.toList_eq_nil_iff, String.toList_append]
    exact List.append_ne_nil_of_right_ne_nil _ (by decide)
  chars := by
    intro c hc
    rw [String.toList_append] at hc
    rcases List.mem_append.mp hc with hc | hc
    · exact h.chars c hc
    · exact Or.inr (List.mem_singleton.mp hc)
  start := by
    have hne : name.toList ≠ [] := fun hnil => h.nonempty (String.toList_eq_nil_iff.mp hnil)
    rw [String.toList_append, List.head?_append_of_ne_nil _ hne]
    exact h.start
  more := by
    intro hline
    have hl := congrArg List.length (congrArg String.toList hline)
    rw [String.toList_append, List.length_append] at hl
    refine h.nonempty (String.toList_eq_nil_iff.mp (List.length_eq_zero_iff.mp ?_))
    exact Nat.add_right_cancel (hl.trans (Nat.zero_add 1).symm)

/-- A name that is a word of the list is marked, any other stays as it is. -/
theorem ofText_cases (text fallback : String) :
    (complete (Text.snakeCase text) fallback ∉ keywords
        ∧ ofText text fallback = complete (Text.snakeCase text) fallback)
      ∨ ofText text fallback = complete (Text.snakeCase text) fallback ++ "_" := by
  unfold ofText
  dsimp only
  split
  · exact Or.inr rfl
  · rename_i hno
    exact Or.inl ⟨fun hmem => hno (List.contains_iff_mem.mpr hmem), rfl⟩

theorem spelled_ofText (hwords : Text.Words (Text.snakeCase text)) (hfallback : fallback ∈ valueFallbacks) :
    Spelled (ofText text fallback) := by
  have hspelled := spelled_complete hwords hfallback
  rcases ofText_cases text fallback with ⟨-, heq⟩ | heq
  · exact heq ▸ hspelled
  · exact heq ▸ hspelled.marked

/-- No word of the language has a low line. -/
theorem line_not_mem_of_word : ∀ word ∈ strictWords ++ reservedWords, '_' ∉ word.toList := by decide

theorem line_mem_marked (name : String) : '_' ∈ (name ++ "_").toList := by
  rw [String.toList_append]
  exact List.mem_append_right _ (by decide)

theorem ofText_not_strict (hwords : Text.Words (Text.snakeCase text)) (hfallback : fallback ∈ valueFallbacks) :
    ofText text fallback ∉ strictWords := by
  intro hstrict
  rcases ofText_cases text fallback with ⟨hother, heq⟩ | heq
  · -- the list has all of these words but one, which starts with a capital
    have hlisted : ∀ word ∈ strictWords, word ∈ keywords ∨ word = "Self" := by decide
    rcases hlisted _ hstrict with hword | hself
    · exact hother (heq ▸ hword)
    · have hcapital := (spelled_ofText hwords hfallback).chars 'S' (by rw [hself]; decide)
      exact absurd hcapital (by decide)
  · exact line_not_mem_of_word _ (List.mem_append_left _ hstrict) (heq ▸ line_mem_marked _)

/-- The words that are kept for later are on no list, so they stay as they are. -/
theorem ofText_reserved_iff (hfallback : fallback ∈ valueFallbacks) :
    ofText text fallback ∈ reservedWords ↔ Text.snakeCase text ∈ reservedWords := by
  obtain ⟨chosen, hchosen, hcomplete⟩ := complete_cases (Text.snakeCase text) fallback
  constructor
  · intro hreserved
    have hline := line_not_mem_of_word _ (List.mem_append_right _ hreserved)
    rcases ofText_cases text fallback with ⟨-, heq⟩ | heq
    · rw [heq] at hreserved hline
      rcases hcomplete with ⟨hsame, -⟩ | ⟨hsame, -⟩
      · rw [hsame] at hreserved
        rcases hchosen with ⟨rfl, -⟩ | ⟨rfl, -⟩
        · exact hreserved
        · have hall : ∀ f ∈ valueFallbacks, f ∉ reservedWords := by decide
          exact absurd hreserved (hall _ hfallback)
      · rw [hsame, toList_line] at hline
        exact absurd List.mem_cons_self hline
    · exact absurd (heq ▸ line_mem_marked _) hline
  · intro hreserved
    have hall : ∀ word ∈ reservedWords, word ≠ "" ∧ word.toList.head?.any Char.isDigit = false ∧ word ∉ keywords := by
      decide
    obtain ⟨hne, hstart, hother⟩ := hall _ hreserved
    rcases hchosen with ⟨rfl, -⟩ | ⟨-, hempty⟩
    · rcases hcomplete with ⟨hsame, -⟩ | ⟨-, hdigit⟩
      · unfold ofText
        dsimp only
        rw [hsame, if_neg (fun hmem => hother (List.contains_iff_mem.mp hmem))]
        exact hreserved
      · exact absurd (hstart.symm.trans hdigit) (by simp)
    · exact absurd hempty hne

/-! ## Names of types -/

/-- Letters, digits and low lines, with a capital in front or a low line before a digit. -/
structure TypeSpelled (name : String) : Prop where
  chars : ∀ c ∈ name.toList, c.isAlphanum = true ∨ c = '_'
  start : ∃ c cs, name.toList = c :: cs ∧ (c.isUpper = true ∨ c = '_' ∧ cs.head?.any Char.isDigit = true)
  ne_self : name ≠ "Self"

/-- What stands for a type before it is compared with the one name that is taken. -/
theorem typeSpelled_complete (hchars : ∀ c ∈ name.toList, c.isAlphanum = true)
    (hstart : ∀ c ∈ name.toList.head?, c.isUpper = true ∨ c.isDigit = true) (hne : complete name "Graph" ≠ "Self") :
    TypeSpelled (complete name "Graph") := by
  obtain ⟨chosen, hchosen, hcomplete⟩ := complete_cases name "Graph"
  have hjoined : (∀ c ∈ chosen.toList, c.isAlphanum = true)
      ∧ ∃ c cs, chosen.toList = c :: cs ∧ (c.isUpper = true ∨ c.isDigit = true) := by
    rcases hchosen with ⟨rfl, hfilled⟩ | ⟨rfl, -⟩
    · refine ⟨hchars, ?_⟩
      cases hl : chosen.toList with
      | nil => exact absurd (String.toList_eq_nil_iff.mp hl) hfilled
      | cons c cs => exact ⟨c, cs, rfl, hstart c (by rw [hl]; rfl)⟩
    · have hletters : "Graph".toList.all Char.isAlphanum = true := by decide
      exact ⟨List.all_eq_true.mp hletters, 'G', "raph".toList, by decide, by decide⟩
  obtain ⟨hletters, c, cs, hl, hc⟩ := hjoined
  rcases hcomplete with ⟨heq, hother⟩ | ⟨heq, hdigit⟩
  · refine ⟨?_, ⟨c, cs, by rw [heq, hl], ?_⟩, hne⟩
    · rw [heq]
      exact fun c hc => Or.inl (hletters c hc)
    · rw [hl] at hother
      exact hc.imp_right fun hdigit => absurd (hother.symm.trans hdigit) (by simp)
  · refine ⟨?_, ⟨'_', chosen.toList, by rw [heq, toList_line], Or.inr ⟨rfl, hdigit⟩⟩, hne⟩
    rw [heq, toList_line]
    exact fun c hc => (List.mem_cons.mp hc).symm.imp_left (hletters c)

theorem typeSpelled_ofTypeText (hascii : ∀ c ∈ text.toList, Text.isAscii c = true) :
    TypeSpelled (ofTypeText text "Graph") := by
  have hchars : ∀ c ∈ (Text.camelCase text).toList, c.isAlphanum = true := by
    unfold Text.camelCase
    rw [String.toList_ofList]
    exact Text.isAlphanum_of_mem_camelFrom hascii true
  have hstart : ∀ c ∈ (Text.camelCase text).toList.head?, c.isUpper = true ∨ c.isDigit = true := by
    unfold Text.camelCase
    rw [String.toList_ofList]
    exact Text.head_camelFrom hascii
  unfold ofTypeText
  dsimp only
  split
  · rename_i hself
    rw [eq_of_beq hself]
    refine ⟨fun c hc => ?_, ⟨'S', "elf_".toList, by decide, Or.inl (by decide)⟩, by decide⟩
    have hall : ("Self" ++ "_").toList.all (fun c => c.isAlphanum || c == '_') = true := by decide
    simpa using List.all_eq_true.mp hall c hc
  · rename_i hother
    exact typeSpelled_complete hchars hstart fun heq => hother (beq_iff_eq.mpr heq)

/-! ## Names made of ASCII text -/

/--
**What names are made of ASCII text.** With any of the fallbacks, what stands for a value is a name: lower-case letters,
digits and low lines, but not a low line alone, with no digit in front. It is none of the words of the language that are
never names, and it is one that is kept for later exactly if the words of the text are. These words are in lower case,
apart by single low lines, and written again they stay as they are. What stands for a type is a name with a capital in
front, or with a low line before a digit, and it is not the name that every type has for itself.
-/
theorem ascii_names_spelled (text : String) (hascii : text.toList.all Text.isAscii = true) :
    (∀ fallback ∈ valueFallbacks, Spelled (ofText text fallback) ∧ ofText text fallback ∉ strictWords
        ∧ (ofText text fallback ∈ reservedWords ↔ Text.snakeCase text ∈ reservedWords))
      ∧ (Text.Words (Text.snakeCase text) ∧ Text.snakeCase (Text.snakeCase text) = Text.snakeCase text)
      ∧ TypeSpelled (ofTypeText text "Graph") := by
  rw [List.all_eq_true] at hascii
  have hwords := Text.words_snakeCase hascii
  refine ⟨fun fallback hfallback => ⟨?_, ?_, ?_⟩, ⟨hwords, Text.snakeCase_snakeCase hascii⟩, ?_⟩
  · exact spelled_ofText hwords hfallback
  · exact ofText_not_strict hwords hfallback
  · exact ofText_reserved_iff hfallback
  · exact typeSpelled_ofTypeText hascii

/-- A text that names a type and a value in the language is marked as either. -/
theorem self_spelled :
    Spelled (ofText "Self" "node") ∧ ofText "Self" "node" = "self_" ∧ ofText "Self" "node" ∉ strictWords
      ∧ TypeSpelled (ofTypeText "Self" "Graph") ∧ ofTypeText "Self" "Graph" = "Self_" := by
  obtain ⟨hvalue, -, htype⟩ := ascii_names_spelled "Self" (by decide)
  obtain ⟨hspelled, hstrict, -⟩ := hvalue "node" (by decide)
  exact ⟨hspelled, by decide, hstrict, htype, by decide⟩

/--
The words that are kept for later stay as they are wherever a name is made of them, and so does the name of a graph
that is called by one.
-/
theorem reserved_words_unmarked :
    (¬∀ text fallback, text.toList.all Text.isAscii = true → fallback ∈ valueFallbacks →
        ofText text fallback ∉ strictWords ++ reservedWords)
      ∧ (∀ word ∈ reservedWords, ∀ fallback ∈ valueFallbacks, ofText word fallback = word)
      ∧ (Graph.empty "try").source { } = .ok (generatedHeader ++ "\n\npub fn try() \x7b\n\x7d\n") := by
  have hstay : ∀ word ∈ reservedWords, ∀ fallback ∈ valueFallbacks, ofText word fallback = word := by decide
  refine ⟨fun hnone => ?_, hstay, ?_⟩
  · refine hnone "try" "process" (by decide) (by decide) ?_
    rw [hstay "try" (by decide) "process" (by decide)]
    decide
  · decide

end Identifier

end SignalGraph
