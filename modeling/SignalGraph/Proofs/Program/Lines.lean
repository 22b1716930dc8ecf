import SignalGraph.Program.Printer
import SignalGraph.Proofs.Files.Ways
import SignalGraph.Proofs.Node
import SignalGraph.Proofs.Program.Names

/-!
# The lines of a program

A program is written from names, numbers, and whatever packages and functions it calls. The names that are made up for
it and the numbers have no line feed in them (`oneLine_ofText`, `oneLine_literal`), whatever they are made from: a name
keeps letters and numbers only, and no letter of another case is a line feed.

The lines that import something are looked for in the text (`useLines`). A text is told by what it adds to them whatever
comes behind it (`Adds`), so that a program can be taken apart in the way it was put together. Where what it calls has
no line feed either (`OnLines`), the lines found are those that its imports are written as (`useLines_render`).
-/

namespace SignalGraph

/-! ## Texts on one line -/

/-- A text without a line feed. -/
def OneLine (s : String) : Prop := '\n' ∉ s.toList

instance (s : String) : Decidable (OneLine s) := inferInstanceAs (Decidable ('\n' ∉ s.toList))

theorem oneLine_append {s t : String} : OneLine (s ++ t) ↔ OneLine s ∧ OneLine t := by
  unfold OneLine
  rw [String.toList_append, List.mem_append, not_or]

theorem oneLine_ofList {cs : List Char} : OneLine (String.ofList cs) ↔ '\n' ∉ cs := by
  unfold OneLine
  rw [String.toList_ofList]

theorem oneLine_join {sep : String} (hsep : OneLine sep) {items : List String} (h : ∀ s ∈ items, OneLine s) :
    OneLine (Text.join sep items) := by
  induction items with
  | nil =>
      show OneLine ""
      decide
  | cons s items ih =>
      cases items with
      | nil => exact h s List.mem_cons_self
      | cons t items =>
          unfold Text.join
          rw [oneLine_append, oneLine_append]
          exact ⟨⟨h s List.mem_cons_self, hsep⟩, ih fun s hs => h s (List.mem_cons_of_mem _ hs)⟩

theorem oneLine_toString (n : Nat) : OneLine (toString n) := by
  intro h
  exact absurd (Identifier.isDigit_of_mem_toString h) (by decide)

/-! ## Characters of another case -/

namespace Text

theorem ofNat_ne_newline {n : Nat} (h : n ≠ 10) : Char.ofNat n ≠ '\n' := by
  intro heq
  have hcode := congrArg Char.toNat heq
  by_cases hvalid : n.isValidChar
  · have hchar : Char.ofNat n = Char.ofNatAux n hvalid := dif_pos hvalid
    rw [hchar] at hcode
    exact h hcode
  · -- what is no character stands for the first one
    have hchar : Char.ofNat n = Char.ofNat 0 := dif_neg hvalid
    rw [hchar] at hcode
    exact absurd hcode (by decide)

/-- A mapping gives no line feed if none of its runs starts so low and none of its sequences has one. -/
theorem newline_not_mem_mapCase {runs : Array CaseRun} {sequences : Array (Nat × List Nat)}
    (hruns : ∀ r ∈ runs, (10 : Int) < r.first + r.offset) (hsequences : ∀ e ∈ sequences, 10 ∉ e.2) {c : Char}
    (hc : c ≠ '\n') : '\n' ∉ mapCase runs sequences c := by
  unfold mapCase
  split
  · rename_i code ns hfound
    intro hmem
    obtain ⟨n, hn, heq⟩ := List.mem_map.mp hmem
    refine ofNat_ne_newline (fun hten => ?_) heq
    exact hsequences _ (Array.mem_of_find?_eq_some hfound) (hten ▸ hn)
  · rw [List.mem_singleton]
    cases hrun : runs.findSome? (·.image? c.toNat) with
    | none => exact hc.symm
    | some m =>
        obtain ⟨r, hr, himage⟩ := Array.exists_of_findSome?_eq_some hrun
        have hlow := hruns r hr
        unfold CaseRun.image? at himage
        split at himage
        · injection himage with himage
          exact (ofNat_ne_newline (by omega)).symm
        · exact absurd himage (by simp)

/-- A fact of the first 128 characters is a fact of each of them. -/
theorem of_isAscii {P : Char → Prop} (hall : ∀ n < 128, P (Char.ofNat n)) {c : Char} (h : isAscii c = true) : P c := by
  have hc := hall c.toNat (of_decide_eq_true h)
  rwa [Char.ofNat_toNat] at hc

theorem newline_not_mem_lowerChar {c : Char} (hc : c ≠ '\n') : '\n' ∉ lowerChar c := by
  unfold lowerChar
  split
  · rename_i hascii
    exact of_isAscii (P := fun c => c ≠ '\n' → '\n' ∉ [c.toLower]) (by decide) hascii hc
  · exact newline_not_mem_mapCase (by decide +kernel) (by decide +kernel) hc

theorem newline_not_mem_upperChar {c : Char} (hc : c ≠ '\n') : '\n' ∉ upperChar c := by
  unfold upperChar
  split
  · rename_i hascii
    exact of_isAscii (P := fun c => c ≠ '\n' → '\n' ∉ [c.toUpper]) (by decide) hascii hc
  · exact newline_not_mem_mapCase (by decide +kernel) (by decide +kernel) hc

theorem ne_newline_of_isAlphanumeric {c : Char} (h : isAlphanumeric c = true) : c ≠ '\n' := by
  rintro rfl
  exact absurd h (by decide)

theorem newline_not_mem_snakeFrom {out : List Char} (hout : '\n' ∉ out) (afterLower : Bool) (cs : List Char) :
    '\n' ∉ snakeFrom out afterLower cs := by
  induction cs generalizing out afterLower with
  | nil => exact hout
  | cons c cs ih =>
      unfold snakeFrom
      split
      · rename_i hc
        refine ih ?_ _
        rw [List.mem_append, List.mem_reverse, not_or]
        refine ⟨newline_not_mem_lowerChar (ne_newline_of_isAlphanumeric hc), ?_⟩
        split
        · exact List.not_mem_cons_of_ne_of_not_mem (by decide) hout
        · exact hout
      · split
        · exact ih hout false
        · exact ih hout false
        · exact ih (List.not_mem_cons_of_ne_of_not_mem (by decide) hout) false

theorem oneLine_snakeCase (s : String) : OneLine (snakeCase s) := by
  unfold snakeCase
  rw [oneLine_ofList, List.mem_reverse]
  exact fun h => newline_not_mem_snakeFrom List.not_mem_nil false s.toList ((List.dropWhile_sublist _).subset h)

theorem newline_not_mem_camelFrom (start : Bool) (cs : List Char) : '\n' ∉ camelFrom start cs := by
  induction cs generalizing start with
  | nil => exact List.not_mem_nil
  | cons c cs ih =>
      unfold camelFrom
      split
      · rename_i hc
        have hne := ne_newline_of_isAlphanumeric hc
        rw [List.mem_append, not_or]
        refine ⟨?_, ih false⟩
        split
        · exact newline_not_mem_upperChar hne
        · rw [List.mem_singleton]
          exact hne.symm
      · exact ih true

theorem oneLine_camelCase (s : String) : OneLine (camelCase s) :=
  oneLine_ofList.mpr (newline_not_mem_camelFrom true s.toList)

theorem mem_of_mem_stripReturn {c : Char} {cs : List Char} (h : c ∈ stripReturn cs) : c ∈ cs := by
  unfold stripReturn stripSuffix? at h
  cases hrest : "\r".toList.reverse.isPrefixOf? cs.reverse with
  | none =>
      rw [hrest] at h
      exact h
  | some rest =>
      rw [hrest, Option.map_some, Option.getD_some, List.mem_reverse] at h
      have hreverse := List.append_eq_of_isPrefixOf?_eq_some hrest
      exact List.mem_reverse.mp (hreverse ▸ List.mem_append_right _ h)

end Text

/-! ## Names that are made up -/

namespace Identifier

theorem oneLine_complete {name fallback : String} (hname : OneLine name) (hfallback : OneLine fallback) :
    OneLine (complete name fallback) := by
  have hchosen : OneLine (if name.isEmpty then fallback else name) := by
    split
    · exact hfallback
    · exact hname
  have hmarked : ∀ s, OneLine s → OneLine (if s.toList.head?.any Char.isDigit then "_" ++ s else s) := by
    intro s hs
    split
    · exact oneLine_append.mpr ⟨by decide, hs⟩
    · exact hs
  exact hmarked _ hchosen

theorem oneLine_ofText (text : String) {fallback : String} (hfallback : OneLine fallback) :
    OneLine (ofText text fallback) := by
  have hname := oneLine_complete (Text.oneLine_snakeCase text) hfallback
  unfold ofText
  dsimp only
  split
  · exact oneLine_append.mpr ⟨hname, by decide⟩
  · exact hname

theorem oneLine_ofTypeText (text : String) {fallback : String} (hfallback : OneLine fallback) :
    OneLine (ofTypeText text fallback) := by
  have hname := oneLine_complete (Text.oneLine_camelCase text) hfallback
  unfold ofTypeText
  dsimp only
  split
  · exact oneLine_append.mpr ⟨hname, by decide⟩
  · exact hname

theorem oneLine_variableName (k : Nat) : OneLine (variableName k) :=
  oneLine_append.mpr ⟨by decide, oneLine_toString k⟩

theorem oneLine_firstFree {base sep : String} (hbase : OneLine base) (hsep : OneLine sep) (taken : List String) :
    OneLine (firstFree taken (numbered base sep)) := by
  obtain ⟨k, hk⟩ := exists_candidate taken (numbered base sep)
  rw [hk]
  cases k with
  | zero => exact hbase
  | succ k =>
      unfold numbered
      rw [oneLine_append, oneLine_append]
      exact ⟨⟨hbase, hsep⟩, oneLine_toString _⟩

theorem oneLine_parameter (taken : List String) {base : String} (hbase : OneLine base) :
    OneLine (parameter taken base) := by
  refine oneLine_firstFree ?_ (by decide) taken
  split
  · exact oneLine_append.mpr ⟨hbase, by decide⟩
  · exact hbase

theorem oneLine_parameters (ts : List String) : ∀ name ∈ parameters ts, OneLine name := by
  refine List.foldlRecOn (motive := fun (names : List String) => ∀ name ∈ names, OneLine name) ts _
    (by simp) ?_
  intro taken htaken t _ name hname
  rcases List.mem_append.mp hname with hname | hname
  · exact htaken name hname
  · rw [List.mem_singleton.mp hname]
    exact oneLine_parameter taken (oneLine_ofText t (by decide))

theorem oneLine_moduleAlias (taken : List String) (pkg : String) : OneLine (moduleAlias taken pkg) :=
  oneLine_firstFree (oneLine_ofText _ (by decide)) (by decide) taken

end Identifier

namespace Program

theorem oneLine_aliases (pkgs : List String) : ∀ name ∈ (aliases pkgs).values, OneLine name := by
  refine List.foldlRecOn (motive := fun (t : Table String String) => ∀ name ∈ t.values, OneLine name) pkgs _ ?_ ?_
  · exact fun name hname => absurd hname List.not_mem_nil
  · intro t ht pkg _ name hname
    split at hname
    · exact ht name hname
    · obtain ⟨q, hq⟩ := Table.mem_values_iff.mp hname
      rw [Table.get?_set] at hq
      split at hq
      · injection hq with hq
        exact hq ▸ Identifier.oneLine_moduleAlias t.values pkg
      · exact ht name (Table.mem_values_iff.mpr ⟨q, hq⟩)

theorem oneLine_fieldsOf (computed : List (NodeId × Node)) : ∀ f ∈ (fieldsOf computed).values, OneLine f.name := by
  refine List.foldlRecOn (motive := fun (t : Table NodeId Field) => ∀ f ∈ t.values, OneLine f.name)
    (computed.filter (·.2.hasField)) _ ?_ ?_
  · exact fun f hf => absurd hf List.not_mem_nil
  · intro t ht entry _ f hf
    obtain ⟨m, hm⟩ := Table.mem_values_iff.mp hf
    rw [Table.get?_set] at hm
    split at hm
    · injection hm with hm
      rw [← hm]
      dsimp only
      rw [oneLine_append, oneLine_append]
      exact ⟨⟨Identifier.oneLine_ofText _ (by decide), by decide⟩, oneLine_toString _⟩
    · exact ht f (Table.mem_values_iff.mpr ⟨m, hm⟩)

end Program

/-! ## Numbers -/

theorem newline_not_mem_toDigits (n : Nat) : '\n' ∉ Nat.toDigits 10 n := by
  intro h
  exact absurd (Nat.isDigit_of_mem_toDigits (by decide) (by decide) h) (by decide)

theorem oneLine_toString_int (e : Int) : OneLine (toString e) := by
  cases e with
  | ofNat n => exact oneLine_toString n
  | negSucc n => exact oneLine_append.mpr ⟨by decide, oneLine_toString (n + 1)⟩

namespace LiteralStyle

variable {digits : List Char}

theorem newline_not_mem_plain (h : '\n' ∉ digits) (k : Int) : '\n' ∉ plain digits k := by
  have hzeros : ∀ n, '\n' ∉ List.replicate n '0' := fun n hmem => absurd (List.eq_of_mem_replicate hmem) (by decide)
  unfold plain
  split
  · rw [List.mem_append, List.mem_append, not_or, not_or]
    exact ⟨⟨h, hzeros _⟩, by decide⟩
  · have hpadded : '\n' ∉ List.replicate ((-k).toNat + 1 - digits.length) '0' ++ digits := by
      rw [List.mem_append, not_or]
      exact ⟨hzeros _, h⟩
    dsimp only
    rw [List.mem_append, List.mem_cons, not_or, not_or]
    exact ⟨fun hmem => hpadded (List.mem_of_mem_take hmem), by decide, fun hmem => hpadded (List.mem_of_mem_drop hmem)⟩

theorem newline_not_mem_scientific (h : '\n' ∉ digits) (e : Int) : '\n' ∉ scientific digits e := by
  unfold scientific
  dsimp only
  rw [List.mem_append, List.mem_append, List.mem_cons, not_or, not_or, not_or]
  refine ⟨⟨fun hmem => h (List.mem_of_mem_take hmem), ?_⟩, by decide, oneLine_toString_int e⟩
  split
  · exact List.not_mem_nil
  · exact List.not_mem_cons_of_ne_of_not_mem (by decide) fun hmem => h (List.mem_of_mem_drop hmem)

theorem oneLine_render (style : LiteralStyle) (v : FloatValue) : OneLine (style.render v) := by
  have hsigned : ∀ body : List Char, '\n' ∉ body → '\n' ∉ if v.negative then '-' :: body else body := by
    intro body hbody
    split
    · exact List.not_mem_cons_of_ne_of_not_mem (by decide) hbody
    · exact hbody
  unfold render
  rw [oneLine_ofList]
  refine hsigned _ ?_
  split
  · decide
  · dsimp only
    split
    · exact newline_not_mem_plain (newline_not_mem_toDigits _) _
    · exact newline_not_mem_scientific (newline_not_mem_toDigits _) _

end LiteralStyle

theorem oneLine_literal (v : FloatValue) : OneLine v.literal := LiteralStyle.signal.oneLine_render v

/-! ## The lines that import something -/

/-- The lines of a text that start as an import does. -/
def useLines (text : String) : List String :=
  ((Text.splitOn (· == '\n') text.toList).map String.ofList).filter (Text.startsWith "use ")

/-- What a text adds to these lines, whatever comes behind it. -/
def Adds (s : String) (ls : List String) : Prop := ∀ rest, useLines (s ++ rest) = ls ++ useLines rest

section Adds

variable {s t line : String} {ls ms : List String}

theorem Adds.append (hs : Adds s ls) (ht : Adds t ms) : Adds (s ++ t) (ls ++ ms) := by
  intro rest
  rw [String.append_assoc, hs, ht, List.append_assoc]

theorem Adds.append_nil (hs : Adds s ls) (ht : Adds t []) : Adds (s ++ t) ls := by
  have h := hs.append ht
  rwa [List.append_nil] at h

theorem Adds.useLines_eq (h : Adds s ls) : useLines s = ls := by
  have hall := h ""
  rw [String.append_empty] at hall
  rw [hall]
  exact List.append_nil ls

theorem adds_empty : Adds "" [] := by
  intro rest
  rw [String.empty_append]
  rfl

/-- A line counts if it starts as an import does. -/
theorem adds_line (h : OneLine line) : Adds (line ++ "\n") ([line].filter (Text.startsWith "use ")) := by
  intro rest
  have hchars : (line ++ "\n" ++ rest).toList = line.toList ++ '\n' :: rest.toList := by
    rw [String.toList_append, String.toList_append, List.append_assoc]
    rfl
  have hnone : ∀ c ∈ line.toList, (c == '\n') = false := by
    intro c hc
    exact beq_false_of_ne fun heq => h (heq ▸ hc)
  unfold useLines
  rw [hchars, Text.splitOn_append (by rfl), Text.splitOn_of_none hnone, List.map_append, List.filter_append,
    List.map_singleton, String.ofList_toList]

/-- A line that starts with another letter, or with none, does not count. -/
theorem adds_other (h : OneLine line) (hstart : line.toList.head? ≠ some 'u') : Adds (line ++ "\n") [] := by
  have hnot : Text.startsWith "use " line = false := by
    rw [Bool.eq_false_iff]
    intro hline
    obtain ⟨t, rfl⟩ := Text.startsWith_iff.mp hline
    exact hstart (by rw [String.toList_append]; rfl)
  have hline := adds_line h
  rwa [List.filter_singleton, hnot] at hline

theorem adds_indented {depth : Nat} (h : OneLine line) (hstart : 0 < depth ∨ line.toList.head? ≠ some 'u') :
    Adds (Program.indented depth line) [] := by
  have hblanks : '\n' ∉ List.replicate (4 * depth) ' ' := fun hmem => absurd (List.eq_of_mem_replicate hmem) (by decide)
  refine adds_other (oneLine_append.mpr ⟨oneLine_ofList.mpr hblanks, h⟩) ?_
  rw [String.toList_append, String.toList_ofList]
  cases depth with
  | zero => simpa using hstart
  | succ depth =>
      rw [Nat.mul_succ, List.replicate_succ]
      simp

theorem adds_join {α : Type} {f : α → String} {u : α → List String} {xs : List α} (h : ∀ x ∈ xs, Adds (f x) (u x)) :
    Adds (String.join (xs.map f)) (xs.flatMap u) := by
  induction xs with
  | nil => exact adds_empty
  | cons x xs ih =>
      rw [List.map_cons, String.join_cons, List.flatMap_cons]
      exact (h x List.mem_cons_self).append (ih fun y hy => h y (List.mem_cons_of_mem _ hy))

theorem adds_join_nil {α : Type} {f : α → String} {xs : List α} (h : ∀ x ∈ xs, Adds (f x) []) :
    Adds (String.join (xs.map f)) [] := by
  have hjoin := adds_join h
  rwa [List.flatMap_eq_nil_iff.mpr fun _ _ => rfl] at hjoin

end Adds

namespace Program

/-- The path of a package. -/
def importPath (pkg : String) : String := Text.replaceChar '/' "::" pkg

/-- The line that imports a package under the name of its module. -/
def importLine (pkg module : String) : String :=
  if importPath pkg == module then "use " ++ importPath pkg ++ ";"
  else "use " ++ importPath pkg ++ " as " ++ module ++ ";"

theorem renderImport_eq (pkg module : String) : renderImport pkg module = importLine pkg module ++ "\n" := by
  unfold renderImport importLine importPath
  dsimp only
  split
  · rw [String.append_assoc, String.append_assoc, String.append_assoc]
    rfl
  · rw [String.append_assoc, String.append_assoc, String.append_assoc, String.append_assoc, String.append_assoc,
      String.append_assoc, String.append_assoc]
    rfl

theorem oneLine_importPath {pkg : String} (h : OneLine pkg) : OneLine (importPath pkg) := by
  unfold importPath Text.replaceChar
  rw [oneLine_ofList, List.mem_flatMap]
  rintro ⟨c, hc, hmem⟩
  split at hmem
  · exact absurd hmem (by decide)
  · exact h (List.mem_singleton.mp hmem ▸ hc)

theorem adds_renderImport {pkg module : String} (hpkg : OneLine pkg) (hmodule : OneLine module) :
    Adds (renderImport pkg module) [importLine pkg module] := by
  have hpath := oneLine_importPath hpkg
  have hline : OneLine (importLine pkg module) := by
    unfold importLine
    split
    · simp only [oneLine_append]
      exact ⟨⟨by decide, hpath⟩, by decide⟩
    · simp only [oneLine_append]
      exact ⟨⟨⟨⟨by decide, hpath⟩, by decide⟩, hmodule⟩, by decide⟩
  have hstart : Text.startsWith "use " (importLine pkg module) = true := by
    refine Text.startsWith_iff.mpr ?_
    unfold importLine
    split
    · exact ⟨_, String.append_assoc ..⟩
    · simp only [String.append_assoc]
      exact ⟨_, rfl⟩
  have hadds := adds_line hline
  rw [List.filter_singleton, hstart] at hadds
  rw [renderImport_eq]
  exact hadds

/-- All that a program is written from stands on one line. -/
structure OnLines (p : Program) : Prop where
  imports : ∀ e ∈ p.imports.entries, OneLine e.1 ∧ OneLine e.2
  params : ∀ name ∈ p.params, OneLine name
  fields : ∀ f ∈ p.fields.values, OneLine f.name ∧ OneLine f.origin.name
  body : ∀ s ∈ p.body, OneLine (renderStatement p.imports s)
  results : ∀ o ∈ p.results, OneLine o.render

theorem oneLine_parenthesised {items : List String} (h : ∀ s ∈ items, OneLine s) : OneLine (parenthesised items) := by
  unfold parenthesised
  simp only [oneLine_append]
  exact ⟨⟨by decide, oneLine_join (by decide) h⟩, by decide⟩

theorem oneLine_moduleOf {imports : Table String String} (h : ∀ e ∈ imports.entries, OneLine e.2) (pkg : String) :
    OneLine (moduleOf imports pkg) := by
  unfold moduleOf
  cases hmodule : imports.get? pkg with
  | none => decide
  | some module => exact h _ (Table.mem_of_get? hmodule)

section OnLines

variable {p : Program}

theorem oneLine_renderResultType (results : List Operand) : OneLine (renderResultType results) := by
  unfold renderResultType
  split
  · decide
  · decide
  · refine oneLine_append.mpr ⟨by decide, oneLine_parenthesised ?_⟩
    intro s hs
    obtain ⟨o, -, rfl⟩ := List.mem_map.mp hs
    decide

theorem OnLines.oneLine_renderParams (h : p.OnLines) : ∀ s ∈ renderParams p.params, OneLine s := by
  intro s hs
  obtain ⟨name, hname, rfl⟩ := List.mem_map.mp hs
  exact oneLine_append.mpr ⟨h.params name hname, by decide⟩

theorem adds_renderHead {depth : Nat} {name : String} {params : List String} {results : String} (hname : OneLine name)
    (hparams : ∀ s ∈ params, OneLine s) (hresults : OneLine results) :
    Adds (renderHead depth name params results) [] := by
  refine adds_indented ?_ (Or.inr ?_)
  · simp only [oneLine_append]
    exact ⟨⟨⟨⟨by decide, hname⟩, oneLine_parenthesised hparams⟩, hresults⟩, by decide⟩
  · simp [String.toList_append]

theorem OnLines.adds_renderResults (h : p.OnLines) {depth : Nat} (hdepth : 0 < depth) :
    Adds (renderResults depth p.results) [] := by
  have hall := h.results
  unfold renderResults
  generalize p.results = results at hall
  split
  · exact adds_empty
  · exact adds_indented (hall _ List.mem_cons_self) (Or.inl hdepth)
  · refine adds_indented (oneLine_parenthesised ?_) (Or.inl hdepth)
    intro s hs
    obtain ⟨o, ho, rfl⟩ := List.mem_map.mp hs
    exact hall o ho

theorem OnLines.adds_renderFunction (h : p.OnLines) : Adds p.renderFunction [] := by
  have hhead : Adds (renderHead 0 (Identifier.ofText (Text.snakeCase p.name) "process") (renderParams p.params)
      (renderResultType p.results)) [] :=
    adds_renderHead (Identifier.oneLine_ofText _ (by decide)) h.oneLine_renderParams (oneLine_renderResultType _)
  have hbody : Adds p.renderBody [] := adds_join_nil fun s hs => adds_indented (h.body s hs) (Or.inl Nat.one_pos)
  have hend : Adds ("\x7d" ++ "\n") [] := adds_other (by decide) (by decide)
  exact ((hhead.append_nil hbody).append_nil (h.adds_renderResults Nat.one_pos)).append_nil hend

/-- A line that opens a block. -/
theorem adds_opening {front name : String} (hfront : OneLine front) (hname : OneLine name)
    (hstart : (front ++ name ++ " \x7b").toList.head? ≠ some 'u') : Adds (front ++ name ++ " \x7b\n") [] := by
  have hline : OneLine (front ++ name ++ " \x7b") := by
    rw [oneLine_append, oneLine_append]
    exact ⟨⟨hfront, hname⟩, by decide⟩
  have hopen : " \x7b\n" = " \x7b" ++ "\n" := rfl
  rw [hopen, ← String.append_assoc]
  exact adds_other hline hstart

/-- The declaration of a field. -/
def declaration (imports : Table String String) (f : Field) : String :=
  indented 1 (f.name ++ ": " ++ moduleOf imports f.origin.pkg ++ "::" ++ f.origin.name ++ ",")

theorem OnLines.adds_declarations (h : p.OnLines) :
    Adds (String.join (p.fields.values.map (declaration p.imports))) [] := by
  refine adds_join_nil fun f hf => adds_indented ?_ (Or.inl Nat.one_pos)
  obtain ⟨hname, horigin⟩ := h.fields f hf
  simp only [oneLine_append]
  exact ⟨⟨⟨⟨⟨hname, by decide⟩, oneLine_moduleOf (fun e he => (h.imports e he).2) _⟩, by decide⟩, horigin⟩, by decide⟩

theorem OnLines.adds_initialisations (h : p.OnLines) :
    Adds (String.join (p.fields.values.map fun f => indented 2 ("self." ++ f.name ++ ".init(config);"))) [] := by
  refine adds_join_nil fun f hf => adds_indented ?_ (Or.inl Nat.two_pos)
  simp only [oneLine_append]
  exact ⟨⟨by decide, (h.fields f hf).1⟩, by decide⟩

/-- The body of a method is written anew line by line. -/
theorem adds_lines (text : String) : Adds (String.join ((Text.lines text).map (indented 1))) [] := by
  refine adds_join_nil fun line hline => adds_indented ?_ (Or.inl Nat.one_pos)
  obtain ⟨cs, hcs, rfl⟩ := List.mem_map.mp hline
  rw [oneLine_ofList]
  intro hmem
  have hfeed := FileTree.mem_splitOn (List.dropLast_subset _ hcs) _ (Text.mem_of_mem_stripReturn hmem)
  exact absurd hfeed (by decide)

theorem OnLines.adds_renderStruct (h : p.OnLines) : Adds p.renderStruct [] := by
  have hname : OneLine (Identifier.ofTypeText p.name "Graph") := Identifier.oneLine_ofTypeText _ (by decide)
  have hderive : Adds ("#[derive(Debug, Default)]" ++ "\n") [] := adds_other (by decide) (by decide)
  have hstruct : Adds ("pub struct " ++ Identifier.ofTypeText p.name "Graph" ++ " \x7b\n") [] :=
    adds_opening (by decide) hname (by simp [String.toList_append])
  have himpl : Adds ("impl " ++ Identifier.ofTypeText p.name "Graph" ++ " \x7b\n") [] :=
    adds_opening (by decide) hname (by simp [String.toList_append])
  have hclose : Adds ("\x7d" ++ "\n") [] := adds_other (by decide) (by decide)
  have hblank : Adds ("" ++ "\n") [] := adds_other (by decide) (by decide)
  have hbrace : Adds (indented 1 "\x7d") [] := adds_indented (by decide) (Or.inl Nat.one_pos)
  have hinit : Adds (renderHead 1 "init"
      ["&mut self", "config: &" ++ moduleOf p.imports standardPackage ++ "::" ++ configType] "") [] := by
    refine adds_renderHead (by decide) ?_ (by decide)
    intro s hs
    rcases List.mem_cons.mp hs with rfl | hs
    · decide
    · rw [List.mem_singleton.mp hs]
      simp only [oneLine_append]
      exact ⟨⟨⟨by decide, oneLine_moduleOf (fun e he => (h.imports e he).2) _⟩, by decide⟩, by decide⟩
  have hprocess :
      Adds (renderHead 1 "process" ("&mut self" :: renderParams p.params) (renderResultType p.results)) [] := by
    refine adds_renderHead (by decide) ?_ (oneLine_renderResultType _)
    intro s hs
    rcases List.mem_cons.mp hs with rfl | hs
    · decide
    · exact h.oneLine_renderParams s hs
  have hdeclared := (hderive.append_nil hstruct).append_nil h.adds_declarations
  have hopened := ((hdeclared.append_nil hclose).append_nil hblank).append_nil himpl
  have hinitialised := ((hopened.append_nil hinit).append_nil h.adds_initialisations).append_nil hbrace
  have hrun := ((hinitialised.append_nil hblank).append_nil hprocess).append_nil (adds_lines p.renderBody)
  have hall := ((hrun.append_nil (h.adds_renderResults Nat.two_pos)).append_nil hbrace).append_nil hclose
  have hhead : "#[derive(Debug, Default)]\n" = "#[derive(Debug, Default)]" ++ "\n" := rfl
  have hend : "\x7d\n\n" = "\x7d" ++ "\n" ++ ("" ++ "\n") := rfl
  have hlast : "\x7d\n" = "\x7d" ++ "\n" := rfl
  have hfeed : (declaration p.imports) = fun f =>
    indented 1 (f.name ++ ": " ++ moduleOf p.imports f.origin.pkg ++ "::" ++ f.origin.name ++ ",") := rfl
  unfold renderStruct
  dsimp only
  rw [hhead, hend, hlast]
  simp only [String.append_assoc, hfeed, String.empty_append] at hall ⊢
  exact hall

/-- The lines of a program that import something are its imports. -/
theorem OnLines.useLines_render (h : p.OnLines) :
    useLines p.render = p.imports.entries.map fun e => importLine e.1 e.2 := by
  have hheader : Adds (generatedHeader ++ "\n\n") [] := by
    have hline : Adds (generatedHeader ++ "\n") [] := adds_other (by decide) (by decide)
    have hblank : Adds ("" ++ "\n") [] := adds_other (by decide) (by decide)
    have hsplit : generatedHeader ++ "\n\n" = generatedHeader ++ "\n" ++ ("" ++ "\n") := by
      rw [String.append_assoc]
      rfl
    rw [hsplit]
    exact hline.append_nil hblank
  have himports : Adds (renderImports p.imports) (p.imports.entries.map fun e => importLine e.1 e.2) := by
    have hblank : Adds ("" ++ "\n") [] := adds_other (by decide) (by decide)
    unfold renderImports
    split
    · rename_i hempty
      rw [List.isEmpty_iff.mp hempty]
      exact adds_empty
    · have hall := adds_join (f := fun (e : String × String) => renderImport e.1 e.2)
        (u := fun e => [importLine e.1 e.2]) fun e he =>
          adds_renderImport (h.imports e he).1 (h.imports e he).2
      rw [← List.map_eq_flatMap] at hall
      exact hall.append_nil hblank
  have hcode : Adds (if p.fields.isEmpty then p.renderFunction else p.renderStruct) [] := by
    split
    · exact h.adds_renderFunction
    · exact h.adds_renderStruct
  unfold render
  exact ((hheader.append himports).append_nil hcode).useLines_eq

end OnLines

end Program

end SignalGraph
