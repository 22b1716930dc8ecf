import Mathlib.Data.Nat.Digits.Defs
import SignalGraph.Text.Unquoted

/-!
# Quoted text is read back

A character inside quotes stands for itself or is written as an escape. An escape is read back whatever follows
it, and none of its characters behind the one that the backslash protects can be taken for a quote or for another
backslash. So text of any content can be cut out between its quotes and read back (`unquoteChars?_quoteChars`).
-/

namespace SignalGraph.Text

/-! ## Digits -/

theorem toDigits_of_le {b n : Nat} (hb : 1 < b) (h : b ≤ n) :
    Nat.toDigits b n = Nat.toDigits b (n / b) ++ [Nat.digitChar (n % b)] := by
  have hpos : 0 < b := Nat.lt_trans Nat.zero_lt_one hb
  have hmod : n % b < b := Nat.mod_lt n hpos
  rw [← Nat.toDigits_of_lt_base hmod, Nat.toDigits_append_toDigits hb (Nat.div_pos h hpos) hmod, Nat.div_add_mod]

/-- The characters of a number are digits of the base. -/
theorem mem_toDigits {b : Nat} (hb : 1 < b) (n : Nat) : ∀ c ∈ Nat.toDigits b n, ∃ d < b, c = Nat.digitChar d := by
  induction n using Nat.strongRecOn with
  | ind n ih =>
      rcases Nat.lt_or_ge n b with hlt | hge
      · rw [Nat.toDigits_of_lt_base hlt]
        intro c hc
        exact ⟨n, hlt, List.mem_singleton.mp hc⟩
      · rw [toDigits_of_le hb hge]
        intro c hc
        rcases List.mem_append.mp hc with hc | hc
        · exact ih (n / b) (Nat.div_lt_self (by omega) hb) c hc
        · exact ⟨n % b, Nat.mod_lt n (by omega), List.mem_singleton.mp hc⟩

/-- Whoever takes in one digit after the other has the number in the end. -/
theorem foldlM_toDigits {b : Nat} {f : Nat → Char → Option Nat} (hb : 1 < b)
    (hf : ∀ n d, d < b → f n (Nat.digitChar d) = some (b * n + d)) (n : Nat) :
    (Nat.toDigits b n).foldlM f 0 = some n := by
  induction n using Nat.strongRecOn with
  | ind n ih =>
      rcases Nat.lt_or_ge n b with hlt | hge
      · rw [Nat.toDigits_of_lt_base hlt, List.foldlM_cons, hf 0 n hlt]
        simp
      · rw [toDigits_of_le hb hge, List.foldlM_append, ih (n / b) (Nat.div_lt_self (by omega) hb)]
        have hlast := hf (n / b) (n % b) (Nat.mod_lt n (by omega))
        rw [Nat.div_add_mod] at hlast
        simp [hlast]

theorem hexValue?_digitChar : ∀ d < 16, hexValue? (Nat.digitChar d) = some d := by
  decide

/-! ## Characters -/

/-- How a character may stand inside quotes. -/
inductive StandsFor (c : Char) : List Char → Prop where
  /-- It stands for itself. -/
  | plain (hquote : c ≠ '"') (hslash : c ≠ '\\') : StandsFor c [c]
  /-- It is written as an escape, which is read back whatever follows. -/
  | escaped (d : Char) (rest : List Char) (hclean : ∀ e ∈ rest, e ≠ '"' ∧ e ≠ '\\')
      (hread : ∀ more cs, readEscape? more (d :: rest ++ cs) = some (c, cs)) : StandsFor c ('\\' :: d :: rest)

theorem StandsFor.length_pos {c : Char} {ds : List Char} (h : StandsFor c ds) : 0 < ds.length := by
  cases h <;> simp

theorem mem_hexDigits {n : Nat} {e : Char} (h : e ∈ hexDigits n) : e ≠ '\x7d' ∧ e ≠ '"' ∧ e ≠ '\\' := by
  have hall : ∀ d < 16, Nat.digitChar d ≠ '\x7d' ∧ Nat.digitChar d ≠ '"' ∧ Nat.digitChar d ≠ '\\' := by
    decide
  obtain ⟨d, hd, rfl⟩ := mem_toDigits (by decide) n e h
  exact hall d hd

theorem toNat_lt_six_digits (c : Char) : c.toNat < 16 ^ 6 := by
  have hvalid : c.toNat.isValidChar := c.valid
  unfold Nat.isValidChar at hvalid
  omega

theorem readCode?_hexDigits (c : Char) (cs : List Char) :
    readCode? ('\x7b' :: (hexDigits c.toNat ++ '\x7d' :: cs)) = some (c, cs) := by
  have htake : (hexDigits c.toNat ++ '\x7d' :: cs).takeWhile (· ≠ '\x7d') = hexDigits c.toNat := by
    rw [List.takeWhile_append_of_pos fun e he => by simpa using (mem_hexDigits he).1]
    simp
  have hshort : (hexDigits c.toNat).length ≤ 6 :=
    (Nat.length_toDigits_le_iff (by decide) (by decide)).mpr (toNat_lt_six_digits c)
  have hne : hexDigits c.toNat ≠ [] := Nat.toDigits_ne_nil
  have hvalue : (hexDigits c.toNat).foldlM (fun n c => (hexValue? c).map (16 * n + ·)) 0 = some c.toNat := by
    refine foldlM_toDigits (by decide) ?_ c.toNat
    intro n d hd
    rw [hexValue?_digitChar d hd, Option.map_some]
  have hchar : charOfCode? c.toNat = some c := by
    have hvalid : c.toNat.isValidChar := c.valid
    unfold charOfCode?
    rw [if_pos hvalid, Char.ofNat_toNat]
  unfold readCode?
  simp only [htake]
  rw [if_neg (by simpa using ⟨hne, hshort⟩), List.drop_left]
  simp only [hvalue, hchar, bind, Option.bind_some, pure]

theorem standsFor_codeEscape (c : Char) : StandsFor c (codeEscape c) := by
  refine .escaped 'u' ('\x7b' :: (hexDigits c.toNat ++ ['\x7d'])) ?_ ?_
  · intro e he
    rcases List.mem_cons.mp he with rfl | he
    · decide
    · rcases List.mem_append.mp he with he | he
      · exact (mem_hexDigits he).2
      · rw [List.mem_singleton.mp he]
        decide
  · intro more cs
    simp only [List.cons_append, List.append_assoc, List.nil_append]
    exact readCode?_hexDigits c cs

/-- Every character stands for itself or is written as an escape. -/
theorem standsFor_quoteChar (c : Char) : StandsFor c (quoteChar c) := by
  -- an escape of one letter, and what it names
  have hletter : ∀ e d, (∀ more cs, readEscape? more (d :: cs) = some (e, cs)) → StandsFor e ['\\', d] := by
    intro e d h
    exact .escaped d [] (by simp) h
  unfold quoteChar
  simp only [beq_iff_eq, Bool.or_eq_true]
  split_ifs with hnull htab hreturn hline hmark hcode
  · subst hnull
    exact hletter _ '0' fun _ _ => rfl
  · subst htab
    exact hletter _ 't' fun _ _ => rfl
  · subst hreturn
    exact hletter _ 'r' fun _ _ => rfl
  · subst hline
    exact hletter _ 'n' fun _ _ => rfl
  · rcases hmark with (rfl | rfl) | rfl
    all_goals exact hletter _ _ fun _ _ => rfl
  · exact standsFor_codeEscape c
  · exact .plain (fun h => hmark (Or.inl (Or.inr h))) (fun h => hmark (Or.inl (Or.inl h)))

/-! ## Texts -/

theorem unquoteFrom_standsFor {c : Char} {ds : List Char} (h : StandsFor c ds) (fuel : Nat) (cs : List Char) :
    unquoteFrom (fuel + 1) (ds ++ cs) = (unquoteFrom fuel cs).map (c :: ·) := by
  cases h with
  | plain hquote hslash =>
      rw [List.singleton_append, unquoteFrom, if_neg (by simpa using hslash)]
  | escaped d rest hclean hread =>
      rw [List.cons_append, unquoteFrom, if_pos (by simp), hread 3 cs]
      rfl

/-- Reading takes one step for each character of the text. -/
theorem unquoteFrom_quoteChars (cs : List Char) (fuel : Nat) (h : cs.length ≤ fuel) :
    unquoteFrom fuel (quoteChars cs) = some cs := by
  induction cs generalizing fuel with
  | nil => simp [quoteChars, unquoteFrom]
  | cons c cs ih =>
      obtain ⟨fuel, rfl⟩ : ∃ k, fuel = k + 1 := ⟨fuel - 1, by rw [List.length_cons] at h; omega⟩
      have hrest := ih fuel (by rw [List.length_cons] at h; omega)
      unfold quoteChars at hrest ⊢
      rw [List.flatMap_cons, unquoteFrom_standsFor (standsFor_quoteChar c), hrest, Option.map_some]

theorem length_le_quoteChars (cs : List Char) : cs.length ≤ (quoteChars cs).length := by
  induction cs with
  | nil => simp
  | cons c cs ih =>
      have hpos := (standsFor_quoteChar c).length_pos
      unfold quoteChars at ih ⊢
      rw [List.flatMap_cons, List.length_append, List.length_cons]
      omega

/-- **What stands between quotes is read back**, whatever the text. -/
theorem unquoteChars?_quoteChars (cs : List Char) : unquoteChars? (quoteChars cs) = some cs :=
  unquoteFrom_quoteChars cs _ (length_le_quoteChars cs)

end SignalGraph.Text
