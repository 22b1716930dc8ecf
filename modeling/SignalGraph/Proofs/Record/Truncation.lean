import Mathlib.Data.List.Infix
import SignalGraph.Proofs.Bytes

/-!
# Files that are cut short

A length stands in front of every part of a file whose length is not fixed, so a reader always knows how many
bytes are still to come. What follows a record is never looked at, and a file that ends before its record does
is refused wherever it ends: in a number, in a text, between two entries or between two tables.

`Misses` is the counterpart of `ReadsBack` for bytes that are cut off. Both are carried together from the parts
of a record to the record.
-/

namespace SignalGraph

namespace Bytes

variable {α β : Type}

/-- Some of the bytes from the front, but not all. -/
structure CutOff (cut bs : List UInt8) : Prop where
  isPrefix : cut <+: bs
  ne : cut ≠ bs

/-- The reader finds that the bytes end too early, wherever they are cut off. -/
def Misses (read : Reader α) (bs : List UInt8) : Prop := ∀ cut, CutOff cut bs → read cut = .error .endOfInput

theorem CutOff.length_lt {cut bs : List UInt8} (h : CutOff cut bs) : cut.length < bs.length :=
  Nat.lt_of_le_of_ne h.isPrefix.length_le fun heq => h.ne (h.isPrefix.eq_of_length heq)

/-- Two parts are cut off in the first one or behind it. -/
theorem CutOff.cases_append {cut bs cs : List UInt8} (h : CutOff cut (bs ++ cs)) :
    CutOff cut bs ∨ ∃ rest, cut = bs ++ rest ∧ CutOff rest cs := by
  rcases List.prefix_or_prefix_of_prefix h.isPrefix (List.prefix_append bs cs) with hcut | ⟨rest, rfl⟩
  · by_cases hall : cut = bs
    · refine Or.inr ⟨[], by rw [hall, List.append_nil], List.nil_prefix, ?_⟩
      rintro rfl
      exact h.ne (by rw [hall, List.append_nil])
    · exact Or.inl ⟨hcut, hall⟩
  · refine Or.inr ⟨rest, rfl, (List.prefix_append_right_inj bs).mp h.isPrefix, ?_⟩
    rintro rfl
    exact h.ne rfl

/-- A reader that goes on with another one misses what either of them misses. -/
theorem Misses.andThen {read : Reader α} {f : α × List UInt8 → Except CodecError (β × List UInt8)}
    {bs cs : List UInt8} {a : α} (h : Misses read bs) (hback : ReadsBack read bs a)
    (hnext : Misses (fun rest => f (a, rest)) cs) :
    Misses (fun bs => read bs >>= f) (bs ++ cs) := by
  intro cut hcut
  rcases hcut.cases_append with hfirst | ⟨rest, rfl, hrest⟩
  · dsimp only
    rw [h cut hfirst]
    rfl
  · dsimp only
    rw [hback rest]
    exact hnext rest hrest

/-- What is made of the value of a reader does not matter where the reader misses bytes. -/
theorem Misses.bind {read : Reader α} {f : α × List UInt8 → Except CodecError (β × List UInt8)} {bs : List UInt8}
    (h : Misses read bs) : Misses (fun bs => read bs >>= f) bs := by
  intro cut hcut
  dsimp only
  rw [h cut hcut]
  rfl

/-! ## Numbers and texts -/

theorem misses_readNat (width n : Nat) : Misses (readNat width) (writeNat width n) := by
  intro cut hcut
  have hlt := hcut.length_lt
  rw [length_writeNat] at hlt
  unfold readNat
  rw [if_pos hlt]

theorem misses_readWord (w : UInt32) : Misses readWord (writeWord w) := by
  intro cut hcut
  unfold readWord
  rw [misses_readNat 4 w.toNat cut hcut]
  rfl

theorem misses_readText {s : String} (h : FitsText s) : Misses readText (writeText s) := by
  refine Misses.andThen (misses_readNat 8 _) (readLength_writeLength h) ?_
  intro cut hcut
  dsimp only
  rw [if_pos hcut.length_lt]
  rfl

/-! ## Sequences -/

section Sequence

variable {read : Reader α} {write : α → List UInt8} {as : List α}

theorem misses_readItems (hback : ∀ a ∈ as, ReadsBack read (write a) a) (h : ∀ a ∈ as, Misses read (write a)) :
    Misses (readItems read as.length) (as.flatMap write) := by
  induction as with
  | nil =>
      intro cut hcut
      exact absurd hcut.length_lt (Nat.not_lt_zero _)
  | cons a as ih =>
      have hrest := ih (fun b hb => hback b (List.mem_cons_of_mem _ hb)) fun b hb => h b (List.mem_cons_of_mem _ hb)
      rw [List.flatMap_cons]
      exact Misses.andThen (h a List.mem_cons_self) (hback a List.mem_cons_self) hrest.bind

theorem misses_readList (hback : ∀ a ∈ as, ReadsBack read (write a) a) (h : ∀ a ∈ as, Misses read (write a))
    (hlen : as.length < 2 ^ 64) : Misses (readList read) (writeList write as) :=
  Misses.andThen (misses_readNat 8 _) (readLength_writeLength hlen) (misses_readItems hback h)

end Sequence

end Bytes

open Bytes

/-! ## Records -/

theorem NodeRecord.misses_decode {e : NodeRecord} (hpkg : FitsText e.pkg) (hname : FitsText e.name) :
    Misses NodeRecord.decode e.encode := by
  unfold NodeRecord.encode
  rw [List.append_assoc]
  refine Misses.andThen (misses_readText hpkg) (readText_writeText hpkg) ?_
  refine Misses.andThen (misses_readText hname) (readText_writeText hname) ?_
  exact (misses_readWord e.delayWrite).bind

theorem ConnectionRecord.misses_decode (c : ConnectionRecord) : Misses ConnectionRecord.decode c.encode := by
  unfold ConnectionRecord.encode
  rw [List.append_assoc, List.append_assoc]
  refine Misses.andThen (misses_readWord c.srcNode) (readWord_writeWord c.srcNode) ?_
  refine Misses.andThen (misses_readWord c.srcPort) (readWord_writeWord c.srcPort) ?_
  refine Misses.andThen (misses_readWord c.dstNode) (readWord_writeWord c.dstNode) ?_
  exact (misses_readWord c.dstPort).bind

namespace GraphRecord

variable {r r' : GraphRecord}

theorem Fits.misses_decode (h : r.Fits) : Misses GraphRecord.decode r.encode := by
  have hnodes : ∀ e ∈ r.nodes, ReadsBack NodeRecord.decode e.encode e :=
    fun e he => NodeRecord.decode_encode (h.origins e he).1 (h.origins e he).2
  have hnodes' : ∀ e ∈ r.nodes, Misses NodeRecord.decode e.encode :=
    fun e he => NodeRecord.misses_decode (h.origins e he).1 (h.origins e he).2
  have hconns : Misses (readList ConnectionRecord.decode) (writeList ConnectionRecord.encode r.connections) :=
    misses_readList (fun c _ => c.decode_encode) (fun c _ => c.misses_decode) h.connections
  unfold GraphRecord.encode
  rw [List.append_assoc]
  refine Misses.andThen (misses_readText h.name) (readText_writeText h.name) ?_
  refine Misses.andThen (misses_readList hnodes hnodes' h.nodes) (readList_writeList hnodes h.nodes) ?_
  exact hconns.bind

/-- What the bytes of a record and anything behind them stand for. -/
theorem Fits.decode_append (h : r.Fits) (rest : List UInt8) (resolve : Origin → Option Capability) :
    Graph.decode (r.encode ++ rest) resolve = (r.toGraph resolve).mapError .record := by
  unfold Graph.decode
  rw [GraphRecord.decode_encode h rest]

/-- No file goes on where another one ends. -/
theorem Fits.eq_of_append_eq (h : r.Fits) (h' : r'.Fits) {rest rest' : List UInt8}
    (heq : r.encode ++ rest = r'.encode ++ rest') : r = r' ∧ rest = rest' := by
  have hback := GraphRecord.decode_encode h rest
  rw [heq, GraphRecord.decode_encode h' rest'] at hback
  injection hback with hback
  injection hback with hrecord hrest
  exact ⟨hrecord.symm, hrest.symm⟩

/--
**A file says where it ends.** Bytes behind a record change nothing of what is read, whether that is a graph or
the reason why the record is none. A file that is cut off anywhere is refused because it ends too early. Two
records have two files. All that is asked of a record is that eight bytes hold the lengths of its texts and
tables, which they do of whatever fits into the memory of a machine.
-/
theorem file_self_delimiting (h : r.Fits) :
    (∀ rest resolve, Graph.decode (r.encode ++ rest) resolve = Graph.decode r.encode resolve
      ∧ Graph.decode r.encode resolve = (r.toGraph resolve).mapError .record)
      ∧ (∀ cut resolve, cut <+: r.encode → cut ≠ r.encode → Graph.decode cut resolve = .error (.codec .endOfInput))
      ∧ (ReadError.codec .endOfInput).message = "Codec error: io error"
      ∧ ∀ r' : GraphRecord, r'.Fits → r ≠ r' → r.encode ≠ r'.encode := by
  have hwhole : ∀ resolve, Graph.decode r.encode resolve = (r.toGraph resolve).mapError .record := by
    intro resolve
    have hback := h.decode_append [] resolve
    rwa [List.append_nil] at hback
  refine ⟨?_, ?_, rfl, ?_⟩
  · intro rest resolve
    exact ⟨(h.decode_append rest resolve).trans (hwhole resolve).symm, hwhole resolve⟩
  · intro cut resolve hfront hne
    unfold Graph.decode
    rw [h.misses_decode cut ⟨hfront, hne⟩]
  · intro r' h' hne heq
    exact hne (h.eq_of_append_eq h' (congrArg (· ++ []) heq)).1

/-- The file of an echo is cut off in the middle of a character. -/
theorem cut_in_character :
    let r : GraphRecord := ⟨"écho", [⟨"", "in-x", 0⟩, ⟨"dsp", "Delay", 2⟩], [⟨0, 0, 1, 1⟩]⟩
    r.Fits ∧ r.encode.take 9 <+: r.encode ∧ r.encode.take 9 ≠ r.encode
      ∧ Graph.decode (r.encode.take 9) (fun _ => none) = .error (.codec .endOfInput) := by
  intro r
  have hfits : r.Fits := by
    refine ⟨?_, ?_, by decide, by decide⟩
    · unfold FitsText
      decide
    · unfold FitsText
      decide
  have hfront : r.encode.take 9 <+: r.encode := List.take_prefix 9 _
  have hne : r.encode.take 9 ≠ r.encode := by
    decide
  exact ⟨hfits, hfront, hne, (file_self_delimiting hfits).2.1 _ (fun _ => none) hfront hne⟩

end GraphRecord

end SignalGraph
