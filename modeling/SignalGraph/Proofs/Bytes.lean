import Mathlib.Algebra.Group.Nat.Defs
import SignalGraph.Record.Binary

/-!
# Reading what was written

A reader reads a value back if, given the bytes of the value and anything behind them, it gives the value and
leaves what was behind. Readers of that kind can be put one after the other, so the format of a record is
read back because its parts are.

Lengths are written with eight bytes and words with four, and each part comes back as long as it fits.
-/

namespace SignalGraph

namespace Bytes

/-- The reader takes exactly these bytes off the front and makes this value of them. -/
def ReadsBack {α : Type} (read : Reader α) (bs : List UInt8) (a : α) : Prop :=
  ∀ rest, read (bs ++ rest) = .ok (a, rest)

/-! ## Numbers -/

theorem length_writeNat (width n : Nat) : (writeNat width n).length = width := by
  induction width generalizing n with
  | zero => rfl
  | succ width ih =>
      unfold writeNat
      rw [List.length_cons, ih]

theorem ofBytes_writeNat {width n : Nat} (h : n < 256 ^ width) : ofBytes (writeNat width n) = n := by
  induction width generalizing n with
  | zero =>
      rw [Nat.pow_zero, Nat.lt_one_iff] at h
      exact h.symm
  | succ width ih =>
      have hrest : n / 256 < 256 ^ width := Nat.div_lt_of_lt_mul (by rwa [Nat.mul_comm, ← Nat.pow_succ])
      have hfirst : (UInt8.ofNat (n % 256)).toNat = n % 256 := by
        rw [UInt8.toNat_ofNat']
        exact Nat.mod_mod n 256
      unfold writeNat ofBytes
      rw [ih hrest, hfirst]
      exact Nat.mod_add_div n 256

theorem readNat_writeNat {width n : Nat} (h : n < 256 ^ width) :
    ReadsBack (readNat width) (writeNat width n) n := by
  intro rest
  have hlen := length_writeNat width n
  unfold readNat
  rw [if_neg (by rw [List.length_append, hlen]; omega), List.take_left' hlen, List.drop_left' hlen,
    ofBytes_writeNat h]

theorem readWord_writeWord (w : UInt32) : ReadsBack readWord (writeWord w) w := by
  intro rest
  have hread : ReadsBack (readNat 4) (writeNat 4 w.toNat) w.toNat := readNat_writeNat (by exact w.toNat_lt)
  unfold readWord writeWord
  rw [hread]
  simp [Except.map]

theorem readLength_writeLength {n : Nat} (h : n < 2 ^ 64) : ReadsBack readLength (writeLength n) n :=
  readNat_writeNat (by exact h)

/-! ## Texts -/

theorem toText?_ofText (s : String) : toText? (ofText s) = some s := by
  unfold toText? ofText
  exact dif_pos s.isValidUTF8

/-- A text with a length that can be written. -/
def FitsText (s : String) : Prop := (ofText s).length < 2 ^ 64

instance (s : String) : Decidable (FitsText s) := inferInstanceAs (Decidable (_ < _))

theorem readText_writeText {s : String} (h : FitsText s) : ReadsBack readText (writeText s) s := by
  intro rest
  unfold readText writeText
  dsimp only
  rw [List.append_assoc, readLength_writeLength h]
  dsimp only [bind, Except.bind]
  rw [if_neg (by rw [List.length_append]; omega), List.take_left, List.drop_left, toText?_ofText]
  rfl

/-! ## Sequences -/

theorem readItems_flatMap {α : Type} {read : Reader α} {write : α → List UInt8} {as : List α}
    (h : ∀ a ∈ as, ReadsBack read (write a) a) : ReadsBack (readItems read as.length) (as.flatMap write) as := by
  induction as with
  | nil =>
      intro rest
      rfl
  | cons a as ih =>
      intro rest
      have hfirst := h a List.mem_cons_self
      have hrest := ih fun a' ha' => h a' (List.mem_cons_of_mem _ ha')
      rw [List.flatMap_cons, List.append_assoc, List.length_cons]
      unfold readItems
      rw [hfirst]
      dsimp only [bind, Except.bind]
      rw [hrest]
      rfl

theorem readList_writeList {α : Type} {read : Reader α} {write : α → List UInt8} {as : List α}
    (h : ∀ a ∈ as, ReadsBack read (write a) a) (hlen : as.length < 2 ^ 64) :
    ReadsBack (readList read) (writeList write as) as := by
  intro rest
  unfold readList writeList
  rw [List.append_assoc, readLength_writeLength hlen]
  exact readItems_flatMap h rest

end Bytes

open Bytes

/-! ## Records -/

/-- The texts and the tables of a record have lengths that can be written. -/
structure GraphRecord.Fits (r : GraphRecord) : Prop where
  /-- The name of the graph. -/
  name : FitsText r.name
  /-- The origins of the nodes. -/
  origins : ∀ e ∈ r.nodes, FitsText e.pkg ∧ FitsText e.name
  /-- The node table. -/
  nodes : r.nodes.length < 2 ^ 64
  /-- The connection table. -/
  connections : r.connections.length < 2 ^ 64

theorem NodeRecord.decode_encode {e : NodeRecord} (hpkg : FitsText e.pkg) (hname : FitsText e.name) :
    ReadsBack NodeRecord.decode e.encode e := by
  intro rest
  unfold NodeRecord.decode NodeRecord.encode
  rw [List.append_assoc, List.append_assoc, readText_writeText hpkg]
  dsimp only [bind, Except.bind]
  rw [readText_writeText hname]
  dsimp only
  rw [readWord_writeWord]
  rfl

theorem ConnectionRecord.decode_encode (c : ConnectionRecord) : ReadsBack ConnectionRecord.decode c.encode c := by
  intro rest
  unfold ConnectionRecord.decode ConnectionRecord.encode
  rw [List.append_assoc, List.append_assoc, List.append_assoc, readWord_writeWord]
  dsimp only [bind, Except.bind]
  rw [readWord_writeWord]
  dsimp only
  rw [readWord_writeWord]
  dsimp only
  rw [readWord_writeWord]
  rfl

/-- A record is read back from its bytes, whatever stands behind them. -/
theorem GraphRecord.decode_encode {r : GraphRecord} (h : r.Fits) : ReadsBack GraphRecord.decode r.encode r := by
  intro rest
  have hnodes : ReadsBack (readList NodeRecord.decode) (writeList NodeRecord.encode r.nodes) r.nodes :=
    readList_writeList (fun e he => NodeRecord.decode_encode (h.origins e he).1 (h.origins e he).2) h.nodes
  have hconns : ReadsBack (readList ConnectionRecord.decode) (writeList ConnectionRecord.encode r.connections)
      r.connections :=
    readList_writeList (fun c _ => ConnectionRecord.decode_encode c) h.connections
  unfold GraphRecord.decode GraphRecord.encode
  rw [List.append_assoc, List.append_assoc, readText_writeText h.name]
  dsimp only [bind, Except.bind]
  rw [hnodes]
  dsimp only
  rw [hconns]
  rfl

end SignalGraph
