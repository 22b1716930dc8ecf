import SignalGraph.Text.CharClass
import SignalGraph.Text.Class.CaseRuns

/-!
# Changing case

The full case mappings: a character may become several (`ß` in upper case), and a whole text in lower
case ends its words with the final form of sigma.
-/

namespace SignalGraph.Text

/-- The mapped form of a code point of this run, if the run holds it. -/
def CaseRun.image? (r : CaseRun) (n : Nat) : Option Nat :=
  if r.first ≤ n ∧ n ≤ r.last ∧ (n - r.first) % r.stride = 0 then some (n + r.offset).toNat else none

/-- Look a code point up in the sequences first and in the runs second; it stands for itself otherwise. -/
def mapCase (runs : Array CaseRun) (sequences : Array (Nat × List Nat)) (c : Char) : List Char :=
  match sequences.find? (·.1 == c.toNat) with
  | some (_, ns) => ns.map Char.ofNat
  | none => [((runs.findSome? (·.image? c.toNat)).map Char.ofNat).getD c]

def lowerChar (c : Char) : List Char :=
  if isAscii c then [c.toLower] else mapCase lowerRuns lowerSequences c

def upperChar (c : Char) : List Char :=
  if isAscii c then [c.toUpper] else mapCase upperRuns upperSequences c

/-- Whether the next character that is not ignorable for case is cased. -/
def reachesCased (cs : List Char) : Bool :=
  match cs.dropWhile isCaseIgnorable with
  | c :: _ => isCased c
  | [] => false

/--
Lower case, with the characters already passed in reverse. A capital sigma takes its final form after a
cased character unless another one follows, looking through ignorable characters on both sides.
-/
def lowerFrom : List Char → List Char → List Char
  | _, [] => []
  | before, c :: rest =>
    (if c == 'Σ' then [if reachesCased before && !reachesCased rest then 'ς' else 'σ']
      else lowerChar c) ++ lowerFrom (c :: before) rest

def lowercase (s : String) : String := String.ofList (lowerFrom [] s.toList)

end SignalGraph.Text
