import SignalGraph.ObjectText.Value
import SignalGraph.Text.Quoted

/-!
# Writing values

Every named field, sequence item and map entry stands on a line of its own with a comma behind it, four
blanks further in than what holds it.
-/

namespace SignalGraph.ObjectText

/-- The choices in writing values. -/
structure Layout where
  /-- Whether the items of a sequence are numbered in comments. -/
  numbered : Bool

/-- The blanks at the start of a line. -/
def indent (depth : Nat) : List Char := List.replicate (4 * depth) ' '

/-- The comment that numbers an item. -/
def itemNumber (layout : Layout) (i : Nat) : List Char :=
  if layout.numbered then "/*[".toList ++ Nat.toDigits 10 i ++ "]*/ ".toList else []

/-- A whole number with its suffix. -/
def renderInt (negative : Bool) (magnitude : Nat) (kind : Option IntKind) : List Char :=
  (if negative then ['-'] else []) ++ Nat.toDigits 10 magnitude ++
    (match kind with
      | none => []
      | some k => (if k.signed then 'i' else 'u') :: Nat.toDigits 10 k.bits)

/-- A byte of a row of bytes, by two hexadecimal digits. -/
def renderByte (b : UInt8) : List Char :=
  ['\\', 'x', Nat.digitChar (b.toNat / 16), Nat.digitChar (b.toNat % 16)]

mutual

/-- A value whose first line is `depth` levels in. -/
def renderValue (layout : Layout) (depth : Nat) : Value → List Char
  | .ident name => name.toList
  | .int negative magnitude kind => renderInt negative magnitude kind
  | .real text => text.toList
  | .string s => (Text.quote s).toList
  | .bytes bs => 'b' :: '"' :: bs.flatMap renderByte ++ ['"']
  | .char c => '\'' :: Text.quoteChar c ++ ['\'']
  | .unit => ['(', ')']
  | .absent => "None".toList
  | .present v => "Some(".toList ++ renderValue layout depth v ++ [')']
  | .list [] => ['[', ']']
  | .list (v :: vs) =>
    '[' :: '\n' :: renderItems layout (depth + 1) 0 (v :: vs) ++ indent depth ++ [']']
  | .map [] => ['\x7b', '\x7d']
  | .map (e :: es) =>
    '\x7b' :: '\n' :: renderEntries layout (depth + 1) (e :: es) ++ indent depth ++ ['\x7d']
  | .tuple name vs => (name.getD "").toList ++ '(' :: renderTuple layout depth vs ++ [')']
  | .struct name [] => (name.getD "").toList ++ ['(', ')']
  | .struct name (f :: fs) =>
    (name.getD "").toList ++ '(' :: '\n' :: renderFields layout (depth + 1) (f :: fs) ++
      indent depth ++ [')']

/-- The lines of the items of a sequence from number `i` on. -/
def renderItems (layout : Layout) (depth i : Nat) : List Value → List Char
  | [] => []
  | v :: vs =>
    indent depth ++ itemNumber layout i ++ renderValue layout depth v ++ ',' :: '\n' ::
      renderItems layout depth (i + 1) vs

/-- The lines of the entries of a map. -/
def renderEntries (layout : Layout) (depth : Nat) : List (Value × Value) → List Char
  | [] => []
  | (k, v) :: es =>
    indent depth ++ renderValue layout depth k ++ ':' :: ' ' :: renderValue layout depth v ++
      ',' :: '\n' :: renderEntries layout depth es

/-- The unnamed fields of a tuple, on one line. -/
def renderTuple (layout : Layout) (depth : Nat) : List Value → List Char
  | [] => []
  | [v] => renderValue layout depth v
  | v :: vs => renderValue layout depth v ++ ',' :: ' ' :: renderTuple layout depth vs

/-- The lines of the named fields of a structure. -/
def renderFields (layout : Layout) (depth : Nat) : List (String × Value) → List Char
  | [] => []
  | (name, v) :: fs =>
    indent depth ++ name.toList ++ ':' :: ' ' :: renderValue layout depth v ++
      ',' :: '\n' :: renderFields layout depth fs

end

/-- The text of a value, without a line end behind it. -/
def render (layout : Layout) (v : Value) : String := String.ofList (renderValue layout 0 v)

def Value.ofFields (name : String) (fields : List (String × Value)) : Value := .struct (some name) fields

def Value.ofNat (n : Nat) : Value := .int false n none

end SignalGraph.ObjectText
