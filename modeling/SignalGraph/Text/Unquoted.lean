import SignalGraph.Bytes.Codec
import SignalGraph.Text.Quoted

/-!
# Reading quoted text

The escapes of `Quoted` are read back, with code points of one to six hexadecimal digits, and one more: a
byte by two hexadecimal digits. Within a text, several byte escapes may together be the UTF-8 bytes of one
character; between single quotes a character has only one escape. Rows of bytes take every byte by itself.
-/

namespace SignalGraph.Text

/-- The value of a hexadecimal digit in either case. -/
def hexValue? (c : Char) : Option Nat :=
  if c.isDigit then some (c.toNat - '0'.toNat)
  else if 'a' ≤ c ∧ c ≤ 'f' then some (c.toNat - 'a'.toNat + 10)
  else if 'A' ≤ c ∧ c ≤ 'F' then some (c.toNat - 'A'.toNat + 10)
  else none

/-- The character of a code point, if it is one. -/
def charOfCode? (n : Nat) : Option Char := if n.isValidChar then some (Char.ofNat n) else none

/-- A byte of two hexadecimal digits and what follows. -/
def readByte? : List Char → Option (UInt8 × List Char)
  | a :: b :: cs => do
    let high ← hexValue? a
    let low ← hexValue? b
    pure (UInt8.ofNat (16 * high + low), cs)
  | _ => none

/--
A character whose UTF-8 bytes are `bytes` and up to `more` further byte escapes, and what follows. The
character is complete as soon as the bytes are.
-/
def readCharBytes? (bytes : List UInt8) : (more : Nat) → List Char → Option (Char × List Char)
  | 0, cs => finish cs
  | more + 1, cs => finish cs <|> match cs with
    | '\\' :: 'x' :: cs => (readByte? cs).bind fun (b, cs) => readCharBytes? (bytes ++ [b]) more cs
    | _ => none
where
  /-- The one character of the bytes. -/
  finish (cs : List Char) : Option (Char × List Char) :=
    match (Bytes.toText? bytes).map String.toList with
    | some [c] => some (c, cs)
    | _ => none

/-- A character by its code point between braces and what follows. -/
def readCode? : List Char → Option (Char × List Char)
  | '\x7b' :: cs =>
    let ds := cs.takeWhile (· ≠ '\x7d')
    if ds.isEmpty || 6 < ds.length then none
    else match cs.drop ds.length with
      | '\x7d' :: rest => do
        let n ← ds.foldlM (fun n c => (hexValue? c).map (16 * n + ·)) 0
        let c ← charOfCode? n
        pure (c, rest)
      | _ => none
  | _ => none

/--
The character of an escape, from the character behind the backslash on, and what follows. Up to `more`
further byte escapes may belong to the same character.
-/
def readEscape? (more : Nat) : List Char → Option (Char × List Char)
  | '0' :: cs => some ('\x00', cs)
  | 't' :: cs => some ('\t', cs)
  | 'r' :: cs => some ('\r', cs)
  | 'n' :: cs => some ('\n', cs)
  | '\\' :: cs => some ('\\', cs)
  | '"' :: cs => some ('"', cs)
  | '\'' :: cs => some ('\'', cs)
  | 'x' :: cs => (readByte? cs).bind fun (b, cs) => readCharBytes? [b] more cs
  | 'u' :: cs => readCode? cs
  | _ => none

/-- The bytes of an escape, which by two hexadecimal digits may name any byte, and what follows. -/
def readByteEscape? : List Char → Option (List UInt8 × List Char)
  | 'x' :: cs => (readByte? cs).map fun (b, cs) => ([b], cs)
  | cs => (readEscape? 0 cs).map fun (c, cs) => (Bytes.ofText (String.singleton c), cs)

/-! ## What stands between quotes -/

/--
The text that the characters between two quotes stand for. Each step takes at least one character, so the
length of the text bounds the steps.
-/
def unquoteFrom : (fuel : Nat) → List Char → Option (List Char)
  | _, [] => some []
  | 0, _ :: _ => none
  | fuel + 1, c :: cs =>
    if c == '\\' then do
      let (c, cs) ← readEscape? 3 cs
      (unquoteFrom fuel cs).map (c :: ·)
    else (unquoteFrom fuel cs).map (c :: ·)

/-- The text that the characters between two quotes stand for, if every escape is one. -/
def unquoteChars? (cs : List Char) : Option (List Char) := unquoteFrom cs.length cs

/-- The bytes that the characters between two quotes stand for, in as many steps as characters. -/
def unquoteBytesFrom : (fuel : Nat) → List Char → Option (List UInt8)
  | _, [] => some []
  | 0, _ :: _ => none
  | fuel + 1, c :: cs =>
    if c == '\\' then do
      let (bs, cs) ← readByteEscape? cs
      (unquoteBytesFrom fuel cs).map (bs ++ ·)
    else (unquoteBytesFrom fuel cs).map (Bytes.ofText (String.singleton c) ++ ·)

/-- The bytes that the characters between two quotes stand for, if every escape is one. -/
def unquoteBytes? (cs : List Char) : Option (List UInt8) := unquoteBytesFrom cs.length cs

/-- The character between two single quotes. A byte escape there names an ASCII character. -/
def unquoteChar? : List Char → Option Char
  | '\\' :: cs => match readEscape? 0 cs with
    | some (c, []) => some c
    | _ => none
  | [c] => some c
  | _ => none

/-- The byte between two single quotes: an ASCII character, or an escape that is not a code point. -/
def unquoteByte? : List Char → Option UInt8
  | '\\' :: 'u' :: _ => none
  | '\\' :: cs => match readByteEscape? cs with
    | some ([b], []) => some b
    | _ => none
  | [c] => if isAscii c then some (UInt8.ofNat c.toNat) else none
  | _ => none

end SignalGraph.Text
