import SignalGraph.Decimal.Basic
import SignalGraph.Text.Affix
import SignalGraph.Text.Unquoted

/-!
# Tokens of object text

Object text (RON) writes structured values as named fields between parentheses. It is cut into tokens by a
machine that looks at one character at a time: `Mode` is what the machine is in the middle of, and blanks and
comments between tokens leave no trace.
-/

namespace SignalGraph.ObjectText

/-- The sizes of whole numbers that a suffix may name. -/
structure IntKind where
  signed : Bool
  bits : Nat
deriving DecidableEq

/-- A token. -/
inductive Token where
  /-- An identifier; `raw` if it is marked as one that is never a keyword. -/
  | ident (raw : Bool) (name : String)
  /-- A whole number with an optional suffix. -/
  | int (negative : Bool) (magnitude : Nat) (kind : Option IntKind)
  /-- A number that is not written as a whole one. -/
  | real (text : String)
  /-- A text. -/
  | string (s : String)
  /-- A row of bytes. -/
  | bytes (bs : List UInt8)
  /-- A single character. -/
  | char (c : Char)
  /-- An opening parenthesis with its closing one directly behind it. -/
  | unit
  /-- One of the marks between values. -/
  | mark (c : Char)
deriving DecidableEq

/-! ## Numbers -/

def intKinds : List (String × IntKind) :=
  [("i8", ⟨true, 8⟩), ("i16", ⟨true, 16⟩), ("i32", ⟨true, 32⟩), ("i64", ⟨true, 64⟩),
   ("u8", ⟨false, 8⟩), ("u16", ⟨false, 16⟩), ("u32", ⟨false, 32⟩), ("u64", ⟨false, 64⟩)]

/-- Whether a number belongs to a kind. -/
def IntKind.holds (k : IntKind) (negative : Bool) (magnitude : Nat) : Bool :=
  if k.signed then if negative then magnitude ≤ Nat.pow 2 (k.bits - 1) else magnitude < Nat.pow 2 (k.bits - 1)
  else if negative then magnitude == 0 else magnitude < Nat.pow 2 k.bits

/-- The base that a number names in front, and its digits. -/
def splitBase : List Char → Nat × List Char
  | '0' :: 'b' :: cs => (2, cs)
  | '0' :: 'o' :: cs => (8, cs)
  | '0' :: 'x' :: cs => (16, cs)
  | cs => (10, cs)

/-- The value of digits of a base, with low lines among them. -/
def digits? (base : Nat) (cs : List Char) : Option Nat :=
  (cs.filter (· ≠ '_')).foldlM (fun n c => do
    let d ← Text.hexValue? c
    if d < base then pure (base * n + d) else none) 0

/-- The numbers that are kept without a suffix: the greatest kind of their sign. -/
def IntKind.plain (negative : Bool) : IntKind := if negative then ⟨true, 64⟩ else ⟨false, 64⟩

/--
A whole number: sign, base, digits that do not start with a low line, suffix. Numbers of base 8 or 16 have
no suffix.
-/
def readInt? (cs : List Char) : Option Token := do
  let (negative, cs) := Decimal.splitSign cs
  let (base, cs) := splitBase cs
  let isDigit (c : Char) : Bool := (Text.hexValue? c).isSome || c == '_'
  let digits := cs.takeWhile isDigit
  if digits.isEmpty || digits.head? == some '_' then none
  let magnitude ← digits? base digits
  let suffix := String.ofList (cs.dropWhile isDigit)
  if suffix.isEmpty then
    if (IntKind.plain negative).holds negative magnitude then pure (.int negative magnitude none) else none
  else if base == 8 || base == 16 then none
  else
    let kind ← intKinds.lookup suffix
    if kind.holds negative magnitude then pure (.int negative magnitude (some kind)) else none

/-- The characters of a number without its low lines, which stand only behind a digit or an exponent letter. -/
def withoutLowLines? : (allowed : Bool) → List Char → Option (List Char)
  | _, [] => some []
  | allowed, c :: cs =>
    if c == '_' then if allowed then withoutLowLines? allowed cs else none
    else
      let allowed := if c.isDigit || c == 'e' || c == 'E' then true
        else if c == '.' then false else allowed
      (withoutLowLines? allowed cs).map (c :: ·)

/-- The names of numbers that are not finite. -/
def notFinite : List String := ["inf", "NaN"]

/-- A number with a point or an exponent, or one that is not finite, with an optional suffix. -/
def readReal? (cs : List Char) : Option Token :=
  let text := String.ofList cs
  let isReal (body : List Char) : Bool :=
    notFinite.contains (String.ofList (Decimal.splitSign body).2) ||
      ((withoutLowLines? false body).bind Decimal.read?).isSome
  let bodies := [some cs, Text.stripSuffix? "f32" cs, Text.stripSuffix? "f64" cs].filterMap id
  if bodies.any isReal then some (.real text) else none

/-- A number. Whole ones that are too great for every kind are read like those with a point. -/
def readNumber? (cs : List Char) : Option Token := readInt? cs <|> readReal? cs

/-! ## The machine -/

/-- What the machine is in the middle of. Characters that it keeps are in reverse. -/
inductive Mode where
  /-- Between tokens. -/
  | blank
  /-- Behind an opening parenthesis. -/
  | opened
  /-- Behind the first character of a comment. -/
  | slash
  /-- In a comment that ends with the line. -/
  | lineComment
  /-- In a comment within `depth` others, behind a character that may be half of a mark. -/
  | blockComment (depth : Nat) (half : Option Char)
  /-- In an identifier. -/
  | word (kept : List Char)
  /-- In an identifier that is never a keyword. -/
  | rawWord (kept : List Char)
  /-- In a number. -/
  | number (kept : List Char)
  /-- Between quotes, behind a backslash if `escaped`; `bytes` for a row of bytes. -/
  | quoted (bytes escaped : Bool) (kept : List Char)
  /-- Between single quotes, behind a backslash if `escaped`; `byte` for the number of a byte. -/
  | single (byte escaped : Bool) (kept : List Char)
  /-- Behind the number signs that open a text without escapes. -/
  | opening (bytes : Bool) (count : Nat)
  /-- In a text without escapes, behind a quote and `seen` number signs if `seen` is given. -/
  | plain (bytes : Bool) (count : Nat) (seen : Option Nat) (kept : List Char)
deriving DecidableEq

def isSpace (c : Char) : Bool :=
  c == ' ' || (0x9 ≤ c.toNat && c.toNat ≤ 0xd) || c.toNat == 0x85 || c.toNat == 0x200e ||
    c.toNat == 0x200f || c.toNat == 0x2028 || c.toNat == 0x2029

/-- The marks between values, opening parentheses apart. -/
def marks : List Char := [')', '[', ']', '\x7b', '\x7d', ',', ':', '#', '!']

/-- The characters of which a number is made. -/
def isNumberChar (c : Char) : Bool := c.isAlphanum || c == '_' || c == '.' || c == '+' || c == '-'

/-- The characters of an identifier that is marked as raw. -/
def isRawChar (c : Char) : Bool := Text.isIdentifierContinue c || c == '.' || c == '+' || c == '-'

/-- A token from the characters between double quotes. -/
def quotedToken? (bytes : Bool) (cs : List Char) : Option Token :=
  if bytes then (Text.unquoteBytes? cs).map .bytes
  else (Text.unquoteChars? cs).map fun cs => .string (String.ofList cs)

/-- A token from the characters between single quotes. -/
def singleToken? (byte : Bool) (cs : List Char) : Option Token :=
  if byte then (Text.unquoteByte? cs).map fun b => .int false b.toNat (some ⟨false, 8⟩)
  else (Text.unquoteChar? cs).map .char

/-- A text without escapes ends behind its quote and as many number signs as it began with. -/
def closePlain (bytes : Bool) (count : Nat) (seen : Option Nat) (kept : List Char) : Mode × List Token :=
  if seen = some count then
    let s := String.ofList (kept.drop (count + 1)).reverse
    (.blank, [if bytes then .bytes (Bytes.ofText s) else .string s])
  else (.plain bytes count seen kept, [])

def Mode.start? (c : Char) : Option (Mode × List Token) :=
  if isSpace c then some (.blank, [])
  else if c == '/' then some (.slash, [])
  else if c == '"' then some (.quoted false false [], [])
  else if c == '\'' then some (.single false false [], [])
  else if c == '(' then some (.opened, [])
  else if marks.contains c then some (.blank, [.mark c])
  else if c.isDigit || c == '+' || c == '-' || c == '.' then some (.number [c], [])
  else if Text.isIdentifierStart c || c == '_' then some (.word [c], [])
  else none

/-- A character between tokens, behind the token that it ends. -/
def Mode.startAfter? (t : Token) (c : Char) : Option (Mode × List Token) :=
  (Mode.start? c).map fun (m, ts) => (m, t :: ts)

/-- The next character: what the machine is in the middle of then, and the tokens that are complete. -/
def Mode.step? (c : Char) : Mode → Option (Mode × List Token)
  | blank => Mode.start? c
  | opened =>
    if c == ')' then some (blank, [.unit]) else Mode.startAfter? (.mark '(') c
  | slash =>
    if c == '/' then some (lineComment, [])
    else if c == '*' then some (blockComment 0 none, [])
    else none
  | lineComment => some (if c == '\n' then blank else lineComment, [])
  | blockComment depth half =>
    if half == some '/' && c == '*' then some (blockComment (depth + 1) none, [])
    else if half == some '*' && c == '/' then
      some (match depth with
        | 0 => blank
        | depth + 1 => blockComment depth none, [])
    else some (blockComment depth (if c == '/' || c == '*' then some c else none), [])
  | word kept =>
    if Text.isIdentifierContinue c then some (word (c :: kept), [])
    else if c == '"' && kept == ['b'] then some (quoted true false [], [])
    else if c == '\'' && kept == ['b'] then some (single true false [], [])
    else if c == '"' && kept == ['r'] then some (plain false 0 none [], [])
    else if c == '"' && kept == ['r', 'b'] then some (plain true 0 none [], [])
    else if c == '#' && kept == ['r'] then some (opening false 1, [])
    else if c == '#' && kept == ['r', 'b'] then some (opening true 1, [])
    else Mode.startAfter? (.ident false (String.ofList kept.reverse)) c
  | rawWord kept =>
    if isRawChar c then some (rawWord (c :: kept), [])
    else Mode.startAfter? (.ident true (String.ofList kept.reverse)) c
  | number kept =>
    if isNumberChar c then some (number (c :: kept), [])
    else (readNumber? kept.reverse).bind fun t => Mode.startAfter? t c
  | quoted bytes escaped kept =>
    if c == '"' && !escaped then (quotedToken? bytes kept.reverse).map fun t => (blank, [t])
    else some (quoted bytes (c == '\\' && !escaped) (c :: kept), [])
  | single byte escaped kept =>
    if c == '\'' && !escaped && !kept.isEmpty then
      (singleToken? byte kept.reverse).map fun t => (blank, [t])
    else some (single byte (c == '\\' && !escaped) (c :: kept), [])
  | opening bytes count =>
    if c == '#' then some (opening bytes (count + 1), [])
    else if c == '"' then some (plain bytes count none [], [])
    else if count == 1 && !bytes && isRawChar c then some (rawWord [c], [])
    else none
  | plain bytes count seen kept =>
    let seen := if c == '"' then some 0
      else if c == '#' then seen.map (· + 1) else none
    some (closePlain bytes count seen (c :: kept))

/-- The tokens that the end of the text completes. -/
def Mode.finish? : Mode → Option (List Token)
  | blank | lineComment => some []
  | opened => some [.mark '(']
  | word kept => some [.ident false (String.ofList kept.reverse)]
  | rawWord kept => some [.ident true (String.ofList kept.reverse)]
  | number kept => (readNumber? kept.reverse).map ([·])
  | _ => none

/-- The tokens of the rest of a text, behind the reversed tokens `done`. -/
def scanFrom (done : List Token) (m : Mode) : List Char → Option (List Token)
  | [] => m.finish?.map fun ts => done.reverse ++ ts
  | c :: cs => match m.step? c with
    | none => none
    | some (m, ts) => scanFrom (ts.reverse ++ done) m cs

/-- The tokens of a text, if it consists of tokens, blanks and comments. -/
def scan? (s : String) : Option (List Token) := scanFrom [] .blank s.toList

end SignalGraph.ObjectText
