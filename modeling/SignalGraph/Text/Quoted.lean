import SignalGraph.Text.CharClass

/-!
# Quoted text

A quoted text names its line ends, tabs, NULs, quotes and backslashes by an escape, and spells out by code
point every character that would not be seen or would merge with its neighbour.
-/

namespace SignalGraph.Text

/-- The lower-case hexadecimal digits of a number, without leading zeros. -/
def hexDigits (n : Nat) : List Char := Nat.toDigits 16 n

/-- A character by its code point. -/
def codeEscape (c : Char) : List Char := ['\\', 'u', '\x7b'] ++ hexDigits c.toNat ++ ['\x7d']

/-- A character as it stands inside quotes. -/
def quoteChar (c : Char) : List Char :=
  if c == '\x00' then ['\\', '0']
  else if c == '\t' then ['\\', 't']
  else if c == '\r' then ['\\', 'r']
  else if c == '\n' then ['\\', 'n']
  else if c == '\\' || c == '"' || c == '\'' then ['\\', c]
  else if isExtending c || !isPrintable c then codeEscape c
  else [c]

/-- The characters of a text as they stand inside quotes. -/
def quoteChars (cs : List Char) : List Char := cs.flatMap quoteChar

def quote (s : String) : String := String.ofList (['"'] ++ quoteChars s.toList ++ ['"'])

end SignalGraph.Text
