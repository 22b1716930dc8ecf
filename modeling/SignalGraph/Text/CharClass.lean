import SignalGraph.Text.Class.Alphanumeric
import SignalGraph.Text.Class.Case
import SignalGraph.Text.Class.Identifier
import SignalGraph.Text.Class.Printing

/-!
# Character classes

Each class tests ASCII by rule and looks the other characters up in the table of a Unicode property, so
that statements on ASCII text never reach a table.
-/

namespace SignalGraph.Text

def isAscii (c : Char) : Bool := c.toNat < 128

/-- A letter or a number of any script. -/
def isAlphanumeric (c : Char) : Bool :=
  if isAscii c then c.isAlphanum else alphanumericRanges.contains c

def isUppercase (c : Char) : Bool :=
  if isAscii c then c.isUpper else uppercaseRanges.contains c

def isLowercase (c : Char) : Bool :=
  if isAscii c then c.isLower else lowercaseRanges.contains c

/-- A character of one of the cases, title case included. -/
def isCased (c : Char) : Bool := casedRanges.contains c

/-- A character that is looked through when the end of a word is sought. -/
def isCaseIgnorable (c : Char) : Bool := caseIgnorableRanges.contains c

/-- White space: the six ASCII blanks and line ends, and the spaces of other blocks. -/
def isBlank (c : Char) : Bool :=
  c == ' ' || (0x9 ≤ c.toNat && c.toNat ≤ 0xd) || c.toNat == 0x85 || c.toNat == 0xa0
    || c.toNat == 0x1680 || (0x2000 ≤ c.toNat && c.toNat ≤ 0x200a) || c.toNat == 0x2028
    || c.toNat == 0x2029 || c.toNat == 0x202f || c.toNat == 0x205f || c.toNat == 0x3000

/-- A character that is shown as itself when a text is quoted. -/
def isPrintable (c : Char) : Bool :=
  if isAscii c then 0x20 ≤ c.toNat && c.toNat != 0x7f else !unprintableRanges.contains c

/-- A character that merges with the one before it, such as a combining accent. -/
def isExtending (c : Char) : Bool := extendingRanges.contains c

/-- A character that may start an identifier; the low line is not one of them. -/
def isIdentifierStart (c : Char) : Bool :=
  if isAscii c then c.isAlpha else identifierStartRanges.contains c

/-- A character that may continue an identifier. -/
def isIdentifierContinue (c : Char) : Bool :=
  if isAscii c then c.isAlphanum || c == '_' else identifierContinueRanges.contains c

end SignalGraph.Text
