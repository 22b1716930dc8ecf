/-!
# Prefixes and separators

Small operations on texts that the standard library offers on slices only.
-/

namespace SignalGraph.Text

/-- What follows `start` in `s`, if `s` starts with it. -/
def stripPrefix? (start s : String) : Option String :=
  (start.toList.isPrefixOf? s.toList).map String.ofList

def startsWith (start s : String) : Bool := (stripPrefix? start s).isSome

/-- What precedes `finish` in some characters, if they end with it. -/
def stripSuffix? (finish : String) (cs : List Char) : Option (List Char) :=
  (finish.toList.reverse.isPrefixOf? cs.reverse).map List.reverse

/-- Texts with `sep` between each two of them. -/
def join (sep : String) : List String → String
  | [] => ""
  | [s] => s
  | s :: rest => s ++ sep ++ join sep rest

/-- The part of a text after the last character that satisfies `p`. -/
def afterLast (p : Char → Bool) (s : String) : String :=
  String.ofList (s.toList.reverse.takeWhile (!p ·)).reverse

/-- A text without the blanks of `p` at either end. -/
def trim (p : Char → Bool) (s : String) : String :=
  String.ofList ((s.toList.dropWhile p).reverse.dropWhile p).reverse

/-- A text filled with blanks on the right until it has `width` characters. -/
def padRight (width : Nat) (s : String) : String :=
  s ++ String.ofList (List.replicate (width - s.length) ' ')

/-- A text filled with blanks on the left until it has `width` characters. -/
def padLeft (width : Nat) (s : String) : String :=
  String.ofList (List.replicate (width - s.length) ' ') ++ s

/-- The texts between the characters that satisfy `p`. -/
def splitOn (p : Char → Bool) : List Char → List (List Char)
  | [] => [[]]
  | c :: cs =>
    if p c then [] :: splitOn p cs
    else match splitOn p cs with
      | [] => [[c]]
      | w :: ws => (c :: w) :: ws

/-- A text with another text in place of every occurrence of a character. -/
def replaceChar (c : Char) (new s : String) : String :=
  String.ofList (s.toList.flatMap fun d => if d = c then new.toList else [d])

/-- A line without the carriage return that may stand at its end. -/
def stripReturn (line : List Char) : List Char := (stripSuffix? "\r" line).getD line

/-- The lines of a text that ends with a line feed. -/
def lines (s : String) : List String :=
  (splitOn (· == '\n') s.toList).dropLast.map fun line => String.ofList (stripReturn line)

end SignalGraph.Text
