import SignalGraph.Text.CaseMap

/-!
# Joined words

A text is cut into words at every character that is neither a letter nor a number. The words are written
back in lower case with low lines between them, or joined with a capital at the start of each.
-/

namespace SignalGraph.Text

/--
The lower-case form of the rest of a text, added to the reversed output `out`. A low line separates words,
and an upper-case character from a lower-case one or a digit before it (`afterLower`).
-/
def snakeFrom (out : List Char) (afterLower : Bool) : List Char → List Char
  | [] => out
  | c :: cs =>
    if isAlphanumeric c then
      let out := if isUppercase c && afterLower then '_' :: out else out
      snakeFrom ((lowerChar c).reverse ++ out) (isLowercase c || c.isDigit) cs
    else
      match out with
      | [] => snakeFrom [] false cs
      | '_' :: _ => snakeFrom out false cs
      | _ => snakeFrom ('_' :: out) false cs

/-- A text as lower-case words with low lines between them: `WhiteNoise` is `white_noise`. -/
def snakeCase (s : String) : String :=
  String.ofList ((snakeFrom [] false s.toList).dropWhile (· == '_')).reverse

/-- The words of a text joined; `start` says that the next character opens a word. -/
def camelFrom : Bool → List Char → List Char
  | _, [] => []
  | start, c :: cs =>
    if isAlphanumeric c then (if start then upperChar c else [c]) ++ camelFrom false cs
    else camelFrom true cs

/-- The words of a text joined, each starting in upper case: `add_one` is `AddOne`. -/
def camelCase (s : String) : String := String.ofList (camelFrom true s.toList)

end SignalGraph.Text
