import SignalGraph.Text.Affix
import SignalGraph.Text.Words

/-!
# Identifiers

Graphs, nodes, packages and terminals may have any text for a name. In a program they go by an identifier
that is made of the text: lower-case words for values, joined words for types, with a fallback where the text
has no letter and no digit. What would read as a number, a keyword or a generated variable is marked by a low
line.
-/

namespace SignalGraph.Identifier

/-- The words of the programming language that cannot be names. -/
def keywords : List String := [
  "as", "async", "await", "break", "const", "continue", "crate", "dyn", "else", "enum", "extern", "false",
  "fn", "for", "if", "impl", "in", "let", "loop", "match", "mod", "move", "mut", "pub", "ref", "return",
  "self", "static", "struct", "super", "trait", "true", "type", "unsafe", "use", "where", "while"]

/-- A name, or the fallback if it is empty, with a low line before a leading digit. -/
def complete (name fallback : String) : String :=
  let name := if name.isEmpty then fallback else name
  if name.toList.head?.any Char.isDigit then "_" ++ name else name

/-- The identifier of a value, a function or a module. -/
def ofText (text fallback : String) : String :=
  let name := complete (Text.snakeCase text) fallback
  if keywords.contains name then name ++ "_" else name

def ofTypeText (text fallback : String) : String :=
  let name := complete (Text.camelCase text) fallback
  if name == "Self" then name ++ "_" else name

/-- The name of a generated variable. -/
def variableName (k : Nat) : String := "v" ++ toString k

/-- Whether a name looks like that of a generated variable. -/
def isVariable (name : String) : Bool :=
  match name.toList with
  | 'v' :: c :: cs => (c :: cs).all Char.isDigit
  | _ => false

/-- The first candidate that is not taken. -/
def firstFree (taken : List String) (candidate : Nat → String) : String :=
  (((List.range (taken.length + 1)).map candidate).find? (!taken.contains ·)).getD (candidate 0)

/-- A name followed by a counter from two on, or by nothing in first place. -/
def numbered (base sep : String) : Nat → String
  | 0 => base
  | k + 1 => base ++ sep ++ toString (k + 2)

/-- A parameter name that is not taken and does not look like a variable. -/
def parameter (taken : List String) (base : String) : String :=
  firstFree taken (numbered (if isVariable base then base ++ "_" else base) "_")

/-- Distinct parameter names for some terminals, in order. -/
def parameters (terminals : List String) : List String :=
  terminals.foldl (fun taken t => taken ++ [parameter taken (ofText t "input")]) []

/-- What a module is called after: the last part of its path. -/
def lastSegment (path : String) : String := Text.afterLast (fun c => c == '/' || c == ':') path

/-- A module name for a package that is not taken. -/
def moduleAlias (taken : List String) (pkg : String) : String :=
  firstFree taken (numbered (ofText (lastSegment pkg) "pkg") "")

end SignalGraph.Identifier
