import SignalGraph.Arrangement.Search
import SignalGraph.Decimal.Literal
import SignalGraph.Program.Generate

/-!
# Writing programs

A program without fields is written as one function. A program with fields is written as a type with a method
that initialises the fields and one that runs the statements. Either way the signals come in as parameters and
go out as results.
-/

namespace SignalGraph

/-- Written at the top of every file. -/
def generatedHeader : String := "// Code generated by dspflow. DO NOT EDIT."

/-- The type of the configuration in the standard library. -/
def configType : String := "Config"

def Operand.render : Operand → String
  | param name => name
  | var k => Identifier.variableName k
  | literal v => v.literal

namespace Program

def parenthesised (items : List String) : String := "(" ++ Text.join ", " items ++ ")"

/-- Some blanks, four for each level. -/
def indented (depth : Nat) (line : String) : String :=
  String.ofList (List.replicate (4 * depth) ' ') ++ line ++ "\n"

/-- The module name of a package. What was not imported is looked for in the standard library. -/
def moduleOf (imports : Table String String) (pkg : String) : String :=
  (imports.get? pkg).getD standardPackage

/-- The call of a method of a field. -/
def methodCall (field method : String) (args : List Operand) : String :=
  "self." ++ field ++ "." ++ method ++ parenthesised (args.map (·.render))

def renderCall (imports : Table String String) : Call → String
  | .operator op left right => left.render ++ " " ++ op ++ " " ++ right.render
  | .function origin args =>
    moduleOf imports origin.pkg ++ "::" ++ origin.name ++ parenthesised (args.map (·.render))
  | .process field args => methodCall field "process" args
  | .read field args => methodCall field "read" args
  | .feedbackRead field args => methodCall field "feedback_read" args

/-- What stands for a dropped result. -/
def discard : String := "_"

/-- What the results of a call are bound to; nothing if there are none. -/
def renderPattern : List (Option Nat) → Option String
  | [] => none
  | [r] => some ((r.map Identifier.variableName).getD discard)
  | rs =>
    if rs.all (·.isNone) then some discard
    else some (parenthesised (rs.map fun r => (r.map Identifier.variableName).getD discard))

def renderStatement (imports : Table String String) : Statement → String
  | .write field value => methodCall field "write" [value] ++ ";"
  | .call results call => match renderPattern results with
    | none => renderCall imports call ++ ";"
    | some pattern => "let " ++ pattern ++ " = " ++ renderCall imports call ++ ";"

/-- The line that imports a package. -/
def renderImport (pkg module : String) : String :=
  let path := Text.replaceChar '/' "::" pkg
  if path == module then "use " ++ path ++ ";\n" else "use " ++ path ++ " as " ++ module ++ ";\n"

/-- The imports, with a blank line behind them if there are any. -/
def renderImports (imports : Table String String) : String :=
  if imports.isEmpty then ""
  else String.join (imports.entries.map fun (pkg, module) => renderImport pkg module) ++ "\n"

def renderParams (params : List String) : List String := params.map (· ++ ": f32")

/-- The types of the results: none, one, or a tuple. -/
def renderResultType (results : List Operand) : String :=
  match results with
  | [] => ""
  | [_] => " -> f32"
  | rs => " -> " ++ parenthesised (rs.map fun _ => "f32")

/-- The line of the results at a depth. -/
def renderResults (depth : Nat) (results : List Operand) : String :=
  match results with
  | [] => ""
  | [r] => indented depth r.render
  | rs => indented depth (parenthesised (rs.map (·.render)))

def renderHead (depth : Nat) (name : String) (params : List String) (results : String) : String :=
  indented depth ("pub fn " ++ name ++ parenthesised params ++ results ++ " \x7b")

/-- The lines of the statements, one level in. -/
def renderBody (p : Program) : String :=
  String.join (p.body.map fun s => indented 1 (renderStatement p.imports s))

def renderFunction (p : Program) : String :=
  let name := Identifier.ofText (Text.snakeCase p.name) "process"
  renderHead 0 name (renderParams p.params) (renderResultType p.results) ++
    p.renderBody ++ renderResults 1 p.results ++ "\x7d\n"

/-- A program as a type with methods. -/
def renderStruct (p : Program) : String :=
  let name := Identifier.ofTypeText p.name "Graph"
  let field (f : Field) : String :=
    indented 1 (f.name ++ ": " ++ moduleOf p.imports f.origin.pkg ++ "::" ++ f.origin.name ++ ",")
  let config := "config: &" ++ moduleOf p.imports standardPackage ++ "::" ++ configType
  "#[derive(Debug, Default)]\n" ++
    "pub struct " ++ name ++ " \x7b\n" ++ String.join (p.fields.values.map field) ++ "\x7d\n\n" ++
    "impl " ++ name ++ " \x7b\n" ++
    renderHead 1 "init" ["&mut self", config] "" ++
    String.join (p.fields.values.map fun f => indented 2 ("self." ++ f.name ++ ".init(config);")) ++
    indented 1 "\x7d" ++ "\n" ++
    renderHead 1 "process" ("&mut self" :: renderParams p.params) (renderResultType p.results) ++
    String.join ((Text.lines p.renderBody).map (indented 1)) ++
    renderResults 2 p.results ++
    indented 1 "\x7d" ++ "\x7d\n"

def render (p : Program) : String :=
  generatedHeader ++ "\n\n" ++ renderImports p.imports ++
    (if p.fields.isEmpty then p.renderFunction else p.renderStruct)

end Program

/-- The source of a graph, in the order of an arrangement. -/
def Arrangement.source (a : Arrangement) (g : Graph) : Except GenerateError String :=
  (g.program a).map Program.render

/-- The source of a graph, arranged by some settings. -/
def Graph.source (g : Graph) (config : ArrangeConfig) : Except GenerateError String :=
  (g.arrange config).source g

end SignalGraph
