import SignalGraph.Node
import SignalGraph.Text.CharClass

/-!
# Built-in nodes

Terminals, operators, numbers and delays need no package that provides them.
-/

namespace SignalGraph

/-- The package of the standard library. -/
def standardPackage : String := "dsp"

/-- The origin of both parts of a delay. -/
def delayOrigin : Origin := ⟨standardPackage, "Delay"⟩

namespace Node

/-- A terminal of a direction: one port, named like the terminal. -/
def terminal (d : Direction) (name : String) : Node :=
  match d with
  | .input => .ofNames ⟨"", terminalMark .input ++ name⟩ [] [name]
  | .output => .ofNames ⟨"", terminalMark .output ++ name⟩ [name] []

/-- A binary operator: two inputs and one output. -/
def operator? (op : String) : Option Node :=
  if operators.contains op then some (.ofNames ⟨"", op⟩ ["", ""] [""]) else none

/-- A number: one output. Blanks around the text do not count. -/
def constant? (text : String) : Option Node :=
  let text := Text.trim Text.isBlank text
  if (parseConstant? text).isSome then some (.ofNames ⟨"", text⟩ [] [""]) else none

/-- The owner of a delay line: it writes `value`, and its output reads at `time` what was written. -/
def delayWrite : Node :=
  { Node.ofNames delayOrigin ["time", "value"] [""] with stateful := true, delay := some .write }

/-- A node that reads the delay line of `writer` at `time`. -/
def delayRead (writer : NodeId) : Node :=
  { Node.ofNames delayOrigin ["time"] [""] with stateful := true, delay := some (.read writer) }

/-- The node that an origin names without any package. A delay is an owner of a new delay line. -/
def builtin? (origin : Origin) : Option Node :=
  if origin = delayOrigin then some delayWrite
  else if !origin.isBuiltin then none
  else match Text.stripPrefix? (terminalMark .input) origin.name with
    | some name => some (terminal .input name)
    | none => match Text.stripPrefix? (terminalMark .output) origin.name with
      | some name => some (terminal .output name)
      | none => operator? origin.name <|> constant? origin.name

end Node

end SignalGraph
