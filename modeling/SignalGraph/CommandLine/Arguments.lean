import SignalGraph.Settings
import SignalGraph.Text.Affix

/-!
# Command lines

A command line names a subcommand, with options before it that hold for all subcommands and options behind it
that belong to it. An option with a value is written `--name value` or `--name=value`; a value on its own may
not start with a dash. Behind a bare `--` everything is a plain argument. Nothing may be given twice.
-/

namespace SignalGraph.CommandLine

/-! ## Scanning -/

/-- Which options a subcommand knows. -/
structure Grammar where
  options : List String := []
  flags : List String := []

/-- Options and plain arguments, in the order in which they are given. -/
structure Scanned where
  options : List (String × String) := []
  flags : List String := []
  plain : List String := []

namespace Scanned

def option? (s : Scanned) (name : String) : Option String := s.options.lookup name

/-- Whether an option without a value is given. -/
def hasFlag (s : Scanned) (name : String) : Bool := s.flags.contains name

/-- Add an option with its value, unless it is there already. -/
def addOption (s : Scanned) (name value : String) : Option Scanned :=
  if (s.option? name).isSome then none else some { s with options := s.options ++ [(name, value)] }

/-- Add an option without a value, unless it is there already. -/
def addFlag (s : Scanned) (name : String) : Option Scanned :=
  if s.hasFlag name then none else some { s with flags := s.flags ++ [name] }

def addPlain (s : Scanned) (args : List String) : Scanned := { s with plain := s.plain ++ args }

end Scanned

/-- Whether an argument is an option; a single dash is none. -/
def isOption (arg : String) : Bool := arg.startsWith "-" && arg != "-"

/-- The name of a long option, and the value behind an equals sign if there is one. -/
def splitOption? (arg : String) : Option (String × Option String) :=
  (Text.stripPrefix? "--" arg).map fun body =>
    let name := body.toList.takeWhile (· != '=')
    let rest := body.toList.dropWhile (· != '=')
    (String.ofList name, if rest.isEmpty then none else some (String.ofList (rest.drop 1)))

/--
Scan arguments, where `awaiting` is an option that still needs its value. With `stop`, the first plain
argument ends the scan, and it is given back with all that follow; it cannot come behind a bare `--`.
-/
def scan (g : Grammar) (stop : Bool) (s : Scanned) (awaiting : Option String) :
    List String → Option (Scanned × List String)
  | [] => if awaiting.isSome then none else some (s, [])
  | arg :: rest =>
    match awaiting with
    | some name =>
      if isOption arg then none else (s.addOption name arg).bind fun s => scan g stop s none rest
    | none =>
      if arg = "--" then
        if stop then none else some (s.addPlain rest, [])
      else if !isOption arg then
        if stop then some (s, arg :: rest) else scan g stop (s.addPlain [arg]) none rest
      else match splitOption? arg with
        | none => none
        | some (name, value?) =>
          if g.flags.contains name then
            if value?.isSome then none else (s.addFlag name).bind fun s => scan g stop s none rest
          else if g.options.contains name then
            match value? with
            | some value => (s.addOption name value).bind fun s => scan g stop s none rest
            | none => scan g stop s (some name) rest
          else none

/-! ## Values -/

/-- A path, which cannot be empty. -/
def path? (text : String) : Option String := if text.isEmpty then none else some text

/-- A whole number of 64 bits, with a plus sign or without. -/
def word64? (text : String) : Option UInt64 :=
  let digits := (Text.stripPrefix? "+" text).getD text
  if digits.toList.all Char.isDigit then
    digits.toNat?.bind fun n => if n < UInt64.size then some (UInt64.ofNat n) else none
  else none

/-- An optional value that must be well formed if it is given. -/
def valid? {α : Type} (read : String → Option α) : Option String → Option (Option α)
  | none => some none
  | some text => (read text).map some

/-! ## Commands -/

/-- Which graph a command works on. -/
inductive Target where
  | name (name : String)
  | path (path : String)
deriving DecidableEq

/-- A subcommand with its arguments. -/
inductive Command where
  /-- Print the layers of a graph. -/
  | layers (target : Target) (exhaustive : Bool) (seed : Option UInt64)
  /-- Generate the source of a graph, to a file or to the output. -/
  | generate (target : Target) (toOutput : Bool)
  /-- Print the record of a graph. -/
  | dump (target : Target)
  /-- Save the graph of a record. -/
  | load (file : String)
  /-- List the kinds of nodes. -/
  | nodes (pkg : Option String)
  /-- Write standard settings. -/
  | setUp (force : Bool)
deriving DecidableEq

/-- A command with the path of the settings. -/
structure Invocation where
  settings : String
  command : Command
deriving DecidableEq

/-- The option that names the settings; it may stand before or behind the subcommand. -/
def settingsOption : String := "config"

def grammars : List (String × Grammar) := [
  ("layers", ⟨["path", "seed"], ["exhaustive"]⟩),
  ("generate", ⟨["path"], ["stdout"]⟩),
  ("dump", ⟨["path"], []⟩),
  ("import", {}),
  ("nodes", ⟨["pkg"], []⟩),
  ("init", ⟨[], ["force"]⟩)]

/-- The target of scanned arguments: either a name or a path. -/
def target? (s : Scanned) : Option Target :=
  match s.plain, s.option? "path" with
  | [name], none => some (.name name)
  | [], some path => (path? path).map .path
  | _, _ => none

/-- The command of a subcommand and its scanned arguments. -/
def command? (name : String) (s : Scanned) : Option Command :=
  match name, s.plain with
  | "layers", _ => do
    let target ← target? s
    let seed ← valid? word64? (s.option? "seed")
    pure (.layers target (s.hasFlag "exhaustive") seed)
  | "generate", _ => (target? s).map (.generate · (s.hasFlag "stdout"))
  | "dump", _ => (target? s).map .dump
  | "import", [file] => (path? file).map .load
  | "nodes", [] => some (.nodes (s.option? "pkg"))
  | "init", [] => some (.setUp (s.hasFlag "force"))
  | _, _ => none

/-- Read a command line. The settings named behind the subcommand win over those named before it. -/
def parse? (args : List String) : Option Invocation := do
  let (before, rest) ← scan { options := [settingsOption] } true {} none args
  match rest with
  | [] => none
  | name :: rest =>
    let g ← grammars.lookup name
    let (behind, _) ← scan { g with options := settingsOption :: g.options } false {} none rest
    let outer ← valid? path? (before.option? settingsOption)
    let inner ← valid? path? (behind.option? settingsOption)
    let command ← command? name behind
    pure { settings := (inner <|> outer).getD Settings.standardPath, command }

end SignalGraph.CommandLine
