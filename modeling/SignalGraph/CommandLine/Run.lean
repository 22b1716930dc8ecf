import SignalGraph.CommandLine.Arguments
import SignalGraph.Program.Printer
import SignalGraph.Record.Text

/-!
# Running commands

A command reads the settings, does its work on files, and answers with the text that it prints. A command that
fails prints nothing.
-/

namespace SignalGraph.CommandLine

/-- Why a command fails. -/
inductive CommandError where
  /-- The settings cannot be used. -/
  | settings (cause : SettingsError)
  /-- A graph cannot be loaded or saved. -/
  | store (cause : StoreError)
  /-- A file or a directory cannot be used. -/
  | file (cause : FileError)
  /-- A graph has no program. -/
  | generate (cause : GenerateError)
  /-- The settings would be overwritten. -/
  | settingsExist (path : String)
deriving DecidableEq

def CommandError.message : CommandError → String
  | settings e => e.message
  | store e => e.message
  | file e => e.message
  | generate e => e.message
  | settingsExist path => path ++ " already exists, pass --force to overwrite"

variable {m : Type → Type} [Monad m] [Files m]

/-- Load the graph of a target. -/
def Target.load (t : Target) (s : GraphStore) : ExceptT CommandError m Graph :=
  ExceptT.adapt .store <| match t with
    | .name text => (s.load text : ExceptT StoreError m Graph)
    | .path text => s.loadPath text

/-- The settings of an arrangement with what a command line changes in them. -/
def overrideArrange (c : ArrangeConfig) (exhaustive : Bool) (seed : Option UInt64) : ArrangeConfig :=
  { c with
    strategy := if exhaustive then .exhaustive else c.strategy
    seed := seed.getD c.seed }

/-- The text of the layers of a graph. -/
def runLayers (settings : Settings) (s : GraphStore) (t : Target) (exhaustive : Bool)
    (seed : Option UInt64) : ExceptT CommandError m String := do
  let g ← t.load s
  pure ((g.arrange (overrideArrange settings.arrange exhaustive seed)).render g)

/-- Generate the source of a graph. -/
def runGenerate (settings : Settings) (s : GraphStore) (t : Target) (toOutput : Bool) :
    ExceptT CommandError m String := do
  let g ← t.load s
  match g.source settings.arrange with
  | .error e => throw (.generate e)
  | .ok source =>
    if toOutput then pure source
    else
      let path ← (s.saveSource g source : ExceptT StoreError m String).adapt .store
      pure ("Generated " ++ path ++ "\n")

/-- The text of the record of a graph. -/
def runDump (s : GraphStore) (t : Target) : ExceptT CommandError m String := do
  let g ← t.load s
  pure (g.renderRecord ++ "\n")

/-- Save the graph of the text of a record. -/
def runLoad (s : GraphStore) (file : String) : ExceptT CommandError m String := do
  match ← (Files.readText file : m _) with
  | .error e => throw (.file e)
  | .ok text => match Graph.parseRecord text s.manifest.resolve with
    | .error e => throw (.store (.read e))
    | .ok g =>
      let path ← (s.save g : ExceptT StoreError m String).adapt .store
      pure ("Imported " ++ g.name ++ " (" ++ toString g.arena.size ++ " nodes, " ++
        toString g.connections.size ++ " connections) to " ++ path ++ "\n")

/-- The lines of the kinds of nodes. -/
def runNodes (settings : Settings) (pkg : Option String) : ExceptT CommandError m String := do
  let manifest ← (settings.loadManifest : ExceptT SettingsError m Manifest).adapt .settings
  pure (String.join ((manifest.listing pkg).map (· ++ "\n")))

/-- Write standard settings, and make the directory of the graphs. -/
def runSetUp (path : String) (force : Bool) : ExceptT CommandError m String := do
  let present ← (Files.isPresent path : m Bool)
  if present && !force then throw (.settingsExist path)
  else
    let standard : Settings := {}
    (standard.save path : ExceptT SettingsError m Unit).adapt .settings
    match ← (Files.makeDirectories standard.graphDir : m _) with
    | .error e => throw (.file e)
    | .ok () => pure ("Wrote " ++ path ++ "\n")

/-- Run a command and answer with the text that it prints. -/
def Invocation.run (i : Invocation) : ExceptT CommandError m String := do
  match i.command with
  | .setUp force => runSetUp i.settings force
  | command =>
    let settings ← (Settings.load i.settings : ExceptT SettingsError m Settings).adapt .settings
    let store : ExceptT CommandError m GraphStore := settings.store.adapt .settings
    match command with
    | .layers t exhaustive seed => runLayers settings (← store) t exhaustive seed
    | .generate t toOutput => runGenerate settings (← store) t toOutput
    | .dump t => runDump (← store) t
    | .load file => runLoad (← store) file
    | .nodes pkg => runNodes settings pkg
    | .setUp force => runSetUp i.settings force

/-- What a run of the tool leaves to see. -/
inductive Outcome where
  | misused
  | failed (cause : CommandError)
  | printed (text : String)
deriving DecidableEq

/-- The exit code of an outcome. -/
def Outcome.code : Outcome → UInt8
  | printed _ => 0
  | failed _ => 1
  | misused => 2

/-- Run the tool with some arguments. -/
def run (args : List String) : m Outcome :=
  match parse? args with
  | none => pure .misused
  | some i => do
    match ← (i.run : ExceptT CommandError m String).run with
    | .ok text => pure (.printed text)
    | .error e => pure (.failed e)

end SignalGraph.CommandLine
