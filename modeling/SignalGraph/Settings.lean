import SignalGraph.Arrangement.Search
import SignalGraph.ObjectText.Printer
import SignalGraph.Store

/-!
# Settings

The settings of the tool are kept as object text in a file. Whatever is left out has a standard value, and so
has everything if there is no file.
-/

namespace SignalGraph

open ObjectText

/-- The settings of the tool. -/
structure Settings where
  /-- The directory of the graphs. -/
  graphDir : String := "graphs"
  /-- The directory of the generated sources. -/
  outputDir : String := "src/generated"
  /-- How graphs are arranged. -/
  arrange : ArrangeConfig := {}
  /-- The path of a manifest that is merged over the standard one. -/
  manifest : Option String := none
deriving DecidableEq, Inhabited

/-- Why settings cannot be used. -/
inductive SettingsError where
  /-- The file cannot be read or written. -/
  | file (cause : FileError)
  /-- The text of the file is no settings. -/
  | invalid
  /-- The manifest cannot be loaded. -/
  | manifest (cause : ManifestError)
deriving DecidableEq

def SettingsError.message : SettingsError → String
  | file e => "I/O error: " ++ e.message
  | invalid => "Invalid config"
  | manifest e => e.message

/-! ## Text -/

def Strategy.label : Strategy → String
  | localSearch => "LocalSearch"
  | exhaustive => "Exhaustive"

/-- The strategy that a value stands for. -/
def Strategy.ofValue? : Decoder Strategy := fun _ v =>
  match v with
  | .ident "LocalSearch" => some .localSearch
  | .ident "Exhaustive" => some .exhaustive
  | _ => none

/-- The settings of an arrangement as a value. -/
def ArrangeConfig.toValue (c : ArrangeConfig) : Value :=
  .ofFields "ArrangeConfig" [("strategy", .ident c.strategy.label), ("iterations", .ofNat c.iterations),
    ("seed", .ofNat c.seed.toNat)]

/-- The settings of an arrangement that a value stands for. -/
def ArrangeConfig.ofValue? : Decoder ArrangeConfig := fun s v => do
  let standard : ArrangeConfig := {}
  let fs ← v.asStruct "ArrangeConfig" ["strategy", "iterations", "seed"] s
  let strategy ← fs.withDefault "strategy" standard.strategy Strategy.ofValue?
  let iterations ← fs.withDefault "iterations" standard.iterations (Value.asUnsigned 64)
  let seed ← fs.withDefault "seed" standard.seed.toNat (Value.asUnsigned 64)
  pure { strategy, iterations, seed := UInt64.ofNat seed }

namespace Settings

def toValue (s : Settings) : Value :=
  .ofFields "ToolConfig" [("graph_dir", .string s.graphDir), ("output_dir", .string s.outputDir),
    ("arrange", s.arrange.toValue),
    ("manifest", match s.manifest with
      | none => .absent
      | some path => .present (.string path))]

/-- The settings that a value stands for. -/
def ofValue? : Decoder Settings := fun s v => do
  let standard : Settings := {}
  let fs ← v.asStruct "ToolConfig" ["graph_dir", "output_dir", "arrange", "manifest"] s
  let graphDir ← fs.withDefault "graph_dir" standard.graphDir Value.asString
  let outputDir ← fs.withDefault "output_dir" standard.outputDir Value.asString
  let arrange ← fs.withDefault "arrange" standard.arrange ArrangeConfig.ofValue?
  let manifest ← fs.withDefault "manifest" standard.manifest (Value.asOption Value.asString)
  pure { graphDir, outputDir, arrange, manifest }

/-- The items of a sequence in settings are not numbered. -/
def layout : Layout := ⟨false⟩

def render (s : Settings) : String := ObjectText.render layout s.toValue

def parse? (text : String) : Option Settings := ObjectText.decode? ofValue? text

/-! ## Files -/

/-- The file that is looked for unless another is named. -/
def standardPath : String := "dspflow.ron"

variable {m : Type → Type} [Monad m] [Files m]

/-- The settings of a file, or the standard ones if there is no file. -/
def load (path : String) : ExceptT SettingsError m Settings := do
  if ← (Files.isPresent path : m _) then
    match ← (Files.readText path : m _) with
    | .error e => throw (.file e)
    | .ok text => match parse? text with
      | none => throw .invalid
      | some s => pure s
  else pure {}

/-- Write the settings to a file. -/
def save (s : Settings) (path : String) : ExceptT SettingsError m Unit := do
  match ← (Files.write path (Bytes.ofText s.render) : m _) with
  | .error e => throw (.file e)
  | .ok () => pure ()

/-- The standard manifest with the one of the settings merged over it. -/
def loadManifest (s : Settings) : ExceptT SettingsError m Manifest :=
  match s.manifest with
  | none => pure .standard
  | some path => do
    let other ← (Manifest.load path : ExceptT ManifestError m Manifest).adapt .manifest
    pure (Manifest.standard.extend other)

def store (s : Settings) : ExceptT SettingsError m GraphStore := do
  let manifest ← s.loadManifest
  pure { graphDir := s.graphDir, sourceDir := s.outputDir, manifest }

end Settings

end SignalGraph
