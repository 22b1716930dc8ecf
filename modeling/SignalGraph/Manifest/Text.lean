import SignalGraph.Manifest
import SignalGraph.ObjectText.Decode

/-!
# Manifest files

A manifest file lists origins with their capabilities as object text. Names of parameters and results may be
left out, and so may empty lists.
-/

namespace SignalGraph

open ObjectText

/-- The kind of values that a value stands for. -/
def ValueKind.ofValue? : Decoder ValueKind := fun s v =>
  match v with
  | .ident "F32" => some .f32
  | .ident "F64" => some .f64
  | .ident "I32" => some .i32
  | .ident "Bool" => some .bool
  | .ident "Config" => some .config
  | v => (v.asNewtype "Other" Value.asString s).map .other

/-- The parameter or result that a value stands for. -/
def Param.ofValue? : Decoder Param := fun s v => do
  let fs ← v.asStruct "Param" ["name", "kind"] s
  let name ← fs.withDefault "name" "" Value.asString
  let kind ← fs.required "kind" ValueKind.ofValue?
  pure { name, kind }

def Signature.fieldNames : List String := ["params", "results"]

def Signature.ofFields? (fs : Fields) : Option Signature := do
  let params ← fs.withDefault "params" [] (Value.asList Param.ofValue?)
  let results ← fs.withDefault "results" [] (Value.asList Param.ofValue?)
  pure { params, results }

/-- The signature that a value stands for. -/
def Signature.ofValue? : Decoder Signature := fun s v =>
  (v.asStruct "Signature" fieldNames s).bind ofFields?

def Capability.functionOfValue? : Decoder Capability := fun s v =>
  ((v.asNewtypeStruct "Function" "Signature" Signature.fieldNames s).bind Signature.ofFields?).map .function

/-- The two routines of a stateful kind. -/
def Capability.statefulOfValue? : Decoder Capability := fun s v => do
  let fs ← v.asVariant "Stateful" ["init", "process"] s
  let init ← fs.required "init" Signature.ofValue?
  let process ← fs.required "process" Signature.ofValue?
  pure (.stateful init process)

/-- The capability that a value stands for. -/
def Capability.ofValue? : Decoder Capability := fun s v => functionOfValue? s v <|> statefulOfValue? s v

/-- The origin that a value stands for. -/
def Origin.ofValue? : Decoder Origin := fun s v => do
  let fs ← v.asStruct "Origin" ["pkg", "name"] s
  let pkg ← fs.required "pkg" Value.asString
  let name ← fs.required "name" Value.asString
  pure { pkg, name }

/-- The entry that a value stands for. -/
def Manifest.entryOfValue? : Decoder (Origin × Capability) := fun s v => do
  let fs ← v.asStruct "ManifestEntry" ["origin", "capability"] s
  let origin ← fs.required "origin" Origin.ofValue?
  let capability ← fs.required "capability" Capability.ofValue?
  pure (origin, capability)

/-- The manifest that a value stands for. -/
def Manifest.ofValue? : Decoder Manifest := fun s v =>
  (Value.asList entryOfValue? s v).map ofEntries

def Manifest.parse? (s : String) : Option Manifest := ObjectText.decode? Manifest.ofValue? s

end SignalGraph
