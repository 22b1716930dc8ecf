import SignalGraph.ObjectText.Value

/-!
# Taking values apart

What a value is for decides which forms of it are accepted. Fields may come in any order, unknown ones are
passed over, and a known one may come once only.

It decides as well how deep a value may nest, since a choice counts more than its parentheses show: once for
itself, and once more where it holds one value. A text that nests too deep for any use is refused when it is
read, so that only the unknown fields have to be measured here.
-/

namespace SignalGraph.ObjectText

/-- What holds for a value that is taken apart. -/
structure Scope where
  /-- The liberties that the text takes. -/
  extensions : Extensions
  /-- How deep the value may nest. -/
  room : Nat

/-- What holds for the values inside of one, when they count some levels more. -/
def Scope.inside (s : Scope) (levels : Nat) : Scope := { s with room := s.room - levels }

/-- A way to take values of one use apart. -/
abbrev Decoder (α : Type) := Scope → Value → Option α

/-- What a text stands for under a decoder. -/
def decode? {α : Type} (decode : Decoder α) (text : String) : Option α := do
  let (extensions, v) ← parse? text
  decode { extensions, room := nestingLimit } v

/-! ## Fields -/

/-- The fields of a structure. -/
structure Fields where
  /-- What holds for their values. -/
  scope : Scope
  /-- The fields as they are written. -/
  entries : List (String × Value)

namespace Fields

/-- The value of a field, if it is given. -/
def get? (fs : Fields) (name : String) : Option Value := fs.entries.lookup name

/-- Whether no known field is given twice, and no unknown one nests too deep. -/
def areValid (fs : Fields) (known : List String) : Bool :=
  (known.all fun k => (fs.entries.filter (·.1 == k)).length ≤ 1) &&
    fs.entries.all fun (k, v) => known.contains k || v.nesting ≤ fs.scope.room

/-- The fields of a structure of which some are known. -/
def ofEntries? (s : Scope) (known : List String) (entries : List (String × Value)) : Option Fields :=
  let fields : Fields := ⟨s.inside 2, entries⟩
  if fields.areValid known then some fields else none

/-- A field that must be given. -/
def required {α : Type} (fs : Fields) (name : String) (decode : Decoder α) : Option α :=
  (fs.get? name).bind (decode fs.scope)

/-- A field that has a value when it is not given. -/
def withDefault {α : Type} (fs : Fields) (name : String) (missing : α) (decode : Decoder α) : Option α :=
  match fs.get? name with
  | some v => decode fs.scope v
  | none => some missing

end Fields

namespace Value

/-- The name and the named fields of a value; a structure without fields is written like an empty tuple. -/
def entries? : Value → Option (Option String × List (String × Value))
  | struct name fs => some (name, fs)
  | tuple name [] => some (name, [])
  | unit => some (none, [])
  | _ => none

/-- The known fields of a structure. Its name may be missing unless the text promises all names. -/
def asStruct (name : String) (known : List String) : Decoder Fields := fun s v => do
  let (given, entries) ← v.entries?
  let named := match given with
    | some n => n == name
    | none => !s.extensions.explicitNames
  if named then Fields.ofEntries? s known entries else none

/-! ## Choices -/

/-- The known fields behind the name of a choice that has them itself. -/
def asVariant (name : String) (known : List String) : Decoder Fields := fun s v => do
  let (given, entries) ← v.entries?
  if given == some name then Fields.ofEntries? (s.inside 1) known entries else none

/-- The value between the parentheses of a choice that holds one. -/
def asNewtype {α : Type} (name : String) (decode : Decoder α) : Decoder α := fun s v =>
  match v with
  | tuple (some given) [v] => if given == name then decode (s.inside 2) v else none
  | _ => none

/-- The known fields of the structure in a choice that holds one, or of the choice in its place. -/
def asNewtypeStruct (name inner : String) (known : List String) : Decoder Fields := fun s v =>
  if s.extensions.unwrapVariants then asVariant name known (s.inside 1) v
  else asNewtype name (asStruct inner known) s v

/-! ## Plain values -/

def asString : Decoder String := fun _ v =>
  match v with
  | string s => some s
  | _ => none

/-- A whole number of a kind without sign, with that suffix or none. -/
def asUnsigned (bits : Nat) : Decoder Nat := fun _ v =>
  match v with
  | int negative magnitude kind =>
    if kind.all (· == ⟨false, bits⟩) && IntKind.holds ⟨false, bits⟩ negative magnitude then
      some magnitude
    else none
  | _ => none

def asWord : Decoder UInt32 := fun s v => (asUnsigned 32 s v).map UInt32.ofNat

def asList {α : Type} (decode : Decoder α) : Decoder (List α) := fun s v =>
  match v with
  | list vs => vs.mapM (decode (s.inside 2))
  | _ => none

def asOption {α : Type} (decode : Decoder α) : Decoder (Option α) := fun s v =>
  match v with
  | absent => some none
  | present v => (decode (s.inside 1) v).map some
  | v => if s.extensions.implicitSome then (decode (s.inside 1) v).map some else none

end Value

end SignalGraph.ObjectText
