import SignalGraph.ObjectText.Token

/-!
# Values of object text

The value that a text denotes, before it is known what the value is for. A structure has named fields, a
tuple has unnamed ones, and either may carry a name; a name alone is a choice without fields. How deep values
nest is limited, which also bounds how deep reading descends.
-/

namespace SignalGraph.ObjectText

/-- A value. -/
inductive Value where
  /-- A name alone. -/
  | ident (name : String)
  /-- A whole number with an optional suffix. -/
  | int (negative : Bool) (magnitude : Nat) (kind : Option IntKind)
  /-- A number that is not written as a whole one. -/
  | real (text : String)
  /-- A text. -/
  | string (s : String)
  /-- A row of bytes. -/
  | bytes (bs : List UInt8)
  /-- A single character. -/
  | char (c : Char)
  /-- Nothing, written as two parentheses. -/
  | unit
  /-- No value where one is optional. -/
  | absent
  /-- A value where one is optional. -/
  | present (v : Value)
  /-- A sequence. -/
  | list (items : List Value)
  /-- Keys with values. -/
  | map (entries : List (Value × Value))
  /-- Unnamed fields. -/
  | tuple (name : Option String) (items : List Value)
  /-- Named fields. -/
  | struct (name : Option String) (fields : List (String × Value))

/-- The liberties that a text may take when it says so at its start. -/
structure Extensions where
  /-- An optional value may stand without `Some`. -/
  implicitSome : Bool := false
  /-- The fields of a structure in a choice stand directly behind the name of the choice. -/
  unwrapVariants : Bool := false
  /-- Every structure must be named. -/
  explicitNames : Bool := false
deriving DecidableEq

/-- The extension of a name, added to others. -/
def Extensions.enable? (x : Extensions) (name : String) : Option Extensions :=
  if name == "unwrap_newtypes" then some x
  else if name == "implicit_some" then some { x with implicitSome := true }
  else if name == "unwrap_variant_newtypes" then some { x with unwrapVariants := true }
  else if name == "explicit_struct_names" then some { x with explicitNames := true }
  else none

/-! ## Nesting -/

mutual

/--
How deep a value nests. What holds others counts once for itself and once for the items in it, and an
optional value counts once.
-/
def Value.nesting : Value → Nat
  | .present v => v.nesting + 1
  | .list vs => nestingOfItems vs + 1
  | .map es => nestingOfEntries es + 1
  | .tuple _ vs => nestingOfItems vs + 1
  | .struct _ fs => nestingOfFields fs + 1
  | _ => 0

/-- How deep the items of a sequence nest. -/
def nestingOfItems : List Value → Nat
  | [] => 0
  | v :: vs => max (v.nesting + 1) (nestingOfItems vs)

/-- How deep the keys and values of a map nest. -/
def nestingOfEntries : List (Value × Value) → Nat
  | [] => 0
  | (k, v) :: es => max (max k.nesting v.nesting + 1) (nestingOfEntries es)

/-- How deep the values of named fields nest. -/
def nestingOfFields : List (String × Value) → Nat
  | [] => 0
  | (_, v) :: fs => max (v.nesting + 1) (nestingOfFields fs)

end

/-- Values nest no deeper than this. -/
def nestingLimit : Nat := 128

/-! ## Reading values -/

/-- The names that are complete values. -/
def atoms : List String := ["true", "false", "inf", "inff32", "inff64", "NaN", "NaNf32", "NaNf64"]

/-- The tokens without a comma in front. -/
def skipComma : List Token → List Token
  | .mark ',' :: ts => ts
  | ts => ts

/-- Whether a comma between two items comes before the mark that closes the outermost of `level` brackets. -/
def hasSecondItem : (level : Nat) → List Token → Bool
  | _, [] => false
  | level, .mark c :: ts =>
    if c == '(' || c == '[' || c == '\x7b' then hasSecondItem (level + 1) ts
    else if c == ')' || c == ']' || c == '\x7d' then if level ≤ 1 then false else hasSecondItem (level - 1) ts
    else if c == ',' && level == 1 then ts.head? != some (.mark ')')
    else hasSecondItem level ts
  | level, _ :: ts => hasSecondItem level ts

/-- Whether the parentheses behind `Some` hold the fields of a structure or tuple without its own ones. -/
def holdsFields : List Token → Bool
  | .ident _ _ :: .mark ':' :: _ => true
  | ts => hasSecondItem 1 ts

mutual

/--
A value and the tokens behind it. `depth` is how deep values may still nest, and `fuel` bounds the steps.
-/
def readValue (x : Extensions) : (fuel depth : Nat) → List Token → Option (Value × List Token)
  | fuel + 1, depth, .ident raw name :: ts =>
    if !raw && name == "None" then some (.absent, ts)
    else if !raw && name == "Some" then match depth with
      | depth + 1 => (readPresent x fuel depth ts).map fun (v, ts) => (.present v, ts)
      | 0 => none
    else if !raw && atoms.contains name then some (.ident name, ts)
    else match ts with
      | .unit :: ts => if depth == 0 then none else some (.tuple (some name) [], ts)
      | .mark '(' :: ts => readParens x fuel depth (some name) ts
      | _ => some (.ident name, ts)
  | _, _, .int negative magnitude kind :: ts => some (.int negative magnitude kind, ts)
  | _, _, .real text :: ts => some (.real text, ts)
  | _, _, .string s :: ts => some (.string s, ts)
  | _, _, .bytes bs :: ts => some (.bytes bs, ts)
  | _, _, .char c :: ts => some (.char c, ts)
  | _, _, .unit :: ts => some (.unit, ts)
  | fuel + 1, depth, .mark '(' :: ts => readParens x fuel depth none ts
  | fuel + 1, depth + 1, .mark '[' :: ts =>
    (readItems x fuel depth ']' ts).map fun (vs, ts) => (.list vs, ts)
  | fuel + 1, depth + 1, .mark '\x7b' :: ts =>
    (readEntries x fuel depth ts).map fun (es, ts) => (.map es, ts)
  | _, _, _ => none

/-- The value behind `Some`. -/
def readPresent (x : Extensions) : (fuel depth : Nat) → List Token → Option (Value × List Token)
  | _, _, .unit :: ts => if x.unwrapVariants then some (.unit, ts) else none
  | fuel + 1, depth, .mark '(' :: ts =>
    if x.unwrapVariants && ts.head? == some (.mark ')') then some (.unit, ts.drop 1)
    else if x.unwrapVariants && holdsFields ts then readParens x fuel depth none ts
    else do
      let (v, ts) ← readValue x fuel depth ts
      match skipComma ts with
      | .mark ')' :: ts => some (v, ts)
      | _ => none
  | fuel + 1, depth, ts => if x.implicitSome then readValue x fuel depth ts else none
  | 0, _, _ => none

/-- The fields behind an opening parenthesis. They are named if a colon follows the first name. -/
def readParens (x : Extensions) : (fuel depth : Nat) → Option String → List Token →
    Option (Value × List Token)
  | _, _ + 1, name, .mark ')' :: ts => some (.tuple name [], ts)
  | fuel + 1, depth + 1, name, .ident raw field :: .mark ':' :: ts =>
    (readFields x fuel depth (.ident raw field :: .mark ':' :: ts)).map fun (fs, ts) =>
      (.struct name fs, ts)
  | fuel + 1, depth + 1, name, ts =>
    (readItems x fuel depth ')' ts).map fun (vs, ts) => (.tuple name vs, ts)
  | _, _, _, _ => none

/-- Values up to a closing mark, with commas between them and perhaps one at the end. -/
def readItems (x : Extensions) : (fuel depth : Nat) → (close : Char) → List Token →
    Option (List Value × List Token)
  | fuel + 1, depth, close, ts =>
    if ts.head? == some (.mark close) then some ([], ts.drop 1)
    else match depth with
      | 0 => none
      | depth + 1 => do
        let (v, ts) ← readValue x fuel depth ts
        match ts with
        | .mark ',' :: ts =>
          let (vs, ts) ← readItems x fuel (depth + 1) close ts
          some (v :: vs, ts)
        | t :: ts => if t == .mark close then some ([v], ts) else none
        | [] => none
  | 0, _, _, _ => none

/-- Named fields up to the closing parenthesis. -/
def readFields (x : Extensions) : (fuel depth : Nat) → List Token →
    Option (List (String × Value) × List Token)
  | fuel + 1, depth, ts => match ts, depth with
    | .mark ')' :: ts, _ => some ([], ts)
    | .ident _ name :: .mark ':' :: ts, depth + 1 => do
      let (v, ts) ← readValue x fuel depth ts
      match ts with
      | .mark ',' :: ts =>
        let (fs, ts) ← readFields x fuel (depth + 1) ts
        some ((name, v) :: fs, ts)
      | .mark ')' :: ts => some ([(name, v)], ts)
      | _ => none
    | _, _ => none
  | 0, _, _ => none

/-- Keys with values up to the closing brace. -/
def readEntries (x : Extensions) : (fuel depth : Nat) → List Token →
    Option (List (Value × Value) × List Token)
  | fuel + 1, depth, ts => match ts, depth with
    | .mark '\x7d' :: ts, _ => some ([], ts)
    | ts, depth + 1 => do
      let (k, ts) ← readValue x fuel depth ts
      match ts with
      | .mark ':' :: ts =>
        let (v, ts) ← readValue x fuel depth ts
        match ts with
        | .mark ',' :: ts =>
          let (es, ts) ← readEntries x fuel (depth + 1) ts
          some ((k, v) :: es, ts)
        | .mark '\x7d' :: ts => some ([(k, v)], ts)
        | _ => none
      | _ => none
    | _, 0 => none
  | 0, _, _ => none

end

/-! ## Reading a text -/

/-- The names of a list of extensions and the tokens behind the list. -/
def readNames (x : Extensions) : List Token → Option (Extensions × List Token)
  | .ident _ name :: .mark ',' :: .mark ')' :: ts => (x.enable? name).map (·, .mark ')' :: ts)
  | .ident _ name :: .mark ',' :: ts => (x.enable? name).bind (readNames · ts)
  | .ident _ name :: ts => (x.enable? name).map (·, ts)
  | _ => none

/-- The extensions that a text names at its start, in any number of lists, and the tokens behind them. -/
def readExtensions : (fuel : Nat) → Extensions → List Token → Option (Extensions × List Token)
  | fuel + 1, x, .mark '#' :: .mark '!' :: .mark '[' :: .ident false "enable" :: .mark '(' :: ts => do
    let (x, ts) ← readNames x ts
    match ts with
    | .mark ')' :: .mark ']' :: ts => readExtensions fuel x ts
    | _ => none
  | _, _, .mark '#' :: _ => none
  | _, x, ts => some (x, ts)

/-- The value of a text, and the liberties the text takes. Nothing but blanks and comments may follow. -/
def parse? (s : String) : Option (Extensions × Value) := do
  let ts ← scan? s
  let (x, ts) ← readExtensions ts.length {} ts
  match ← readValue x (3 * ts.length + 1) nestingLimit ts with
  | (v, []) => some (x, v)
  | _ => none

end SignalGraph.ObjectText
