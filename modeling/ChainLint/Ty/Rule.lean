import ChainLint.Ty.Basic

namespace ChainLint

inductive Expected where
  | nothing
  | type (t : Ty)
  | callable (params : List Ty)

namespace Expected

def type? : Expected → Option Ty
  | .type t => some t
  | _ => none

def params : Expected → List Ty
  | .callable ps => ps
  | _ => []

def forValue : Expected → Expected
  | .type t => .type t
  | _ => .nothing

end Expected

/-- How a call is typed. An argument whose expectation is `none` is left untyped. -/
structure CallRule where
  first : List (Option Expected)
  others : Option Expected
  result : List Ty → Ty

namespace CallRule

def free (result : Ty) : CallRule := ⟨[], some .nothing, fun _ => result⟩

def untyped (result : Ty) : CallRule := ⟨[], none, fun _ => result⟩

def hinted (hint result : Ty) : CallRule := ⟨[some (.type hint)], some .nothing, fun _ => result⟩

def calling (params : List Ty) (result : Ty → Ty) : CallRule :=
  ⟨[some (.callable params)], some .nothing, fun ts => result (ts.headD .unknown).callResult⟩

def valuelessMacros : List String :=
  ["println", "print", "eprintln", "eprint", "assert", "assert_eq", "assert_ne", "dbg"]

def macroResult (name : String) (args : List Ty) : Ty :=
  if name = "vec" then .vec (args.headD .unknown)
  else if name = "format" then .string
  else if valuelessMacros.contains name then .unit
  else .unknown

def ofCallee : Ty → CallRule
  | .function ps r | .closure ps r =>
      ⟨ps.map fun p => some (.type p), some .nothing, fun _ => r⟩
  | _ => free .unknown

def ofPath? (name : String) (arity : Nat) (expected : Expected) : Option CallRule :=
  if name = "Some" ∧ arity = 1 then
    let hint := match expected.type? with
      | some (.option t) => Expected.type t
      | _ => .nothing
    some ⟨[some hint], some .nothing, fun ts => .option (ts.headD .unknown)⟩
  else if name = "String::new" ∨ name = "String::from" then some (free .string)
  else if name = "Vec::new" then
    match expected.type? with
    | some (.vec t) => some (untyped (.vec t))
    | _ => some (untyped (.vec .unknown))
  else none

def ofOption (inner : Ty) (name : String) (arity : Nat) : Option CallRule :=
  if name = "map" ∧ arity = 1 then some (calling [inner] .option)
  else if name = "and_then" ∧ arity = 1 then some (calling [inner] id)
  else if name = "map_or" ∧ arity = 2 then
    some ⟨[some .nothing, some (.callable [inner])], some .nothing, fun ts => ts.headD .unknown⟩
  else if name = "filter" ∧ arity = 1 then
    some (calling [.ref false inner] fun _ => .option inner)
  else if name = "unwrap_or_else" ∧ arity = 1 then some (calling [] fun _ => inner)
  else if name = "unwrap_or" then some (hinted inner inner)
  else if ["unwrap", "expect", "unwrap_or_default"].contains name then some (free inner)
  else if ["is_some", "is_none"].contains name then some (untyped (.scalar .bool))
  else if ["cloned", "copied"].contains name then
    match inner with
    | .ref _ t => some (untyped (.option t))
    | _ => some (untyped (.option .unknown))
  else if name = "as_ref" then some (untyped (.option (.ref false inner)))
  else if ["or", "take", "xor"].contains name then some (hinted (.option inner) (.option inner))
  else none

def ofSequence (elem : Ty) (name : String) (arity : Nat) : Option CallRule :=
  if name = "len" then some (untyped (.scalar .usize))
  else if ["is_empty", "contains"].contains name then some (free (.scalar .bool))
  else if name = "get" ∧ arity = 1 then
    some ⟨[some .nothing], some .nothing, fun ts =>
      .option (.ref false (if (ts.headD .unknown).isRange then .slice elem else elem))⟩
  else if ["first", "last"].contains name then some (untyped (.option (.ref false elem)))
  else if name = "to_vec" then some (untyped (.vec elem))
  else if name = "pop" then some (untyped (.option elem))
  else if name = "push" then some (hinted elem .unit)
  else if name = "iter" then some (untyped (.adt "Iter" [.ref false elem]))
  else none

def ofText (name : String) : Option CallRule :=
  if name = "len" then some (untyped (.scalar .usize))
  else if name = "is_empty" then some (untyped (.scalar .bool))
  else if ["to_owned", "to_uppercase", "to_lowercase"].contains name then some (untyped .string)
  else if ["as_str", "trim"].contains name then some (untyped (.ref false .str))
  else none

def ofScalar (s : Scalar) (name : String) : Option CallRule :=
  if ["abs", "min", "max", "pow", "saturating_add", "saturating_sub", "wrapping_add"].contains
      name then
    some (hinted (.scalar s) (.scalar s))
  else if ["checked_add", "checked_sub", "checked_mul", "checked_div"].contains name then
    some (hinted (.scalar s) (.option (.scalar s)))
  else none

def ofMethod (base : Ty) (name : String) (arity : Nat) : CallRule :=
  if name = "clone" ∧ arity = 0 then free base
  else if name = "to_string" ∧ arity = 0 then free .string
  else
    (match base with
      | .option t => ofOption t name arity
      | .vec t | .slice t | .array t => ofSequence t name arity
      | .string | .str => ofText name
      | .scalar s => ofScalar s name
      | _ => none).getD (free .unknown)

end CallRule

end ChainLint
