import ChainLint.Tree.Basic

namespace ChainLint

inductive Scalar where
  | i8 | i16 | i32 | i64 | i128 | isize
  | u8 | u16 | u32 | u64 | u128 | usize
  | f32 | f64 | bool | char
  deriving DecidableEq, Repr

namespace Scalar

def all : List Scalar :=
  [.i8, .i16, .i32, .i64, .i128, .isize, .u8, .u16, .u32, .u64, .u128, .usize, .f32, .f64, .bool,
    .char]

def name : Scalar → String
  | .i8 => "i8" | .i16 => "i16" | .i32 => "i32" | .i64 => "i64" | .i128 => "i128"
  | .isize => "isize" | .u8 => "u8" | .u16 => "u16" | .u32 => "u32" | .u64 => "u64"
  | .u128 => "u128" | .usize => "usize" | .f32 => "f32" | .f64 => "f64" | .bool => "bool"
  | .char => "char"

def ofName? (name : String) : Option Scalar := all.find? fun s => s.name = name

@[simp] theorem ofName?_name (s : Scalar) : ofName? s.name = some s := by
  cases s <;> decide

def isInteger : Scalar → Bool
  | .f32 | .f64 | .bool | .char => false
  | _ => true

end Scalar

def isIntegerName (name : String) : Bool := (Scalar.ofName? name).any Scalar.isInteger

inductive Ty where
  | scalar (s : Scalar)
  | unit
  | str
  | string
  | ref (isMut : Bool) (target : Ty)
  | option (inner : Ty)
  | vec (elem : Ty)
  | slice (elem : Ty)
  | array (elem : Ty)
  | tuple (elems : List Ty)
  | range (bound : Ty)
  | function (params : List Ty) (result : Ty)
  | closure (params : List Ty) (result : Ty)
  | adt (name : String) (args : List Ty)
  | unknown
  deriving Repr

namespace Ty

def ofElems : List Ty → Ty
  | [] => .unit
  | t :: ts => .tuple (t :: ts)

def name : Ty → String
  | .scalar s => s.name
  | .unit => "()"
  | .str => "str"
  | .string => "String"
  | .ref isMut _ => if isMut then "&mut" else "&"
  | .option _ => "Option"
  | .vec _ => "Vec"
  | .slice _ => "[]"
  | .array _ => "[;]"
  | .tuple _ => "()"
  | .range _ => "Range"
  | .function _ _ => "fn"
  | .closure _ _ => "closure"
  | .adt name _ => name
  | .unknown => "Unknown"

def peel : Ty → Ty
  | .ref _ t => t.peel
  | t => t

def isOption : Ty → Bool
  | .option _ => true
  | _ => false

def optionArg? : Ty → Option Ty
  | .option t => some t
  | _ => none

def isRange : Ty → Bool
  | .range _ => true
  | _ => false

def elem? : Ty → Option Ty
  | .vec t | .slice t | .array t => some t
  | _ => none

def callResult : Ty → Ty
  | .function _ r | .closure _ r => r
  | _ => .unknown

mutual

def isCopy : Ty → Bool
  | .scalar _ | .unit | .function _ _ => true
  | .ref isMut _ => !isMut
  | .option t | .array t => t.isCopy
  | .tuple ts => allCopy ts
  | _ => false

def allCopy : List Ty → Bool
  | [] => true
  | t :: ts => t.isCopy && allCopy ts

end

def ofHead (name : String) (args : List Ty) : Ty :=
  match Scalar.ofName? name, args with
  | some s, [] => .scalar s
  | _, _ =>
      if name = "()" then ofElems args
      else if name = "str" then .str
      else if name = "String" then .string
      else
        match args with
        | [t] =>
            if name = "&" then .ref false t
            else if name = "&mut" then .ref true t
            else if name = "[]" then .slice t
            else if name = "Option" then .option t
            else if name = "Vec" then .vec t
            else .adt name args
        | _ => .adt name args

mutual

def ofExpr : Tree.TypeExpr → Ty
  | .mk name args _ => ofHead name (ofExprs args)

def ofExprs : List Tree.TypeExpr → List Ty
  | [] => []
  | t :: ts => ofExpr t :: ofExprs ts

end

def declared : Option Tree.TypeExpr → Ty
  | none => .unknown
  | some t => ofExpr t

end Ty

end ChainLint
