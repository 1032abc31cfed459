import ChainLint.Ty.Rule
import ChainLint.Text.Numeral

namespace ChainLint

open ChainLint.Tree (Expr Stmt Block Pat Param Function Module NodeId)

/-- The types found so far. `longField` records that a tuple was indexed by a number too long to
be read. -/
structure Typing where
  exprs : List (NodeId × Ty) := []
  bindings : List (NodeId × Ty) := []
  functions : List (String × Ty) := []
  longField : Bool := false

namespace Typing

def exprType? (t : Typing) (id : NodeId) : Option Ty := t.exprs.lookup id

def bindingType? (t : Typing) (id : NodeId) : Option Ty := t.bindings.lookup id

def functionType? (t : Typing) (name : String) : Option Ty := t.functions.lookup name

def setExpr (t : Typing) (id : NodeId) (ty : Ty) : Typing := { t with exprs := (id, ty) :: t.exprs }

def setBinding (t : Typing) (id : NodeId) (ty : Ty) : Typing :=
  { t with bindings := (id, ty) :: t.bindings }

def setFunction (t : Typing) (name : String) (ty : Ty) : Typing :=
  { t with functions := (name, ty) :: t.functions.filter fun f => f.1 ≠ name }

end Typing

abbrev Infer := StateM Typing

namespace Infer

def partTypes (ty : Ty) (n : Nat) : List Ty :=
  match ty with
  | .tuple ts => if ts.length = n then ts else List.replicate n .unknown
  | _ => List.replicate n .unknown

mutual

def bind : Pat → Ty → Infer Unit
  | .binding i _ _, ty => modify (·.setBinding i.id ty)
  | .wild _, _ => pure ()
  | .tuple _ elems, ty => bindAll elems (partTypes ty elems.length)

def bindAll : List Pat → List Ty → Infer Unit
  | [], _ => pure ()
  | _ :: _, [] => pure ()
  | p :: ps, ty :: tys => do
      bind p ty
      bindAll ps tys

end

def closureParams : List Param → List Ty → Infer (List Ty)
  | [], _ => return []
  | p :: ps, hints => do
      let ty := match p.declared with
        | some t => Ty.ofExpr t
        | none => hints.headD .unknown
      bind p.pattern ty
      let tys ← closureParams ps hints.tail
      return ty :: tys

def intType (suffix : Option String) (expected : Expected) : Ty :=
  match suffix.bind Scalar.ofName? with
  | some s => .scalar s
  | none =>
      match expected.type? with
      | some t => if isIntegerName t.name then t else .scalar .i32
      | none => .scalar .i32

def floatType (suffix : Option String) : Ty :=
  match suffix.bind Scalar.ofName? with
  | some s => .scalar s
  | none => .scalar .f64

def varType (t : Typing) (name : String) (binding : Option NodeId) (expected : Expected) : Ty :=
  match binding with
  | some b => (t.bindingType? b).getD .unknown
  | none =>
      if name = "None" then
        match expected.type? with
        | some (.option inner) => .option inner
        | _ => .option .unknown
      else (t.functionType? name).getD .unknown

def fieldIndex? (name : String) : Option Nat :=
  let digits := name.toList
  if !digits.isEmpty && digits.all Char.isDigit then some (Numeral.value digits) else none

def fieldType (subject : Ty) (name : String) : Ty :=
  match subject with
  | .tuple ts =>
      match fieldIndex? name with
      | some i => ts[i]?.getD .unknown
      | none => .unknown
  | _ => .unknown

def isLongField (subject : Ty) (name : String) : Bool :=
  match subject with
  | .tuple _ => (fieldIndex? name).isSome && Numeral.maxDigits < name.length
  | _ => false

def indexType (subject position : Ty) : Ty :=
  match subject.elem? with
  | none => .unknown
  | some t => if position.isRange then .slice t else t

def unaryType : UnaryOp → Ty → Ty
  | .ref, t => .ref false t
  | .refMut, t => .ref true t
  | .deref, .ref _ t => t
  | .deref, _ => .unknown
  | .neg, t | .not, t => t

def iteratedType : Ty → Ty
  | .range t | .vec t | .array t => t
  | .ref _ t =>
      match t.peel.elem? with
      | some u => .ref false u
      | none => .unknown
  | _ => .unknown

def elemHints (expected : Expected) (n : Nat) : List (Option Expected) :=
  match expected.type? with
  | some (.tuple ts) => if ts.length = n then ts.map fun t => some (.type t) else []
  | _ => []

def pathRule? (callee : Expr) (arity : Nat) (expected : Expected) : Option CallRule :=
  match callee with
  | .var _ name none => CallRule.ofPath? name arity expected
  | _ => none

def record (e : Expr) (ty : Ty) : Infer Ty := do
  modify (·.setExpr e.info.id ty)
  return ty

mutual

def expr (e : Expr) (expected : Expected) : Infer Ty :=
  match e with
  | .int _ _ suffix => record e (intType suffix expected)
  | .float _ _ suffix => record e (floatType suffix)
  | .string .. => record e (.ref false .str)
  | .bool .. => record e (.scalar .bool)
  | .var _ name binding => do record e (varType (← get) name binding expected)
  | .call _ callee args => do
      match pathRule? callee args.length expected with
      | some rule =>
          let tys ← exprs args rule.first rule.others
          record e (rule.result tys)
      | none =>
          let rule := CallRule.ofCallee (← expr callee .nothing)
          let tys ← exprs args rule.first rule.others
          record e (rule.result tys)
  | .methodCall _ receiver name _ args => do
      let base := (← expr receiver .nothing).peel
      let rule := CallRule.ofMethod base name args.length
      let tys ← exprs args rule.first rule.others
      record e (rule.result tys)
  | .field _ subject name => do
      let base := (← expr subject .nothing).peel
      modify fun t => { t with longField := t.longField || isLongField base name }
      record e (fieldType base name)
  | .index _ subject position => do
      let base := (← expr subject .nothing).peel
      let place ← expr position .nothing
      record e (indexType base place)
  | .unary _ op operand => do record e (unaryType op (← expr operand .nothing))
  | .binary _ op left right => do
      let ty ← expr left .nothing
      let _ ← expr right (.type ty)
      record e (if op.isLogical then .scalar .bool else ty)
  | .range _ lower upper => do
      let a ← optional lower
      let b ← optional upper
      record e (.range ((a <|> b).getD .unknown))
  | .array _ elems => do
      let tys ← exprs elems [] (some .nothing)
      record e (.array (tys.headD .unknown))
  | .tuple _ elems => do
      let tys ← exprs elems (elemHints expected elems.length) (some .nothing)
      record e (.ofElems tys)
  | .closure _ ps body _ => do
      let tys ← closureParams ps expected.params
      let result ← expr body .nothing
      record e (.closure tys result)
  | .macroCall _ name args => do
      let tys ← exprs args [] (some .nothing)
      record e (CallRule.macroResult name tys)
  | .block _ body => do record e (← block body expected.forValue)
  | .cond _ test yes no => do
      let _ ← expr test .nothing
      let ty ← block yes expected.forValue
      record e (← otherwise no ty)
  | .whileLoop _ test body => do
      let _ ← expr test .nothing
      let _ ← block body .nothing
      record e .unit
  | .loop _ body => do
      let _ ← block body .nothing
      record e .unknown
  | .forLoop _ p iterable body => do
      let ty ← expr iterable .nothing
      bind p (iteratedType ty)
      let _ ← block body .nothing
      record e .unit
  | .ret _ value => do
      let _ ← optional value
      record e .unknown
  | .brk _ | .cont _ => record e .unknown

def exprs : List Expr → List (Option Expected) → Option Expected → Infer (List Ty)
  | [], _, _ => return []
  | e :: es, first, others => do
      let ty ← match first.headD others with
        | some expected => expr e expected
        | none => pure .unknown
      let tys ← exprs es first.tail others
      return ty :: tys

def optional : Option Expr → Infer (Option Ty)
  | none => return none
  | some e => do return some (← expr e .nothing)

def otherwise : Option Expr → Ty → Infer Ty
  | none, _ => return .unit
  | some e, ty => do
      let _ ← expr e (.type ty)
      return ty

def initializer : Option Expr → Option Ty → Infer Ty
  | none, declared => return declared.getD .unknown
  | some e, declared => do
      let ty ← expr e (match declared with
        | some t => .type t
        | none => .nothing)
      return declared.getD ty

def stmts : List Stmt → Infer Unit
  | [] => return ()
  | .expr _ value :: ss => do
      let _ ← expr value .nothing
      stmts ss
  | .letIn _ p declared value :: ss => do
      let ty ← initializer value (declared.map Ty.ofExpr)
      bind p ty
      stmts ss

def block : Block → Expected → Infer Ty
  | .mk _ ss none, _ => do
      stmts ss
      return .unit
  | .mk _ ss (some tail), expected => do
      stmts ss
      expr tail expected

end

def params : List Param → Infer Unit
  | [] => return ()
  | p :: ps => do
      bind p.pattern (Ty.declared p.declared)
      params ps

def functions : List Function → Infer Unit
  | [] => return ()
  | f :: fs => do
      params f.params
      let _ ← block f.body .nothing
      functions fs

end Infer

def Tree.Function.type (f : Function) : Ty :=
  .function (f.params.map fun p => Ty.declared p.declared) ((f.result.map Ty.ofExpr).getD .unit)

def Typing.ofModule (m : Module) : Typing :=
  let declared := m.functions.foldl (fun t f => t.setFunction f.name f.type) ({} : Typing)
  ((Infer.functions m.functions).run declared).2

end ChainLint
