import ChainLint.Proofs.Tree.Spine
import ChainLint.Proofs.Ty.Denoting
import ChainLint.Ty.Infer

namespace ChainLint

open Tree

inductive Fault where
  | pool (cause : TypePoolError)
  | outOfRange (place length : Nat)
  deriving DecidableEq, Repr

/-- The types found so far, by their numbers in a pool. That a tuple was indexed by a number too long to be
read is recorded, as in a typing, and inference goes on. -/
structure Table where
  pool : TypePool
  exprs : List (NodeId × TypeId) := []
  bindings : List (NodeId × TypeId) := []
  functions : List (String × TypeId) := []
  longField : Bool := false

namespace Table

def setExpr (t : Table) (id : NodeId) (ty : TypeId) : Table :=
  { t with exprs := (id, ty) :: t.exprs }

def setBinding (t : Table) (id : NodeId) (ty : TypeId) : Table :=
  { t with bindings := (id, ty) :: t.bindings }

def setFunction (t : Table) (name : String) (ty : TypeId) : Table :=
  { t with functions := (name, ty) :: t.functions.filter fun f => f.1 ≠ name }

end Table

structure Course where
  now : Table
  past : List Table := []

abbrev Pooled := StateT Course (Except Fault)

inductive Ask where
  | type (expected : Option TypeId)
  | result (params : List TypeId)
  | nothing

structure PooledRule where
  first : List (Option Ask)
  others : Option Ask
  result : List TypeId → Pooled TypeId

namespace Pooled

def change (f : Table → Table) : Pooled Unit := modify fun c => ⟨f c.now, c.now :: c.past⟩

def query {α : Type} (f : TypePool → Except TypePoolError α) : Pooled α := do
  match f (← get).now.pool with
  | .ok a => return a
  | .error cause => throw (.pool cause)

def look (id : TypeId) : Pooled Shape := query (·.get id)

def peel (id : TypeId) : Pooled TypeId := query (·.peel id)

def enter (s : Shape) : Pooled TypeId := do
  let entered := (← get).now.pool.intern s
  change fun t => { t with pool := entered.2 }
  return entered.1

def scalar (name : String) : Pooled TypeId := do
  let entered ← query (·.scalar name)
  change fun t => { t with pool := entered.2 }
  return entered.1

def item {α : Type} (xs : List α) (place : Nat) : Pooled α :=
  match xs[place]? with
  | some x => return x
  | none => throw (.outOfRange place xs.length)

def lastPart (s : Shape) : Pooled TypeId := item s.parts (s.parts.length - 1)

structure Basics where
  unknown : TypeId
  unit : TypeId
  bool : TypeId
  i32 : TypeId
  usize : TypeId
  f64 : TypeId
  string : TypeId
  strRef : TypeId

def basics : Pooled Basics := do
  let unknown ← enter .unknown
  let unit ← enter .unit
  let bool ← scalar "bool"
  let i32 ← scalar "i32"
  let usize ← scalar "usize"
  let f64 ← scalar "f64"
  let string ← enter .string
  let strRef ← enter (.ref false (← enter .str))
  return ⟨unknown, unit, bool, i32, usize, f64, string, strRef⟩

def elem? (id : TypeId) : Pooled (Option TypeId) := do
  let s ← look id
  if s.kind = .vec ∨ s.kind = .slice ∨ s.kind = .array then return some (← item s.parts 0)
  else return none

def callResult (unknown id : TypeId) : Pooled TypeId := do
  let s ← look id
  if s.kind = .function ∨ s.kind = .closure then lastPart s
  else return unknown

def isClosure : Expr → Bool
  | .closure .. => true
  | _ => false

section

variable (b : Basics)

def ofHead (name : String) (args : List TypeId) : Pooled TypeId := do
  if (Scalar.ofName? name).isSome ∧ args = [] then scalar name
  else if name = "()" then enter (.ofElems args)
  else if name = "str" then enter .str
  else if name = "String" then return b.string
  else if (name = "&" ∨ name = "&mut") ∧ args.length = 1 then
    enter (.ref (name = "&mut") (← item args 0))
  else if name = "[]" ∧ args.length = 1 then enter (.slice (← item args 0))
  else if name = "Option" ∧ args.length = 1 then enter (.option (← item args 0))
  else if name = "Vec" ∧ args.length = 1 then enter (.vec (← item args 0))
  else enter (.adt name args)

mutual

def ofExpr : TypeExpr → Pooled TypeId
  | .mk name args _ => do ofHead b name (← ofExprs args)

def ofExprs : List TypeExpr → Pooled (List TypeId)
  | [] => return []
  | t :: ts => do
      let id ← ofExpr t
      let ids ← ofExprs ts
      return id :: ids

end

def ofDeclared : Option TypeExpr → Pooled (Option TypeId)
  | none => return none
  | some t => return some (← ofExpr b t)

mutual

def bind : Pat → TypeId → Pooled Unit
  | .binding i _ _, id => change (·.setBinding i.id id)
  | .wild _, _ => pure ()
  | .tuple _ elems, id => do
      let s ← look id
      if s.kind = .tuple ∧ s.parts.length = elems.length then bindAll elems s.parts
      else bindAll elems (List.replicate elems.length b.unknown)

def bindAll : List Pat → List TypeId → Pooled Unit
  | [], _ => pure ()
  | _ :: _, [] => pure ()
  | p :: ps, id :: ids => do
      bind p id
      bindAll ps ids

end

def closureParams : List Param → List TypeId → Pooled (List TypeId)
  | [], _ => return []
  | p :: ps, hints => do
      let id := (← ofDeclared b p.declared).getD (hints.headD b.unknown)
      bind b p.pattern id
      let ids ← closureParams ps hints.tail
      return id :: ids

def intType (suffix : Option String) (expected : Option TypeId) : Pooled TypeId := do
  match suffix, expected with
  | some name, _ => scalar name
  | none, some id => if isIntegerName (← look id).name then return id else return b.i32
  | none, none => return b.i32

def floatType : Option String → Pooled TypeId
  | some name => scalar name
  | none => return b.f64

def varType (name : String) (binding : Option NodeId) (expected : Option TypeId) :
    Pooled TypeId := do
  match binding with
  | some i => return ((← get).now.bindings.lookup i).getD b.unknown
  | none =>
      if name = "None" then
        match expected with
        | some id => if ← query (·.isOption expected) then return id else enter (.option b.unknown)
        | none => enter (.option b.unknown)
      else return ((← get).now.functions.lookup name).getD b.unknown

def fieldType (subject : TypeId) (name : String) : Pooled TypeId := do
  let s ← look subject
  match Infer.fieldIndex? name with
  | some place =>
      if s.kind = .tuple then
        change fun t =>
          { t with longField := t.longField || Numeral.maxDigits < name.length }
        if place < s.parts.length then item s.parts place else return b.unknown
      else return b.unknown
  | none => return b.unknown

def indexType (subject position : TypeId) : Pooled TypeId := do
  match ← elem? subject with
  | none => return b.unknown
  | some elem => if (← look position).kind = .range then enter (.slice elem) else return elem

def unaryType : UnaryOp → TypeId → Pooled TypeId
  | .ref, id => enter (.ref false id)
  | .refMut, id => enter (.ref true id)
  | .deref, id => do
      let s ← look id
      if s.kind = .ref then item s.parts 0 else return b.unknown
  | .neg, id | .not, id => return id

def iteratedType (id : TypeId) : Pooled TypeId := do
  let s ← look id
  if s.kind = .range ∨ s.kind = .vec ∨ s.kind = .array then item s.parts 0
  else if s.kind = .ref then
    match ← elem? (← peel (← item s.parts 0)) with
    | some elem => enter (.ref false elem)
    | none => return b.unknown
  else return b.unknown

def elemAsks (expected : Option TypeId) (n : Nat) : Pooled (List (Option Ask)) := do
  match expected with
  | some id =>
      let s ← look id
      if s.kind = .tuple ∧ s.parts.length = n then
        return s.parts.map fun part => some (.type (some part))
      else return []
  | none => return []

def macroResult (name : String) (ids : List TypeId) : Pooled TypeId :=
  if name = "vec" then enter (.vec (ids.headD b.unknown))
  else if name = "format" then return b.string
  else if CallRule.valuelessMacros.contains name then return b.unit
  else return b.unknown

def free (result : TypeId) : PooledRule := ⟨[], some (.type none), fun _ => return result⟩

def untyped (result : Pooled TypeId) : PooledRule := ⟨[], none, fun _ => result⟩

def hinted (hint : TypeId) (result : Pooled TypeId) : PooledRule :=
  ⟨[some (.type (some hint))], some (.type none), fun _ => result⟩

def calling (params : List TypeId) (result : TypeId → Pooled TypeId) : PooledRule :=
  ⟨[some (.result params)], some (.type none), fun ids => do result (← item ids 0)⟩

def ofPath? (name : String) (arity : Nat) (expected : Option TypeId) :
    Pooled (Option PooledRule) := do
  if name = "Some" ∧ arity = 1 then
    let hint ← match expected with
      | some id => query (·.optionArg? id)
      | none => pure none
    return some ⟨[some (.type hint)], some (.type none), fun ids => do
      enter (.option (← item ids 0))⟩
  else if name = "String::new" ∨ name = "String::from" then return some (free b.string)
  else if name = "Vec::new" then
    return some (untyped do
      match expected with
      | some id => if (← look id).kind = .vec then return id else enter (.vec b.unknown)
      | none => enter (.vec b.unknown))
  else return none

def pathRule? (callee : Expr) (arity : Nat) (expected : Option TypeId) :
    Pooled (Option PooledRule) :=
  match callee with
  | .var _ name none => ofPath? b name arity expected
  | _ => return none

def ofCallee (id : TypeId) : Pooled PooledRule := do
  let s ← look id
  if s.kind = .function ∨ s.kind = .closure then
    return ⟨s.parts.dropLast.map fun part => some (.type (some part)), some (.type none),
      fun _ => lastPart s⟩
  else return free b.unknown

def ofOption (base : TypeId) (s : Shape) (name : String) (arity : Nat) :
    Pooled (Option PooledRule) := do
  let inner ← item s.parts 0
  if name = "map" ∧ arity = 1 then return some (calling [inner] fun id => enter (.option id))
  else if name = "and_then" ∧ arity = 1 then return some (calling [inner] fun id => return id)
  else if name = "map_or" ∧ arity = 2 then
    return some ⟨[some (.type none), some (.result [inner])], some (.type none),
      fun ids => item ids 0⟩
  else if name = "filter" ∧ arity = 1 then
    let param ← enter (.ref false inner)
    return some (calling [param] fun _ => return base)
  else if name = "unwrap_or_else" ∧ arity = 1 then
    return some (calling [] fun _ => return inner)
  else if name = "unwrap_or" then return some (hinted inner (return inner))
  else if ["unwrap", "expect", "unwrap_or_default"].contains name then return some (free inner)
  else if ["is_some", "is_none"].contains name then return some (untyped (return b.bool))
  else if ["cloned", "copied"].contains name then
    return some (untyped do
      let target ← look inner
      let copied ← if target.kind = .ref then item target.parts 0 else pure b.unknown
      enter (.option copied))
  else if name = "as_ref" then
    return some (untyped do enter (.option (← enter (.ref false inner))))
  else if ["or", "take", "xor"].contains name then return some (hinted base (return base))
  else return none

def ofSequence (s : Shape) (name : String) (arity : Nat) : Pooled (Option PooledRule) := do
  let elem ← item s.parts 0
  if name = "len" then return some (untyped (return b.usize))
  else if ["is_empty", "contains"].contains name then return some (free b.bool)
  else if name = "get" ∧ arity = 1 then
    return some ⟨[some (.type none)], some (.type none), fun ids => do
      if (← look (← item ids 0)).kind = .range then
        enter (.option (← enter (.ref false (← enter (.slice elem)))))
      else enter (.option (← enter (.ref false elem)))⟩
  else if ["first", "last"].contains name then
    return some (untyped do enter (.option (← enter (.ref false elem))))
  else if name = "to_vec" then return some (untyped (enter (.vec elem)))
  else if name = "pop" then return some (untyped (enter (.option elem)))
  else if name = "push" then return some (hinted elem (return b.unit))
  else if name = "iter" then
    return some (untyped do enter (.adt "Iter" [← enter (.ref false elem)]))
  else return none

def ofText (name : String) : Option PooledRule :=
  if name = "len" then some (untyped (return b.usize))
  else if name = "is_empty" then some (untyped (return b.bool))
  else if ["to_owned", "to_uppercase", "to_lowercase"].contains name then
    some (untyped (return b.string))
  else if ["as_str", "trim"].contains name then some (untyped (return b.strRef))
  else none

def ofScalar (base : TypeId) (name : String) : Option PooledRule :=
  if ["abs", "min", "max", "pow", "saturating_add", "saturating_sub", "wrapping_add"].contains
      name then
    some (hinted base (return base))
  else if ["checked_add", "checked_sub", "checked_mul", "checked_div"].contains name then
    some (hinted base (enter (.option base)))
  else none

def ofKind? (base : TypeId) (s : Shape) (name : String) (arity : Nat) :
    Pooled (Option PooledRule) :=
  if s.kind = .option then ofOption b base s name arity
  else if s.kind = .vec ∨ s.kind = .slice ∨ s.kind = .array then ofSequence b s name arity
  else if s.kind = .string ∨ s.kind = .str then return ofText b name
  else if s.kind = .scalar then return ofScalar base name
  else return none

def ofMethod (base : TypeId) (name : String) (arity : Nat) : Pooled PooledRule := do
  let s ← look base
  if name = "clone" ∧ arity = 0 then return free base
  else if name = "to_string" ∧ arity = 0 then return free b.string
  else
    let rule? ← ofKind? b base s name arity
    return rule?.getD ⟨[], some .nothing, fun _ => return b.unknown⟩

def record (e : Expr) (id : TypeId) : Pooled TypeId := do
  change (·.setExpr e.info.id id)
  return id

def operatorType (op : BinaryOp) (left : TypeId) : TypeId :=
  if op.isLogical then b.bool else left

variable (unrolled : Bool)

mutual

def expr (e : Expr) (expected : Option TypeId) : Pooled TypeId :=
  match e with
  | .int _ _ suffix => do record e (← intType b suffix expected)
  | .float _ _ suffix => do record e (← floatType b suffix)
  | .string .. => record e b.strRef
  | .bool .. => record e b.bool
  | .var _ name binding => do record e (← varType b name binding expected)
  | .call _ callee args => do
      match ← pathRule? b callee args.length expected with
      | some rule =>
          let ids ← exprs args rule.first rule.others
          record e (← rule.result ids)
      | none =>
          let rule ← ofCallee b (← expr callee none)
          let ids ← exprs args rule.first rule.others
          record e (← rule.result ids)
  | .methodCall _ receiver name _ args => do
      let base ← peel (← expr receiver none)
      let rule ← ofMethod b base name args.length
      let ids ← exprs args rule.first rule.others
      record e (← rule.result ids)
  | .field _ subject name => do
      let base ← peel (← expr subject none)
      record e (← fieldType b base name)
  | .index _ subject position => do
      let base ← peel (← expr subject none)
      let place ← expr position none
      record e (← indexType b base place)
  | .unary _ op operand => do record e (← unaryType b op (← expr operand none))
  | .binary i op left right =>
      have := Expr.spine_lt i op left right
      if unrolled then do
        let first ← expr (left.spine [⟨i, op, right⟩]).1 none
        record e (← climb first (left.spine [⟨i, op, right⟩]).2)
      else do
        let id ← expr left none
        let _ ← expr right (some id)
        record e (operatorType b op id)
  | .range _ lower upper => do
      let lower ← optional lower
      let upper ← optional upper
      record e (← enter (.range ((lower <|> upper).getD b.unknown)))
  | .array _ elems => do
      let ids ← exprs elems [] (some (.type none))
      record e (← enter (.array (ids.headD b.unknown)))
  | .tuple _ elems => do
      let asks ← elemAsks expected elems.length
      let ids ← exprs elems asks (some (.type none))
      record e (← enter (.ofElems ids))
  | .closure _ ps body _ => do record e (← closure ps body [])
  | .macroCall _ name args => do
      let ids ← exprs args [] (some (.type none))
      record e (← macroResult b name ids)
  | .block _ body => do record e (← block body expected)
  | .cond _ test yes no => do
      let _ ← expr test none
      let id ← block yes expected
      record e (← otherwise no id)
  | .whileLoop _ test body => do
      let _ ← expr test none
      let _ ← block body none
      record e b.unit
  | .loop _ body => do
      let _ ← block body none
      record e b.unknown
  | .forLoop _ p iterable body => do
      let id ← iteratedType b (← expr iterable none)
      bind b p id
      let _ ← block body none
      record e b.unit
  | .ret _ value => do
      let _ ← optional value
      record e b.unknown
  | .brk _ | .cont _ => record e b.unknown
termination_by 3 * sizeOf e
decreasing_by
  all_goals simp_wf
  all_goals grind [Expr.binary.sizeOf_spec]

/-- From the type of what stands on the left through the operators to the right. Of the last of them
the type is noted by whoever asked for it. -/
def climb (left : TypeId) (links : List Link) : Pooled TypeId :=
  match links with
  | [] => return left
  | link :: links => do
      let _ ← expr link.right (some left)
      if links.isEmpty then return operatorType b link.op left
      else
        change (·.setExpr link.info.id (operatorType b link.op left))
        climb (operatorType b link.op left) links
termination_by 3 * Link.weight links
decreasing_by all_goals grind [Link.weight]

def closure (ps : List Param) (body : Expr) (hints : List TypeId) : Pooled TypeId := do
  let ids ← closureParams b ps hints
  let result ← expr body none
  enter (.closure ids result)
termination_by 3 * sizeOf body + 1

def resultOf (e : Expr) (params : List TypeId) : Pooled TypeId :=
  match e with
  | .closure i ps body isMove => do
      let id ← closure ps body params
      callResult b.unknown (← record (.closure i ps body isMove) id)
  | e => do callResult b.unknown (← expr e none)
termination_by 3 * sizeOf e + 1

def argument (e : Expr) (ask : Ask) : Pooled TypeId :=
  match ask with
  | .type expected => expr e expected
  | .result params => resultOf e params
  | .nothing => if isClosure e then resultOf e [] else expr e none
termination_by 3 * sizeOf e + 2

def exprs (es : List Expr) (first : List (Option Ask)) (others : Option Ask) :
    Pooled (List TypeId) :=
  match es with
  | [] => return []
  | e :: es => do
      let id ← match first.headD others with
        | some ask => argument e ask
        | none => pure b.unknown
      let ids ← exprs es first.tail others
      return id :: ids
termination_by 3 * sizeOf es

def optional (o : Option Expr) : Pooled (Option TypeId) :=
  match o with
  | none => return none
  | some e => do return some (← expr e none)
termination_by 3 * sizeOf o

def otherwise (o : Option Expr) (id : TypeId) : Pooled TypeId :=
  match o with
  | none => return b.unit
  | some e => do
      let _ ← expr e (some id)
      return id
termination_by 3 * sizeOf o

def initializer (o : Option Expr) (declared : Option TypeId) : Pooled TypeId :=
  match o with
  | none => return declared.getD b.unknown
  | some e => do
      let id ← expr e declared
      return declared.getD id
termination_by 3 * sizeOf o

def stmts (ss : List Stmt) : Pooled Unit :=
  match ss with
  | [] => return ()
  | .expr _ value :: ss => do
      let _ ← expr value none
      stmts ss
  | .letIn _ p declared value :: ss => do
      let id ← initializer value (← ofDeclared b declared)
      bind b p id
      stmts ss
termination_by 3 * sizeOf ss

def block (body : Block) (expected : Option TypeId) : Pooled TypeId :=
  match body with
  | .mk _ ss none => do
      stmts ss
      return b.unit
  | .mk _ ss (some tail) => do
      stmts ss
      expr tail expected
termination_by 3 * sizeOf body

end

def params : List Param → Pooled Unit
  | [] => return ()
  | p :: ps => do
      bind b p.pattern ((← ofDeclared b p.declared).getD b.unknown)
      params ps

def declaredTypes : List Param → Pooled (List TypeId)
  | [] => return []
  | p :: ps => do
      let id := (← ofDeclared b p.declared).getD b.unknown
      let ids ← declaredTypes ps
      return id :: ids

def declareAll : List Function → Pooled Unit
  | [] => return ()
  | f :: fs => do
      let ps ← declaredTypes b f.params
      let result := (← ofDeclared b f.result).getD b.unit
      let id ← enter (.function ps result)
      change (·.setFunction f.name id)
      declareAll fs

def functions : List Function → Pooled Unit
  | [] => return ()
  | f :: fs => do
      params b f.params
      let _ ← block b unrolled f.body none
      functions fs

end

def module (unrolled : Bool) (m : Module) : Pooled Unit := do
  let b ← basics
  declareAll b m.functions
  functions b unrolled m.functions

section

variable (b : Basics)

theorem expr_binary_of {i : Info} {op : BinaryOp} {left right : Expr}
    (h : (do
        let first ← expr b true (left.spine [⟨i, op, right⟩]).1 none
        climb b true first (left.spine [⟨i, op, right⟩]).2) =
      (do climb b true (← expr b true left none) [⟨i, op, right⟩])) (expected : Option TypeId) :
    expr b true (.binary i op left right) expected = (do
      let id ← expr b true left none
      let _ ← expr b true right (some id)
      record (.binary i op left right) (operatorType b op id)) := by
  have hchain := congrArg (· >>= record (.binary i op left right)) h
  simp only [bind_assoc] at hchain
  rw [expr, if_pos rfl, hchain]
  simp only [climb, List.isEmpty_nil, if_true, bind_assoc, pure_bind]

theorem climb_spine (e : Expr) {links : List Link} (h : links ≠ []) :
    (do climb b true (← expr b true (e.spine links).1 none) (e.spine links).2) =
      (do climb b true (← expr b true e none) links) := by
  -- By induction on the spine: the operator is one more link, and of the links before it the loop has
  -- noted the types already.
  cases e with
  | binary i op left right =>
      have hlater : links.isEmpty = false := List.isEmpty_eq_false_iff.mpr h
      rw [Expr.spine, climb_spine left (List.cons_ne_nil _ links),
        expr_binary_of b (climb_spine left (List.cons_ne_nil _ []))]
      simp only [climb, hlater, Bool.false_eq_true, if_false, record, bind_assoc, pure_bind,
        Expr.info]
  | _ => rfl

theorem resultOf_eq (unrolled : Bool) {e : Expr} (he : isClosure e = false) (ids : List TypeId) :
    resultOf b unrolled e ids = (do callResult b.unknown (← expr b unrolled e none)) := by
  rw [resultOf.eq_def]
  split
  · cases he
  · rfl

theorem expr_binary (unrolled : Bool) (i : Info) (op : BinaryOp) (left right : Expr)
    (expected : Option TypeId) : expr b unrolled (.binary i op left right) expected = (do
      let id ← expr b unrolled left none
      let _ ← expr b unrolled right (some id)
      record (.binary i op left right) (operatorType b op id)) := by
  cases unrolled with
  | false =>
      rw [expr]
      rfl
  | true => exact expr_binary_of b (climb_spine b left (List.cons_ne_nil _ [])) expected

end

end Pooled

end ChainLint
