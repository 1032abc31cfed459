import ChainLint.Proofs.Tree.Resolution
import ChainLint.Proofs.Tree.Spine

namespace ChainLint.Tree

abbrev Resolving := StateT (List Scope) Option

namespace Resolving

def push : Resolving Unit := modify ([] :: ·)

def pop : Resolving Unit := fun stack =>
  match stack with
  | [] => none
  | _ :: rest => some ((), rest)

def define (name : String) (id : NodeId) : Resolving Unit := fun stack =>
  match stack with
  | [] => none
  | top :: rest => some ((), ((name, id) :: top) :: rest)

def find (name : String) : Resolving (Option NodeId) := do
  if Scope.isQualified name then return none
  else return (← get).findSome? (·.lookup name)

mutual

def bind : Pat → Resolving Unit
  | .binding i name _ => define name i.id
  | .wild _ => pure ()
  | .tuple _ elems => bindAll elems

def bindAll : List Pat → Resolving Unit
  | [] => pure ()
  | p :: ps => do
      bind p
      bindAll ps

end

def bindParams (ps : List Param) : Resolving Unit := bindAll (ps.map Param.pattern)

mutual

def expr (e : Expr) : Resolving Expr :=
  match e with
  | .var i name _ => do return .var i name (← find name)
  | .int i value suffix => return .int i value suffix
  | .float i bits suffix => return .float i bits suffix
  | .string i value => return .string i value
  | .bool i value => return .bool i value
  | .call i callee args => do
      let callee ← expr callee
      return .call i callee (← exprs args)
  | .methodCall i receiver name nameSpan args => do
      let receiver ← expr receiver
      return .methodCall i receiver name nameSpan (← exprs args)
  | .field i subject name => do return .field i (← expr subject) name
  | .index i subject position => do
      let subject ← expr subject
      return .index i subject (← expr position)
  | .unary i op operand => do return .unary i op (← expr operand)
  | .binary i op left right => do
      have := Expr.spine_lt i op left right
      climb (← expr (left.spine [⟨i, op, right⟩]).1) (left.spine [⟨i, op, right⟩]).2
  | .range i lower upper => do
      let lower ← optional lower
      return .range i lower (← optional upper)
  | .array i elems => do return .array i (← exprs elems)
  | .tuple i elems => do return .tuple i (← exprs elems)
  | .closure i ps body isMove => do
      push
      bindParams ps
      let body ← expr body
      pop
      return .closure i ps body isMove
  | .macroCall i name args => do return .macroCall i name (← exprs args)
  | .block i body => do return .block i (← block body)
  | .cond i test yes no => do
      let test ← expr test
      let yes ← block yes
      return .cond i test yes (← optional no)
  | .whileLoop i test body => do
      let test ← expr test
      return .whileLoop i test (← block body)
  | .loop i body => do return .loop i (← block body)
  | .forLoop i p iterable body => do
      let iterable ← expr iterable
      push
      bind p
      let body ← block body
      pop
      return .forLoop i p iterable body
  | .ret i value => do return .ret i (← optional value)
  | .brk i => return .brk i
  | .cont i => return .cont i
termination_by sizeOf e
decreasing_by
  all_goals simp_wf
  all_goals grind [Expr.binary.sizeOf_spec]

def climb (left : Expr) (links : List Link) : Resolving Expr :=
  match links with
  | [] => return left
  | link :: links => do
      let right ← expr link.right
      climb (.binary link.info link.op left right) links
termination_by Link.weight links
decreasing_by all_goals grind [Link.weight]

def exprs (es : List Expr) : Resolving (List Expr) :=
  match es with
  | [] => return []
  | e :: es => do
      let e ← expr e
      let es ← exprs es
      return e :: es
termination_by sizeOf es

def optional (o : Option Expr) : Resolving (Option Expr) :=
  match o with
  | none => return none
  | some e => do return some (← expr e)
termination_by sizeOf o

def stmts (ss : List Stmt) : Resolving (List Stmt) :=
  match ss with
  | [] => return []
  | .expr i value :: ss => do
      let value ← expr value
      let ss ← stmts ss
      return .expr i value :: ss
  | .letIn i p declared value :: ss => do
      let value ← optional value
      bind p
      let ss ← stmts ss
      return .letIn i p declared value :: ss
termination_by sizeOf ss

def block (b : Block) : Resolving Block :=
  match b with
  | .mk i ss tail => do
      push
      let ss ← stmts ss
      let tail ← optional tail
      pop
      return .mk i ss tail
termination_by sizeOf b

end

def function (f : Function) : Resolving Function := do
  push
  bindParams f.params
  let body ← block f.body
  pop
  return { f with body := body }

def functions : List Function → Resolving (List Function)
  | [] => return []
  | f :: fs => do
      let f ← function f
      let fs ← functions fs
      return f :: fs

def module (m : Module) : Resolving Module := do
  return { m with functions := ← functions m.functions }

theorem climb_spine (e : Expr) (links : List Link) :
    (do climb (← expr (e.spine links).1) (e.spine links).2) = (do climb (← expr e) links) := by
  cases e with
  | binary i op left right =>
      rw [Expr.spine, climb_spine left, expr, climb_spine left]
      simp only [climb, bind_assoc, pure_bind]
  | _ => rfl

theorem expr_binary (i : Info) (op : BinaryOp) (left right : Expr) :
    expr (.binary i op left right) = (do
      let left ← expr left
      let right ← expr right
      return .binary i op left right) := by
  rw [expr, climb_spine left]
  simp only [climb]

def visible (stack : List Scope) : Scope := stack.flatten

section

variable {α β : Type}

theorem run_bind {a : Resolving α} {stack stack' : List Scope} {x : α}
    (h : a.run stack = some (x, stack')) (f : α → Resolving β) :
    (a >>= f).run stack = (f x).run stack' := by
  rw [StateT.run_bind, h]
  rfl

theorem run_find (name : String) (stack : List Scope) :
    (find name).run stack = some ((visible stack).find? name, stack) := by
  have hlookup : stack.findSome? (·.lookup name) = (visible stack).lookup name := by
    induction stack with
    | nil => rfl
    | cons top rest ih =>
        rw [List.findSome?_cons, visible, List.flatten_cons, List.lookup_append, ih]
        cases top.lookup name <;> rfl
  rw [find, Scope.find?, ← hlookup]
  split <;> rfl

theorem run_push (stack : List Scope) : push.run stack = some ((), [] :: stack) := rfl

theorem run_pop (top : Scope) (rest : List Scope) : pop.run (top :: rest) = some ((), rest) := rfl

mutual

theorem run_pattern (top : Scope) (rest : List Scope) : (p : Pat) →
    (bind p).run (top :: rest) = some ((), top.bind p :: rest)
  | .binding .. | .wild _ => rfl
  | .tuple _ elems => by
      rw [bind, Scope.bind]
      exact run_patterns top rest elems

theorem run_patterns (top : Scope) (rest : List Scope) : (ps : List Pat) →
    (bindAll ps).run (top :: rest) = some ((), top.bindAll ps :: rest)
  | [] => rfl
  | p :: ps => by
      rw [bindAll, Scope.bindAll, run_bind (run_pattern top rest p)]
      exact run_patterns (top.bind p) rest ps

end

theorem run_params (ps : List Param) (stack : List Scope) :
    (bindParams ps).run ([] :: stack) = some ((), Scope.bindParams [] ps :: stack) :=
  run_patterns [] stack (ps.map Param.pattern)

end

theorem visible_bind (top : Scope) (rest : List Scope) (p : Pat) :
    visible (top.bind p :: rest) = (visible (top :: rest)).bind p := by
  rw [visible, visible, List.flatten_cons, List.flatten_cons, Scope.bind_eq, Scope.bind_eq,
    List.append_assoc]

theorem visible_bindParams (stack : List Scope) (ps : List Param) :
    visible (Scope.bindParams [] ps :: stack) = (visible stack).bindParams ps := by
  rw [visible, List.flatten_cons, Scope.bindParams_eq, Scope.bindParams_eq, List.append_nil]
  rfl

mutual

theorem run_expr : (e : Expr) → (stack : List Scope) →
    (expr e).run stack = some ((visible stack).expr e, stack)
  | .var i name _, stack => by
      rw [expr, Scope.expr, run_bind (run_find name stack)]
      rfl
  | .int .., _ | .float .., _ | .string .., _ | .bool .., _ | .brk _, _ | .cont _, _ => by
      rw [expr, Scope.expr]
      rfl
  | .call i callee args, stack => by
      rw [expr, Scope.expr, run_bind (run_expr callee stack), run_bind (run_exprs args stack)]
      rfl
  | .methodCall i receiver name nameSpan args, stack => by
      rw [expr, Scope.expr, run_bind (run_expr receiver stack), run_bind (run_exprs args stack)]
      rfl
  | .field i subject name, stack => by
      rw [expr, Scope.expr, run_bind (run_expr subject stack)]
      rfl
  | .index i subject position, stack => by
      rw [expr, Scope.expr, run_bind (run_expr subject stack), run_bind (run_expr position stack)]
      rfl
  | .unary i op operand, stack => by
      rw [expr, Scope.expr, run_bind (run_expr operand stack)]
      rfl
  | .binary i op left right, stack => by
      rw [expr_binary, Scope.expr, run_bind (run_expr left stack), run_bind (run_expr right stack)]
      rfl
  | .range i lower upper, stack => by
      rw [expr, Scope.expr, run_bind (run_optional lower stack), run_bind (run_optional upper stack)]
      rfl
  | .array i elems, stack | .tuple i elems, stack | .macroCall i name elems, stack => by
      rw [expr, Scope.expr, run_bind (run_exprs elems stack)]
      rfl
  | .closure i ps body isMove, stack => by
      rw [expr, Scope.expr, run_bind (run_push stack), run_bind (run_params ps stack),
        run_bind (run_expr body _), run_bind (run_pop _ stack), visible_bindParams]
      rfl
  | .block i body, stack | .loop i body, stack => by
      rw [expr, Scope.expr, run_bind (run_block body stack)]
      rfl
  | .cond i test yes no, stack => by
      rw [expr, Scope.expr, run_bind (run_expr test stack), run_bind (run_block yes stack),
        run_bind (run_optional no stack)]
      rfl
  | .whileLoop i test body, stack => by
      rw [expr, Scope.expr, run_bind (run_expr test stack), run_bind (run_block body stack)]
      rfl
  | .forLoop i p iterable body, stack => by
      rw [expr, Scope.expr, run_bind (run_expr iterable stack), run_bind (run_push stack),
        run_bind (run_pattern [] stack p), run_bind (run_block body _), run_bind (run_pop _ stack),
        visible_bind]
      rfl
  | .ret i value, stack => by
      rw [expr, Scope.expr, run_bind (run_optional value stack)]
      rfl

theorem run_exprs : (es : List Expr) → (stack : List Scope) →
    (exprs es).run stack = some ((visible stack).exprs es, stack)
  | [], _ => by
      rw [exprs, Scope.exprs]
      rfl
  | e :: es, stack => by
      rw [exprs, Scope.exprs, run_bind (run_expr e stack), run_bind (run_exprs es stack)]
      rfl

theorem run_optional : (o : Option Expr) → (stack : List Scope) →
    (optional o).run stack = some ((visible stack).optional o, stack)
  | none, _ => by
      rw [optional, Scope.optional]
      rfl
  | some e, stack => by
      rw [optional, Scope.optional, run_bind (run_expr e stack)]
      rfl

theorem run_stmts : (ss : List Stmt) → (top : Scope) → (rest : List Scope) →
    (stmts ss).run (top :: rest) =
      some ((visible (top :: rest)).stmts ss, top.afterStmts ss :: rest)
  | [], _, _ => by
      rw [stmts, Scope.stmts]
      rfl
  | .expr i value :: ss, top, rest => by
      rw [stmts, Scope.stmts, run_bind (run_expr value _), run_bind (run_stmts ss top rest)]
      rfl
  | .letIn i p declared value :: ss, top, rest => by
      rw [stmts, Scope.stmts, run_bind (run_optional value _), run_bind (run_pattern top rest p),
        run_bind (run_stmts ss _ rest), visible_bind]
      rfl

theorem run_block : (b : Block) → (stack : List Scope) →
    (block b).run stack = some ((visible stack).block b, stack)
  | .mk i ss tail, stack => by
      have hafter : visible (Scope.afterStmts [] ss :: stack) = (visible stack).afterStmts ss := by
        rw [visible, List.flatten_cons, Scope.afterStmts_eq, Scope.afterStmts_eq, List.append_nil]
        rfl
      rw [block, Scope.block, run_bind (run_push stack), run_bind (run_stmts ss [] stack),
        run_bind (run_optional tail _), run_bind (run_pop _ stack), hafter]
      rfl

end

theorem run_functions (fs : List Function) :
    (functions fs).run [] = some (fs.map Scope.function, []) := by
  induction fs with
  | nil => rfl
  | cons f fs ih =>
      have hfunction : (function f).run [] = some (Scope.function f, []) := by
        rw [function, run_bind (run_push []), run_bind (run_params f.params []),
          run_bind (run_block f.body _), run_bind (run_pop _ []), visible_bindParams]
        rfl
      rw [functions, run_bind hfunction, run_bind ih]
      rfl

theorem run_module (m : Module) : (module m).run [] = some (m.resolve, []) := by
  rw [module, run_bind (run_functions m.functions)]
  rfl

end Resolving

end ChainLint.Tree
