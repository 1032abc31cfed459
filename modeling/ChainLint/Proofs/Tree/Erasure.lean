import ChainLint.Proofs.Tree.Resolution

namespace ChainLint.Tree

variable (f : Span → Span)

def Info.erase (i : Info) : Info := ⟨0, f i.span⟩

mutual

def TypeExpr.erase : TypeExpr → TypeExpr
  | .mk name args s => .mk name (eraseTypes args) (f s)

def eraseTypes : List TypeExpr → List TypeExpr
  | [] => []
  | t :: ts => t.erase :: eraseTypes ts

end

mutual

def Pat.erase : Pat → Pat
  | .binding i name isMut => .binding (i.erase f) name isMut
  | .wild i => .wild (i.erase f)
  | .tuple i elems => .tuple (i.erase f) (erasePats elems)

def erasePats : List Pat → List Pat
  | [] => []
  | p :: ps => p.erase :: erasePats ps

end

def Param.erase (p : Param) : Param :=
  ⟨p.info.erase f, p.pattern.erase f, p.declared.map (TypeExpr.erase f)⟩

mutual

def Expr.erase : Expr → Expr
  | .var i name _ => .var (i.erase f) name none
  | .int i value suffix => .int (i.erase f) value suffix
  | .float i bits suffix => .float (i.erase f) bits suffix
  | .string i value => .string (i.erase f) value
  | .bool i value => .bool (i.erase f) value
  | .call i callee args => .call (i.erase f) callee.erase (eraseExprs args)
  | .methodCall i receiver name nameSpan args =>
      .methodCall (i.erase f) receiver.erase name (f nameSpan) (eraseExprs args)
  | .field i subject name => .field (i.erase f) subject.erase name
  | .index i subject position => .index (i.erase f) subject.erase position.erase
  | .unary i op operand => .unary (i.erase f) op operand.erase
  | .binary i op left right => .binary (i.erase f) op left.erase right.erase
  | .range i lower upper => .range (i.erase f) (eraseOption lower) (eraseOption upper)
  | .array i elems => .array (i.erase f) (eraseExprs elems)
  | .tuple i elems => .tuple (i.erase f) (eraseExprs elems)
  | .closure i ps body isMove =>
      .closure (i.erase f) (ps.map (Param.erase f)) body.erase isMove
  | .macroCall i name args => .macroCall (i.erase f) name (eraseExprs args)
  | .block i body => .block (i.erase f) body.erase
  | .cond i test yes no => .cond (i.erase f) test.erase yes.erase (eraseOption no)
  | .whileLoop i test body => .whileLoop (i.erase f) test.erase body.erase
  | .loop i body => .loop (i.erase f) body.erase
  | .forLoop i p iterable body =>
      .forLoop (i.erase f) (p.erase f) iterable.erase body.erase
  | .ret i value => .ret (i.erase f) (eraseOption value)
  | .brk i => .brk (i.erase f)
  | .cont i => .cont (i.erase f)

def eraseExprs : List Expr → List Expr
  | [] => []
  | e :: es => e.erase :: eraseExprs es

def eraseOption : Option Expr → Option Expr
  | none => none
  | some e => some e.erase

def Stmt.erase : Stmt → Stmt
  | .expr i value => .expr (i.erase f) value.erase
  | .letIn i p declared value =>
      .letIn (i.erase f) (p.erase f) (declared.map (TypeExpr.erase f)) (eraseOption value)

def eraseStmts : List Stmt → List Stmt
  | [] => []
  | s :: ss => s.erase :: eraseStmts ss

def Block.erase : Block → Block
  | .mk i ss tail => .mk (i.erase f) (eraseStmts ss) (eraseOption tail)

end

def Function.erase (g : Function) : Function :=
  ⟨g.info.erase f, g.name, g.params.map (Param.erase f), g.body.erase f,
    g.result.map (TypeExpr.erase f)⟩

def Module.erase (m : Module) : Module :=
  ⟨m.info.erase f, m.file, m.functions.map (Function.erase f)⟩

theorem erasePats_eq (ps : List Pat) : erasePats f ps = ps.map (Pat.erase f) := by
  induction ps with
  | nil => rfl
  | cons p ps ih => rw [erasePats, ih, List.map_cons]

theorem eraseExprs_eq (es : List Expr) : eraseExprs f es = es.map (Expr.erase f) := by
  induction es with
  | nil => rfl
  | cons e es ih => rw [eraseExprs, ih, List.map_cons]

theorem eraseOption_eq (o : Option Expr) : eraseOption f o = o.map (Expr.erase f) := by
  cases o <;> rfl

theorem eraseStmts_eq (ss : List Stmt) : eraseStmts f ss = ss.map (Stmt.erase f) := by
  induction ss with
  | nil => rfl
  | cons s ss ih => rw [eraseStmts, ih, List.map_cons]

section

variable (g : Span → Span)

mutual

theorem TypeExpr.erase_erase : (t : TypeExpr) → (t.erase f).erase g = t.erase (g ∘ f)
  | .mk name args _ => congrArg (TypeExpr.mk name · _) (eraseTypes_erase args)

theorem eraseTypes_erase : (ts : List TypeExpr) →
    eraseTypes g (eraseTypes f ts) = eraseTypes (g ∘ f) ts
  | [] => rfl
  | t :: ts => congrArg₂ List.cons t.erase_erase (eraseTypes_erase ts)

end

theorem declared_erase_erase (o : Option TypeExpr) :
    (o.map (TypeExpr.erase f)).map (TypeExpr.erase g) = o.map (TypeExpr.erase (g ∘ f)) := by
  cases o with
  | none => rfl
  | some t => exact congrArg some (t.erase_erase f g)

mutual

theorem Pat.erase_erase : (p : Pat) → (p.erase f).erase g = p.erase (g ∘ f)
  | .binding .. | .wild _ => rfl
  | .tuple _ elems => congrArg (Pat.tuple _) (erasePats_erase elems)

theorem erasePats_erase : (ps : List Pat) → erasePats g (erasePats f ps) = erasePats (g ∘ f) ps
  | [] => rfl
  | p :: ps => congrArg₂ List.cons p.erase_erase (erasePats_erase ps)

end

theorem params_erase_erase (ps : List Param) :
    (ps.map (Param.erase f)).map (Param.erase g) = ps.map (Param.erase (g ∘ f)) := by
  rw [List.map_map]
  refine List.map_congr_left fun p _ => ?_
  exact congrArg₂ (Param.mk _) (p.pattern.erase_erase f g) (declared_erase_erase f g p.declared)

mutual

theorem Expr.erase_erase : (e : Expr) → (e.erase f).erase g = e.erase (g ∘ f)
  | .var .. | .int .. | .float .. | .string .. | .bool .. | .brk _ | .cont _ => rfl
  | .call _ callee args => congrArg₂ (Expr.call _) callee.erase_erase (eraseExprs_erase args)
  | .methodCall _ receiver name _ args =>
      congrArg₂ (Expr.methodCall _ · name _ ·) receiver.erase_erase (eraseExprs_erase args)
  | .field _ subject name => congrArg (Expr.field _ · name) subject.erase_erase
  | .index _ subject position => congrArg₂ (Expr.index _) subject.erase_erase position.erase_erase
  | .unary _ op operand => congrArg (Expr.unary _ op) operand.erase_erase
  | .binary _ op left right => congrArg₂ (Expr.binary _ op) left.erase_erase right.erase_erase
  | .range _ lower upper =>
      congrArg₂ (Expr.range _) (eraseOption_erase lower) (eraseOption_erase upper)
  | .array _ elems => congrArg (Expr.array _) (eraseExprs_erase elems)
  | .tuple _ elems => congrArg (Expr.tuple _) (eraseExprs_erase elems)
  | .macroCall _ name args => congrArg (Expr.macroCall _ name) (eraseExprs_erase args)
  | .closure _ ps body isMove =>
      congrArg₂ (Expr.closure _ · · isMove) (params_erase_erase f g ps) body.erase_erase
  | .block _ body => congrArg (Expr.block _) body.erase_erase
  | .loop _ body => congrArg (Expr.loop _) body.erase_erase
  | .cond _ test yes no => by
      change Expr.cond _ _ _ _ = Expr.cond _ _ _ _
      rw [test.erase_erase, yes.erase_erase, eraseOption_erase no]
      rfl
  | .whileLoop _ test body => congrArg₂ (Expr.whileLoop _) test.erase_erase body.erase_erase
  | .forLoop _ p iterable body => by
      change Expr.forLoop _ _ _ _ = Expr.forLoop _ _ _ _
      rw [p.erase_erase, iterable.erase_erase, body.erase_erase]
      rfl
  | .ret _ value => congrArg (Expr.ret _) (eraseOption_erase value)

theorem eraseExprs_erase : (es : List Expr) →
    eraseExprs g (eraseExprs f es) = eraseExprs (g ∘ f) es
  | [] => rfl
  | e :: es => congrArg₂ List.cons e.erase_erase (eraseExprs_erase es)

theorem eraseOption_erase : (o : Option Expr) →
    eraseOption g (eraseOption f o) = eraseOption (g ∘ f) o
  | none => rfl
  | some e => congrArg some e.erase_erase

theorem Stmt.erase_erase : (s : Stmt) → (s.erase f).erase g = s.erase (g ∘ f)
  | .expr _ value => congrArg (Stmt.expr _) value.erase_erase
  | .letIn _ p declared value => by
      change Stmt.letIn _ _ _ _ = Stmt.letIn _ _ _ _
      rw [p.erase_erase, declared_erase_erase, eraseOption_erase value]
      rfl

theorem eraseStmts_erase : (ss : List Stmt) →
    eraseStmts g (eraseStmts f ss) = eraseStmts (g ∘ f) ss
  | [] => rfl
  | s :: ss => congrArg₂ List.cons s.erase_erase (eraseStmts_erase ss)

theorem Block.erase_erase : (b : Block) → (b.erase f).erase g = b.erase (g ∘ f)
  | .mk _ ss tail => congrArg₂ (Block.mk _) (eraseStmts_erase ss) (eraseOption_erase tail)

end

theorem Function.erase_erase (h : Function) : (h.erase f).erase g = h.erase (g ∘ f) := by
  simp only [Function.erase, params_erase_erase, Block.erase_erase, declared_erase_erase]
  rfl

theorem Module.erase_erase (m : Module) : (m.erase f).erase g = m.erase (g ∘ f) := by
  change Module.mk _ _ ((m.functions.map _).map _) = _
  rw [List.map_map]
  exact congrArg (Module.mk _ _) (List.map_congr_left fun h _ => h.erase_erase f g)

end

namespace Node

def erase : Node → Node
  | .module m => .module (m.erase f)
  | .function g => .function (g.erase f)
  | .param p => .param (p.erase f)
  | .pat p => .pat (p.erase f)
  | .block b => .block (b.erase f)
  | .stmt s => .stmt (s.erase f)
  | .expr e => .expr (e.erase f)

theorem span_erase (n : Node) : (n.erase f).span = f n.span := by
  cases n with
  | pat p => cases p <;> rfl
  | block b => cases b; rfl
  | stmt s => cases s <;> rfl
  | expr e => cases e <;> rfl
  | _ => rfl

theorem children_erase (n : Node) : (n.erase f).children = n.children.map (erase f) := by
  cases n with
  | module m => simp [children, erase, Module.erase, Function.comp_def]
  | function g => simp [children, erase, Function.erase, Function.comp_def]
  | param p => rfl
  | pat p => cases p <;> simp [children, erase, Pat.erase, erasePats_eq, Function.comp_def]
  | block b =>
      obtain ⟨i, ss, tail⟩ := b
      simp [children, erase, Block.erase, eraseStmts_eq, eraseOption_eq, Function.comp_def,
        Option.toList_map]
  | stmt s =>
      cases s <;> simp [children, erase, Stmt.erase, eraseOption_eq, Function.comp_def,
        Option.toList_map]
  | expr e =>
      cases e <;> simp [children, Expr.children, erase, Expr.erase, eraseExprs_eq, eraseOption_eq,
        Function.comp_def, Option.toList_map]

theorem preorder_erase (n : Node) : (n.erase f).preorder = n.preorder.map (erase f) := by
  induction n using child_induction with
  | step n ih =>
      rw [preorder_eq, n.preorder_eq, children_erase, List.map_cons, List.map_flatMap,
        List.flatMap_map]
      congr 1
      exact List.flatMap_congr ih

end Node

namespace Numbering

mutual

theorem erase_pat : (p : Pat) → (k : NodeId) → (pat p k).1.erase f = p.erase f
  | .binding .., _ | .wild .., _ => rfl
  | .tuple _ elems, k => congrArg (Pat.tuple _) (erase_pats elems (k + 1))

theorem erase_pats : (ps : List Pat) → (k : NodeId) → erasePats f (pats ps k).1 = erasePats f ps
  | [], _ => rfl
  | p :: ps, k => congrArg₂ List.cons (erase_pat p k) (erase_pats ps _)

end

theorem erase_param (p : Param) (k : NodeId) : (param p k).1.erase f = p.erase f :=
  congrArg (Param.mk _ · _) (erase_pat f p.pattern (k + 1))

theorem erase_params : (ps : List Param) → (k : NodeId) →
    (params ps k).1.map (Param.erase f) = ps.map (Param.erase f)
  | [], _ => rfl
  | p :: ps, k => congrArg₂ List.cons (erase_param f p k) (erase_params ps _)

mutual

theorem erase_expr : (e : Expr) → (k : NodeId) → (expr e k).1.erase f = e.erase f
  | .var .., _ | .int .., _ | .float .., _ | .string .., _ | .bool .., _ | .brk .., _
  | .cont .., _ => rfl
  | .call _ callee args, k =>
      congrArg₂ (Expr.call _) (erase_expr callee (k + 1)) (erase_exprs args _)
  | .methodCall _ receiver name s args, k =>
      congrArg₂ (Expr.methodCall _ · name (f s) ·) (erase_expr receiver (k + 1))
        (erase_exprs args _)
  | .field _ subject name, k => congrArg (Expr.field _ · name) (erase_expr subject (k + 1))
  | .index _ subject position, k =>
      congrArg₂ (Expr.index _) (erase_expr subject (k + 1)) (erase_expr position _)
  | .unary _ op operand, k => congrArg (Expr.unary _ op) (erase_expr operand (k + 1))
  | .binary _ op left right, k =>
      congrArg₂ (Expr.binary _ op) (erase_expr left (k + 1)) (erase_expr right _)
  | .range _ lower upper, k =>
      congrArg₂ (Expr.range _) (erase_optional lower (k + 1)) (erase_optional upper _)
  | .array _ elems, k => congrArg (Expr.array _) (erase_exprs elems (k + 1))
  | .tuple _ elems, k => congrArg (Expr.tuple _) (erase_exprs elems (k + 1))
  | .macroCall _ name elems, k => congrArg (Expr.macroCall _ name) (erase_exprs elems (k + 1))
  | .closure _ ps body isMove, k =>
      congrArg₂ (Expr.closure _ · · isMove) (erase_params f ps (k + 1)) (erase_expr body _)
  | .block _ body, k => congrArg (Expr.block _) (erase_block body (k + 1))
  | .loop _ body, k => congrArg (Expr.loop _) (erase_block body (k + 1))
  | .cond _ test yes no, k => by
      have htest := erase_expr test (k + 1)
      have hyes := erase_block yes (expr test (k + 1)).2
      have hno := erase_optional no (block yes (expr test (k + 1)).2).2
      change Expr.cond _ _ _ _ = Expr.cond _ _ _ _
      rw [htest, hyes, hno]
      rfl
  | .whileLoop _ test body, k =>
      congrArg₂ (Expr.whileLoop _) (erase_expr test (k + 1)) (erase_block body _)
  | .forLoop _ p iterable body, k => by
      have hp := erase_pat f p (k + 1)
      have hiterable := erase_expr iterable (pat p (k + 1)).2
      have hbody := erase_block body (expr iterable (pat p (k + 1)).2).2
      change Expr.forLoop _ _ _ _ = Expr.forLoop _ _ _ _
      rw [hp, hiterable, hbody]
      rfl
  | .ret _ value, k => congrArg (Expr.ret _) (erase_optional value (k + 1))

theorem erase_exprs : (es : List Expr) → (k : NodeId) →
    eraseExprs f (exprs es k).1 = eraseExprs f es
  | [], _ => rfl
  | e :: es, k => congrArg₂ List.cons (erase_expr e k) (erase_exprs es _)

theorem erase_optional : (o : Option Expr) → (k : NodeId) →
    eraseOption f (optional o k).1 = eraseOption f o
  | none, _ => rfl
  | some e, k => congrArg some (erase_expr e k)

theorem erase_stmt : (s : Stmt) → (k : NodeId) → (stmt s k).1.erase f = s.erase f
  | .expr _ value, k => congrArg (Stmt.expr _) (erase_expr value (k + 1))
  | .letIn _ p declared value, k =>
      congrArg₂ (Stmt.letIn _ · (declared.map (TypeExpr.erase f)) ·) (erase_pat f p (k + 1))
        (erase_optional value _)

theorem erase_stmts : (ss : List Stmt) → (k : NodeId) →
    eraseStmts f (stmts ss k).1 = eraseStmts f ss
  | [], _ => rfl
  | s :: ss, k => congrArg₂ List.cons (erase_stmt s k) (erase_stmts ss _)

theorem erase_block : (b : Block) → (k : NodeId) → (block b k).1.erase f = b.erase f
  | .mk _ ss tail, k =>
      congrArg₂ (Block.mk _) (erase_stmts ss (k + 1)) (erase_optional tail _)

end

theorem erase_function (g : Function) (k : NodeId) : (function g k).1.erase f = g.erase f :=
  congrArg₂ (Function.mk _ g.name · · _) (erase_params f g.params (k + 1))
    (erase_block f g.body _)

theorem erase_functions : (gs : List Function) → (k : NodeId) →
    (functions gs k).1.map (Function.erase f) = gs.map (Function.erase f)
  | [], _ => rfl
  | g :: gs, k => congrArg₂ List.cons (erase_function f g k) (erase_functions gs _)

end Numbering

namespace Scope

mutual

theorem erase_expr : (e : Expr) → (σ : Scope) → (expr σ e).erase f = e.erase f
  | .var .., _ | .int .., _ | .float .., _ | .string .., _ | .bool .., _ | .brk .., _
  | .cont .., _ => rfl
  | .call _ callee args, σ => congrArg₂ (Expr.call _) (erase_expr callee σ) (erase_exprs args σ)
  | .methodCall _ receiver name s args, σ =>
      congrArg₂ (Expr.methodCall _ · name (f s) ·) (erase_expr receiver σ) (erase_exprs args σ)
  | .field _ subject name, σ => congrArg (Expr.field _ · name) (erase_expr subject σ)
  | .index _ subject position, σ =>
      congrArg₂ (Expr.index _) (erase_expr subject σ) (erase_expr position σ)
  | .unary _ op operand, σ => congrArg (Expr.unary _ op) (erase_expr operand σ)
  | .binary _ op left right, σ =>
      congrArg₂ (Expr.binary _ op) (erase_expr left σ) (erase_expr right σ)
  | .range _ lower upper, σ =>
      congrArg₂ (Expr.range _) (erase_optional lower σ) (erase_optional upper σ)
  | .array _ elems, σ => congrArg (Expr.array _) (erase_exprs elems σ)
  | .tuple _ elems, σ => congrArg (Expr.tuple _) (erase_exprs elems σ)
  | .macroCall _ name elems, σ => congrArg (Expr.macroCall _ name) (erase_exprs elems σ)
  | .closure _ ps body isMove, σ =>
      congrArg (Expr.closure _ (ps.map (Param.erase f)) · isMove)
        (erase_expr body (σ.bindParams ps))
  | .block _ body, σ => congrArg (Expr.block _) (erase_block body σ)
  | .loop _ body, σ => congrArg (Expr.loop _) (erase_block body σ)
  | .cond _ test yes no, σ => by
      have htest := erase_expr test σ
      have hyes := erase_block yes σ
      have hno := erase_optional no σ
      change Expr.cond _ _ _ _ = Expr.cond _ _ _ _
      rw [htest, hyes, hno]
  | .whileLoop _ test body, σ =>
      congrArg₂ (Expr.whileLoop _) (erase_expr test σ) (erase_block body σ)
  | .forLoop _ p iterable body, σ =>
      congrArg₂ (Expr.forLoop _ (p.erase f)) (erase_expr iterable σ)
        (erase_block body (σ.bind p))
  | .ret _ value, σ => congrArg (Expr.ret _) (erase_optional value σ)

theorem erase_exprs : (es : List Expr) → (σ : Scope) →
    eraseExprs f (exprs σ es) = eraseExprs f es
  | [], _ => rfl
  | e :: es, σ => congrArg₂ List.cons (erase_expr e σ) (erase_exprs es σ)

theorem erase_optional : (o : Option Expr) → (σ : Scope) →
    eraseOption f (optional σ o) = eraseOption f o
  | none, _ => rfl
  | some e, σ => congrArg some (erase_expr e σ)

theorem erase_stmts : (ss : List Stmt) → (σ : Scope) →
    eraseStmts f (stmts σ ss) = eraseStmts f ss
  | [], _ => rfl
  | .expr _ value :: ss, σ =>
      congrArg₂ (fun v vs => Stmt.expr _ v :: vs) (erase_expr value σ) (erase_stmts ss σ)
  | .letIn _ p declared value :: ss, σ =>
      congrArg₂ (fun v vs => Stmt.letIn _ (p.erase f) (declared.map (TypeExpr.erase f)) v :: vs)
        (erase_optional value σ) (erase_stmts ss (σ.bind p))

theorem erase_block : (b : Block) → (σ : Scope) → (block σ b).erase f = b.erase f
  | .mk _ ss tail, σ =>
      congrArg₂ (Block.mk _) (erase_stmts ss σ) (erase_optional tail (σ.afterStmts ss))

end

end Scope

mutual

theorem Expr.depth_erase : (e : Expr) → (e.erase f).depth = e.depth
  | .var .. | .int .. | .float .. | .string .. | .bool .. | .brk _ | .cont _ => rfl
  | .call _ callee args =>
      congrArg (· + 1) (congrArg₂ max callee.depth_erase (depthList_erase args))
  | .methodCall _ receiver _ _ args =>
      congrArg (· + 1) (congrArg₂ max receiver.depth_erase (depthList_erase args))
  | .field _ subject _ => congrArg (· + 1) subject.depth_erase
  | .index _ subject position =>
      congrArg (· + 1) (congrArg₂ max subject.depth_erase position.depth_erase)
  | .unary _ _ operand => congrArg (· + 1) operand.depth_erase
  | .binary _ _ left right =>
      congrArg₂ max left.depth_erase (congrArg (· + 1) right.depth_erase)
  | .range _ lower upper =>
      congrArg (· + 1) (congrArg₂ max (depthOption_erase lower) (depthOption_erase upper))
  | .array _ elems | .tuple _ elems | .macroCall _ _ elems =>
      congrArg (· + 1) (depthList_erase elems)
  | .closure _ _ body _ => congrArg (· + 1) body.depth_erase
  | .block _ body | .loop _ body => congrArg (· + 1) body.depth_erase
  | .cond _ test yes no => congrArg (· + 1)
      (congrArg₂ max (congrArg₂ max test.depth_erase yes.depth_erase) (depthOption_erase no))
  | .whileLoop _ test body => congrArg (· + 1) (congrArg₂ max test.depth_erase body.depth_erase)
  | .forLoop _ _ iterable body =>
      congrArg (· + 1) (congrArg₂ max iterable.depth_erase body.depth_erase)
  | .ret _ value => congrArg (· + 1) (depthOption_erase value)

theorem depthList_erase : (es : List Expr) → depthList (eraseExprs f es) = depthList es
  | [] => rfl
  | e :: es => congrArg₂ max e.depth_erase (depthList_erase es)

theorem depthOption_erase : (o : Option Expr) → depthOption (eraseOption f o) = depthOption o
  | none => rfl
  | some e => e.depth_erase

theorem Stmt.depth_erase : (s : Stmt) → (s.erase f).depth = s.depth
  | .expr _ value => value.depth_erase
  | .letIn _ _ _ value => depthOption_erase value

theorem depthStmts_erase : (ss : List Stmt) → depthStmts (eraseStmts f ss) = depthStmts ss
  | [] => rfl
  | s :: ss => congrArg₂ max s.depth_erase (depthStmts_erase ss)

theorem Block.depth_erase : (b : Block) → (b.erase f).depth = b.depth
  | .mk _ ss tail => congrArg₂ max (depthStmts_erase ss) (depthOption_erase tail)

end

namespace Module

theorem erase_number (m : Module) (start : NodeId) : (m.number start).1.erase f = m.erase f :=
  congrArg (Module.mk _ m.file) (Numbering.erase_functions f m.functions (start + 1))

theorem erase_resolve (m : Module) : m.resolve.erase f = m.erase f := by
  unfold resolve erase
  rw [List.map_map]
  congr 1
  refine List.map_congr_left fun g _ => ?_
  exact congrArg (Function.mk _ g.name _ · _) (Scope.erase_block f g.body _)

theorem depth_erase (m : Module) : (m.erase f).depth = m.depth := by
  rw [depth, depth, erase, List.foldl_map]
  simp only [Function.erase, Block.depth_erase]

end Module

end ChainLint.Tree

namespace ChainLint.Analysis

theorem erase_module (f : Span → Span) (m : Tree.Module) :
    (Analysis.ofModule m).module.erase f = m.erase f :=
  ((m.number 1).1.erase_resolve f).trans (m.erase_number f 1)

end ChainLint.Analysis
