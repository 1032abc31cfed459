import ChainLint.Proofs.Tree.Relabelling

namespace ChainLint.Tree

namespace Numbering

set_option linter.unusedSectionVars false

variable {α β γ δ : Type} {f : Span → Span} {g : NodeId → NodeId}

def Follows (g : NodeId → NodeId) (φ : α → β) (a : Numbering α) (b : Numbering β) : Prop :=
  ∀ k, b.run (g k) = (φ (a.run k).1, g (a.run k).2)

theorem Follows.pure {φ : α → β} {x : α} {y : β} (h : y = φ x) :
    Follows g φ (pure x) (pure y) := by
  rw [h]
  exact fun _ => rfl

theorem Follows.bind {φ : α → β} {ψ : γ → δ} {a : Numbering α} {b : Numbering β}
    {u : α → Numbering γ} {v : β → Numbering δ} (h : Follows g φ a b)
    (huv : ∀ x, Follows g ψ (u x) (v (φ x))) : Follows g ψ (a >>= u) (b >>= v) := by
  intro k
  have hb := h k
  change (v (b.run (g k)).1).run (b.run (g k)).2 = _
  rw [hb]
  exact huv (a.run k).1 (a.run k).2

theorem Follows.map {φ : α → β} {ψ : γ → δ} {a : Numbering α} {b : Numbering β}
    {u : α → γ} {v : β → δ} (h : Follows g φ a b) (huv : ∀ x, v (φ x) = ψ (u x)) :
    Follows g ψ (a >>= fun x => Pure.pure (u x)) (b >>= fun x => Pure.pure (v x)) :=
  h.bind fun x => .pure (huv x)

variable (f) (hg : ∀ k, g (k + 1) = g k + 1)

include hg

theorem follows_next (i : Info) :
    Follows g (Info.relabel f g) (next i) (next (i.erase f)) := by
  intro k
  change ((⟨g k, f i.span⟩ : Info), g k + 1) = _
  rw [← hg]
  rfl

mutual

theorem follows_pat : (p : Pat) → Follows g (Pat.relabel f g) (pat p) (pat (p.erase f))
  | .binding i _ _ | .wild i => (follows_next f hg i).map fun _ => rfl
  | .tuple i elems => (follows_next f hg i).bind fun _ => (follows_pats elems).map fun _ => rfl

theorem follows_pats : (ps : List Pat) →
    Follows g (relabelPats f g) (pats ps) (pats (erasePats f ps))
  | [] => .pure rfl
  | p :: ps => (follows_pat p).bind fun _ => (follows_pats ps).map fun _ => rfl

end

theorem follows_param (p : Param) :
    Follows g (Param.relabel f g) (param p) (param (p.erase f)) :=
  (follows_next f hg p.info).bind fun _ => (follows_pat f hg p.pattern).map fun _ => rfl

theorem follows_params : (ps : List Param) → Follows g (List.map (Param.relabel f g))
    (params ps) (params (ps.map (Param.erase f)))
  | [] => .pure rfl
  | p :: ps => (follows_param f hg p).bind fun _ => (follows_params ps).map fun _ => rfl

mutual

theorem follows_expr : (e : Expr) →
    Follows g (Expr.relabel (.unbound f g)) (expr e) (expr (e.erase f))
  | .var i _ _ | .int i _ _ | .float i _ _ | .string i _ | .bool i _ | .brk i | .cont i =>
      (follows_next f hg i).map fun _ => rfl
  | .call i callee args =>
      (follows_next f hg i).bind fun _ => (follows_expr callee).bind fun _ =>
        (follows_exprs args).map fun _ => rfl
  | .methodCall i receiver _ _ args =>
      (follows_next f hg i).bind fun _ => (follows_expr receiver).bind fun _ =>
        (follows_exprs args).map fun _ => rfl
  | .field i subject _ => (follows_next f hg i).bind fun _ => (follows_expr subject).map fun _ => rfl
  | .index i subject position =>
      (follows_next f hg i).bind fun _ => (follows_expr subject).bind fun _ =>
        (follows_expr position).map fun _ => rfl
  | .unary i _ operand =>
      (follows_next f hg i).bind fun _ => (follows_expr operand).map fun _ => rfl
  | .binary i _ left right =>
      (follows_next f hg i).bind fun _ => (follows_expr left).bind fun _ =>
        (follows_expr right).map fun _ => rfl
  | .range i lower upper =>
      (follows_next f hg i).bind fun _ => (follows_optional lower).bind fun _ =>
        (follows_optional upper).map fun _ => rfl
  | .array i elems | .tuple i elems | .macroCall i _ elems =>
      (follows_next f hg i).bind fun _ => (follows_exprs elems).map fun _ => rfl
  | .closure i ps body _ =>
      (follows_next f hg i).bind fun _ => (follows_params f hg ps).bind fun _ =>
        (follows_expr body).map fun _ => rfl
  | .block i body | .loop i body =>
      (follows_next f hg i).bind fun _ => (follows_block body).map fun _ => rfl
  | .cond i test yes no =>
      (follows_next f hg i).bind fun _ => (follows_expr test).bind fun _ =>
        (follows_block yes).bind fun _ => (follows_optional no).map fun _ => rfl
  | .whileLoop i test body =>
      (follows_next f hg i).bind fun _ => (follows_expr test).bind fun _ =>
        (follows_block body).map fun _ => rfl
  | .forLoop i p iterable body =>
      (follows_next f hg i).bind fun _ => (follows_pat f hg p).bind fun _ =>
        (follows_expr iterable).bind fun _ => (follows_block body).map fun _ => rfl
  | .ret i value => (follows_next f hg i).bind fun _ => (follows_optional value).map fun _ => rfl

theorem follows_exprs : (es : List Expr) →
    Follows g (relabelExprs (.unbound f g)) (exprs es) (exprs (eraseExprs f es))
  | [] => .pure rfl
  | e :: es => (follows_expr e).bind fun _ => (follows_exprs es).map fun _ => rfl

theorem follows_optional : (o : Option Expr) →
    Follows g (relabelOption (.unbound f g)) (optional o) (optional (eraseOption f o))
  | none => .pure rfl
  | some e => (follows_expr e).map fun _ => rfl

theorem follows_stmt : (s : Stmt) →
    Follows g (Stmt.relabel (.unbound f g)) (stmt s) (stmt (s.erase f))
  | .expr i value => (follows_next f hg i).bind fun _ => (follows_expr value).map fun _ => rfl
  | .letIn i p _ value =>
      (follows_next f hg i).bind fun _ => (follows_pat f hg p).bind fun _ =>
        (follows_optional value).map fun _ => rfl

theorem follows_stmts : (ss : List Stmt) →
    Follows g (relabelStmts (.unbound f g)) (stmts ss) (stmts (eraseStmts f ss))
  | [] => .pure rfl
  | s :: ss => (follows_stmt s).bind fun _ => (follows_stmts ss).map fun _ => rfl

theorem follows_block : (b : Block) →
    Follows g (Block.relabel (.unbound f g)) (block b) (block (b.erase f))
  | .mk i ss tail =>
      (follows_next f hg i).bind fun _ => (follows_stmts ss).bind fun _ =>
        (follows_optional tail).map fun _ => rfl

end

theorem follows_function (h : Function) :
    Follows g (Function.relabel (.unbound f g)) (function h) (function (h.erase f)) :=
  (follows_next f hg h.info).bind fun _ => (follows_params f hg h.params).bind fun _ =>
    (follows_block f hg h.body).map fun _ => rfl

theorem follows_functions : (hs : List Function) →
    Follows g (List.map (Function.relabel (.unbound f g))) (functions hs)
      (functions (hs.map (Function.erase f)))
  | [] => .pure rfl
  | h :: hs => (follows_function f hg h).bind fun _ => (follows_functions hs).map fun _ => rfl

theorem follows_module (m : Module) :
    Follows g (Module.relabel (.unbound f g)) (module m) (module (m.erase f)) :=
  (follows_next f hg m.info).bind fun _ => (follows_functions f hg m.functions).map fun _ => rfl

end Numbering

namespace Scope

section

variable (f : Span → Span) (g : NodeId → NodeId)

def relabel (σ : Scope) : Scope := σ.map fun b => (b.1, g b.2)

mutual

theorem bind_relabel (σ : Scope) : (p : Pat) →
    (σ.relabel g).bind (p.relabel f g) = (σ.bind p).relabel g
  | .binding .. | .wild _ => rfl
  | .tuple _ elems => bindAll_relabel σ elems

theorem bindAll_relabel (σ : Scope) : (ps : List Pat) →
    (σ.relabel g).bindAll (relabelPats f g ps) = (σ.bindAll ps).relabel g
  | [] => rfl
  | p :: ps => by
      rw [relabelPats, bindAll, bind_relabel σ p, bindAll_relabel _ ps, bindAll]

end

theorem bindParams_relabel (σ : Scope) (ps : List Param) :
    (σ.relabel g).bindParams (ps.map (Param.relabel f g)) = (σ.bindParams ps).relabel g := by
  rw [bindParams, bindParams, ← bindAll_relabel, relabelPats_eq, List.map_map, List.map_map]
  rfl

theorem find?_relabel (σ : Scope) (name : String) :
    (σ.relabel g).find? name = (σ.find? name).map g := by
  have hlookup : (σ.relabel g).lookup name = (σ.lookup name).map g := by
    induction σ with
    | nil => rfl
    | cons b σ ih =>
        rw [relabel, List.map_cons, List.lookup_cons, List.lookup_cons, ← relabel, ih]
        cases name == b.1 <;> rfl
  unfold find?
  rw [hlookup]
  split <;> rfl

end

variable (r : Relabelling)

theorem afterStmts_relabel (σ : Scope) (ss : List Stmt) :
    (σ.relabel r.id).afterStmts (relabelStmts r ss) = (σ.afterStmts ss).relabel r.id := by
  induction ss generalizing σ with
  | nil => rfl
  | cons s ss ih =>
      cases s with
      | expr i value => exact ih σ
      | letIn i p declared value =>
          rw [relabelStmts, Stmt.relabel, afterStmts, bind_relabel, ih, afterStmts]

mutual

theorem expr_relabel (σ : Scope) : (e : Expr) →
    expr (σ.relabel r.id) (e.relabel r) = (expr σ e).relabel (.following r.span r.id)
  | .var i name _ => congrArg (Expr.var (i.relabel r.span r.id) name) (find?_relabel r.id σ name)
  | .int .. | .float .. | .string .. | .bool .. | .brk _ | .cont _ => rfl
  | .call _ callee args => congrArg₂ (Expr.call _) (expr_relabel σ callee) (exprs_relabel σ args)
  | .methodCall _ receiver name s args =>
      congrArg₂ (Expr.methodCall _ · name (r.span s) ·) (expr_relabel σ receiver)
        (exprs_relabel σ args)
  | .field _ subject name => congrArg (Expr.field _ · name) (expr_relabel σ subject)
  | .index _ subject position =>
      congrArg₂ (Expr.index _) (expr_relabel σ subject) (expr_relabel σ position)
  | .unary _ op operand => congrArg (Expr.unary _ op) (expr_relabel σ operand)
  | .binary _ op left right =>
      congrArg₂ (Expr.binary _ op) (expr_relabel σ left) (expr_relabel σ right)
  | .range _ lower upper =>
      congrArg₂ (Expr.range _) (optional_relabel σ lower) (optional_relabel σ upper)
  | .array _ elems => congrArg (Expr.array _) (exprs_relabel σ elems)
  | .tuple _ elems => congrArg (Expr.tuple _) (exprs_relabel σ elems)
  | .macroCall _ name elems => congrArg (Expr.macroCall _ name) (exprs_relabel σ elems)
  | .closure _ ps body isMove => by
      have hbody := expr_relabel (σ.bindParams ps) body
      rw [← bindParams_relabel r.span] at hbody
      exact congrArg (Expr.closure _ (ps.map (Param.relabel r.span r.id)) · isMove) hbody
  | .block _ body => congrArg (Expr.block _) (block_relabel σ body)
  | .cond _ test yes no => by
      change Expr.cond _ _ _ _ = Expr.cond _ _ _ _
      rw [expr_relabel σ test, block_relabel σ yes, optional_relabel σ no]
      rfl
  | .whileLoop _ test body =>
      congrArg₂ (Expr.whileLoop _) (expr_relabel σ test) (block_relabel σ body)
  | .loop _ body => congrArg (Expr.loop _) (block_relabel σ body)
  | .forLoop _ p iterable body => by
      have hbody := block_relabel (σ.bind p) body
      rw [← bind_relabel r.span] at hbody
      exact congrArg₂ (Expr.forLoop _ (p.relabel r.span r.id)) (expr_relabel σ iterable) hbody
  | .ret _ value => congrArg (Expr.ret _) (optional_relabel σ value)

theorem exprs_relabel (σ : Scope) : (es : List Expr) →
    exprs (σ.relabel r.id) (relabelExprs r es) = relabelExprs (.following r.span r.id) (exprs σ es)
  | [] => rfl
  | e :: es => congrArg₂ List.cons (expr_relabel σ e) (exprs_relabel σ es)

theorem optional_relabel (σ : Scope) : (o : Option Expr) →
    optional (σ.relabel r.id) (relabelOption r o) =
      relabelOption (.following r.span r.id) (optional σ o)
  | none => rfl
  | some e => congrArg some (expr_relabel σ e)

theorem stmts_relabel (σ : Scope) : (ss : List Stmt) →
    stmts (σ.relabel r.id) (relabelStmts r ss) = relabelStmts (.following r.span r.id) (stmts σ ss)
  | [] => rfl
  | .expr _ value :: ss =>
      congrArg₂ (fun v vs => Stmt.expr _ v :: vs) (expr_relabel σ value) (stmts_relabel σ ss)
  | .letIn _ p declared value :: ss => by
      have hrest := stmts_relabel (σ.bind p) ss
      rw [← bind_relabel r.span] at hrest
      exact congrArg₂ (fun v vs => Stmt.letIn _ (p.relabel r.span r.id)
        (declared.map (TypeExpr.erase r.span)) v :: vs) (optional_relabel σ value) hrest

theorem block_relabel (σ : Scope) : (b : Block) →
    block (σ.relabel r.id) (b.relabel r) = (block σ b).relabel (.following r.span r.id)
  | .mk _ ss tail => by
      have htail := optional_relabel (σ.afterStmts ss) tail
      rw [← afterStmts_relabel] at htail
      exact congrArg₂ (Block.mk _) (stmts_relabel σ ss) htail

end

theorem function_relabel (h : Function) :
    function (h.relabel r) = (function h).relabel (.following r.span r.id) := by
  have hbody := block_relabel r (bindParams [] h.params) h.body
  rw [← bindParams_relabel r.span] at hbody
  exact congrArg (Function.mk _ h.name (h.params.map (Param.relabel r.span r.id)) · _) hbody

end Scope

namespace Module

theorem resolve_relabel (r : Relabelling) (m : Module) :
    (m.relabel r).resolve = m.resolve.relabel (.following r.span r.id) := by
  refine congrArg (Module.mk _ m.file) ?_
  change ((m.functions.map _).map _) = ((m.functions.map _).map _)
  rw [List.map_map, List.map_map]
  exact List.map_congr_left fun h _ => Scope.function_relabel r h

theorem analysis_erase (f : Span → Span) (m : Module) :
    ((m.erase f).number 1).1.resolve = (m.number 1).1.resolve.relabel (.following f id) := by
  have hnumber : (m.erase f).number 1 = _ := Numbering.follows_module f (g := id) (fun _ => rfl) m 1
  rw [hnumber]
  exact resolve_relabel (.unbound f id) _

end Module

end ChainLint.Tree
