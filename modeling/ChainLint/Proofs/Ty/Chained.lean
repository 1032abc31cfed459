import ChainLint.Proofs.Tree.Stacked
import ChainLint.Proofs.Ty.Entries
import ChainLint.Proofs.Ty.Pooling

namespace ChainLint

open Tree

namespace Pooled

section

variable {b : Basics}

structure Unrolls (b : Basics) (e : Expr) : Prop where
  typed : ∀ hint, expr b true e hint = expr b false e hint
  called : ∀ ids, resultOf b true e ids = resultOf b false e ids

theorem Unrolls.of {e : Expr} (h : ∀ hint, expr b true e hint = expr b false e hint)
    (he : isClosure e = false := by rfl) : Unrolls b e := by
  refine ⟨h, fun ids => ?_⟩
  rw [resultOf_eq b true he, resultOf_eq b false he, h]

theorem argument_unrolled {e : Expr} (h : Unrolls b e) (ask : Ask) :
    argument b true e ask = argument b false e ask := by
  cases ask with
  | type hint => rw [argument, argument, h.typed]
  | result ids => rw [argument, argument, h.called]
  | nothing => rw [argument, argument, h.typed, h.called]

mutual

theorem unrolls_expr : (e : Expr) → Unrolls b e
  | .int .. | .float .. | .string .. | .bool .. | .var .. | .brk _ | .cont _ => .of fun _ => by
      rw [expr, expr]
  | .call i callee args => .of fun _ => by
      rw [expr, expr]
      simp only [(unrolls_expr callee).typed, exprs_unrolled args]
  | .methodCall i receiver name s args => .of fun _ => by
      rw [expr, expr]
      simp only [(unrolls_expr receiver).typed, exprs_unrolled args]
  | .field i subject name => .of fun _ => by
      rw [expr, expr, (unrolls_expr subject).typed]
  | .index i subject position => .of fun _ => by
      rw [expr, expr]
      simp only [(unrolls_expr subject).typed, (unrolls_expr position).typed]
  | .unary i op operand => .of fun _ => by
      rw [expr, expr, (unrolls_expr operand).typed]
  | .binary i op left right => .of fun _ => by
      rw [expr_binary, expr_binary]
      simp only [(unrolls_expr left).typed, (unrolls_expr right).typed]
  | .range i lower upper => .of fun _ => by
      rw [expr, expr]
      simp only [optional_unrolled lower, optional_unrolled upper]
  | .array i elems | .macroCall i name elems => .of fun _ => by
      rw [expr, expr, exprs_unrolled elems]
  | .tuple i elems => .of fun _ => by
      rw [expr, expr]
      simp only [exprs_unrolled elems]
  | .closure i ps body isMove => by
      have hclosure (ids : List TypeId) :
          closure b true ps body ids = closure b false ps body ids := by
        rw [closure, closure]
        simp only [(unrolls_expr body).typed]
      exact ⟨fun _ => by rw [expr, expr, hclosure], fun _ => by rw [resultOf, resultOf, hclosure]⟩
  | .block i body => .of fun _ => by
      rw [expr, expr, block_unrolled body]
  | .cond i test yes no => .of fun _ => by
      rw [expr, expr]
      simp only [(unrolls_expr test).typed, block_unrolled yes, otherwise_unrolled no]
  | .whileLoop i test body => .of fun _ => by
      rw [expr, expr]
      simp only [(unrolls_expr test).typed, block_unrolled body]
  | .loop i body => .of fun _ => by
      rw [expr, expr, block_unrolled body]
  | .forLoop i p iterable body => .of fun _ => by
      rw [expr, expr]
      simp only [(unrolls_expr iterable).typed, block_unrolled body]
  | .ret i value => .of fun _ => by
      rw [expr, expr, optional_unrolled value]

theorem exprs_unrolled : (es : List Expr) → (first : List (Option Ask)) → (others : Option Ask) →
    exprs b true es first others = exprs b false es first others
  | [], _, _ => by rw [exprs, exprs]
  | e :: es, first, others => by
      rw [exprs, exprs]
      simp only [argument_unrolled (unrolls_expr e), exprs_unrolled es]

theorem optional_unrolled : (o : Option Expr) → optional b true o = optional b false o
  | none => by rw [optional, optional]
  | some e => by rw [optional, optional, (unrolls_expr e).typed]

theorem otherwise_unrolled : (o : Option Expr) → (id : TypeId) →
    otherwise b true o id = otherwise b false o id
  | none, _ => by rw [otherwise, otherwise]
  | some e, _ => by rw [otherwise, otherwise, (unrolls_expr e).typed]

theorem initializer_unrolled : (o : Option Expr) → (declared : Option TypeId) →
    initializer b true o declared = initializer b false o declared
  | none, _ => by rw [initializer, initializer]
  | some e, _ => by rw [initializer, initializer, (unrolls_expr e).typed]

theorem stmts_unrolled : (ss : List Stmt) → stmts b true ss = stmts b false ss
  | [] => by rw [stmts, stmts]
  | .expr _ value :: ss => by
      rw [stmts, stmts, (unrolls_expr value).typed, stmts_unrolled ss]
  | .letIn _ p declared value :: ss => by
      rw [stmts, stmts]
      simp only [initializer_unrolled value, stmts_unrolled ss]

theorem block_unrolled : (body : Block) → (hint : Option TypeId) →
    block b true body hint = block b false body hint
  | .mk _ ss none, _ => by rw [block, block, stmts_unrolled ss]
  | .mk _ ss (some tail), _ => by
      rw [block, block, stmts_unrolled ss, (unrolls_expr tail).typed]

end

theorem functions_unrolled (fs : List Function) : functions b true fs = functions b false fs := by
  induction fs with
  | nil => rfl
  | cons f fs ih => rw [functions, functions, block_unrolled, ih]

end

theorem module_unrolled (m : Module) : module true m = module false m := by
  simp only [module, functions_unrolled]

end Pooled

namespace Infer

theorem Typed.operands {τ : Typing} {left right : Expr} {x : Expected} {tys : List Ty}
    {vs : List Node} (h : Typed τ [.expr left, .expr right] [some .nothing] (some x) tys vs) :
    ∃ ty ty', tys = [ty, ty'] ∧ (left.info.id, ty) ∈ τ.exprs ∧ (right.info.id, ty') ∈ τ.exprs := by
  cases h with
  | skip hskip => cases hskip
  | cons _ _ _ hleft hrest =>
      cases hrest with
      | skip hskip => cases hskip
      | cons _ _ _ hright hnil =>
          cases hnil
          exact ⟨_, _, rfl, hleft, hright⟩

theorem Typed.binary {τ : Typing} {ns : List Node} {first : List (Option Expected)}
    {others : Option Expected} {tys : List Ty} {vs : List Node} (h : Typed τ ns first others tys vs)
    {i : Info} {op : BinaryOp} {left right : Expr} (hv : .expr (.binary i op left right) ∈ vs) :
    ∃ ty ty', (left.info.id, ty) ∈ τ.exprs ∧ (right.info.id, ty') ∈ τ.exprs ∧
      (i.id, if op.isLogical then .scalar .bool else ty) ∈ τ.exprs := by
  induction h with
  | nil => cases hv
  | skip _ _ ih => exact ih hv
  | @cons n ns first others x parts ty tys us vs _ hparts hsaid hnoted _ ihparts ihlater =>
      rcases List.mem_append.mp hv with hv | hv
      · rcases List.mem_append.mp hv with hv | hv
        · exact ihparts hv
        · -- The operator is this node itself, and its operands are the parts.
          have hself : Node.expr (.binary i op left right) = n :=
            List.mem_singleton.mp ((noted_sublist n).subset hv)
          subst hself
          obtain ⟨tyl, tyr, rfl, hleft, hright⟩ := Typed.operands hparts
          obtain rfl : ty = if op.isLogical then .scalar .bool else tyl := hsaid
          exact ⟨tyl, tyr, hleft, hright, hnoted⟩
      · exact ihlater hv

end Infer

namespace Analysis

theorem exprType?_operands (m : Module) {i : Info} {op : BinaryOp} {left right : Expr} {ty : Ty}
    (h : .expr (.binary i op left right) ∈ (Node.module (ofModule m).module).preorder)
    (hty : (ofModule m).typing.exprType? i.id = some ty) :
    ∃ tyl tyr, (ofModule m).typing.exprType? left.info.id = some tyl ∧
      (ofModule m).typing.exprType? right.info.id = some tyr ∧
      ty = if op.isLogical then .scalar .bool else tyl := by
  obtain ⟨_, vs, htyped, hknown⟩ := exists_typed m
  obtain ⟨tyl, tyr, hleft, hright, hself⟩ :=
    htyped.binary ((hknown _ h).mpr (Option.isSome_iff_exists.mpr ⟨ty, hty⟩))
  simp only [← exprType?_eq_some_iff] at hleft hright hself
  exact ⟨tyl, tyr, hleft, hright, Option.some.inj (hty.symm.trans hself)⟩

/-- Loops over chains of operators come to what recursion comes to. Names are resolved on the left and then
on the right. Types are found on the left with nothing expected, and then on the right with what the left
has expected, by the same numbers and with the same noted on the way as by recursion; these are the types
of the analysis, where each inner link of a chain has one if the outermost has. -/
theorem chains_unrolled (m : Module) :
    (Resolving.module m).run [] = some (m.resolve, []) ∧
    Pooled.module true m = Pooled.module false m ∧
    (∀ pool : TypePool, pool.Sound → (Node.module (ofModule m).module).Suffixed →
      ∃ c, (Pooled.module true (ofModule m).module).run ⟨{ pool := pool }, []⟩ = .ok ((), c) ∧
        c.now.Denotes (ofModule m).typing) ∧
    ∀ i op left right,
      Resolving.expr (.binary i op left right) = (do
        let left ← Resolving.expr left
        let right ← Resolving.expr right
        return .binary i op left right) ∧
      (∀ b unrolled hint, Pooled.expr b unrolled (.binary i op left right) hint = (do
        let id ← Pooled.expr b unrolled left none
        let _ ← Pooled.expr b unrolled right (some id)
        Pooled.record (.binary i op left right) (if op.isLogical then b.bool else id))) ∧
      ∀ ty, .expr (.binary i op left right) ∈ (Node.module (ofModule m).module).preorder →
        (ofModule m).typing.exprType? i.id = some ty →
        ∃ tyl tyr, (ofModule m).typing.exprType? left.info.id = some tyl ∧
          (ofModule m).typing.exprType? right.info.id = some tyr ∧
          ty = if op.isLogical then .scalar .bool else tyl := by
  refine ⟨Resolving.run_module m, Pooled.module_unrolled m, fun pool hpool hsuffixed => ?_,
    fun i op left right => ⟨Resolving.expr_binary i op left right, fun b unrolled hint =>
      Pooled.expr_binary b unrolled i op left right hint, fun ty => exprType?_operands m⟩⟩
  obtain ⟨c, hrun, hnow, -⟩ := Pooled.exists_run true hsuffixed hpool
  exact ⟨c, hrun, hnow⟩

end Analysis

end ChainLint
