import ChainLint.Proofs.Lint.Remaining
import ChainLint.Proofs.Tree.Restoring

namespace ChainLint.Tree

open MapUnwrapOr

section

variable (picks : Int → Bool)

theorem ofExpr?_resolve (σ : Scope) {e : Expr} (h : Chain.ofExpr? e = none) :
    Chain.ofExpr? (σ.expr e) = none := by
  cases hc : Chain.ofExpr? (σ.expr e) with
  | none => rfl
  | some c =>
      obtain ⟨i, j, receiver, nameSpan, mapper, s, fallback, he, -⟩ := ofExpr?_eq_some hc
      have hcall {e r : Expr} {i : Info} {name : String} {s : Span} {arg : Expr}
          (he : σ.expr e = .methodCall i r name s [arg]) : ∃ r' arg',
            e = .methodCall i r' name s [arg'] ∧ σ.expr r' = r := by
        cases e with
        | methodCall i' r' name' s' args =>
            obtain ⟨rfl, hr, rfl, rfl, hargs⟩ := Expr.methodCall.inj he
            rw [Scope.exprs_eq_map] at hargs
            obtain ⟨arg', rfl, -⟩ := List.map_eq_singleton_iff.mp hargs
            exact ⟨r', arg', rfl, hr⟩
        | _ => cases he
      obtain ⟨r', arg', rfl, hr⟩ := hcall he
      obtain ⟨r'', arg'', rfl, -⟩ := hcall hr
      cases h

theorem resolve_mergeChain (σ : Scope) (e : Expr) :
    σ.expr (mergeChain picks e) = mergeChain picks (σ.expr e) := by
  cases hc : Chain.ofExpr? e with
  | none => rw [mergeChain_of_none picks hc, mergeChain_of_none picks (ofExpr?_resolve σ hc)]
  | some c =>
      obtain ⟨i, j, receiver, nameSpan, mapper, s, fallback, rfl, -⟩ := ofExpr?_eq_some hc
      have hnone : isNonePath (σ.expr fallback) = isNonePath fallback := by cases fallback <;> rfl
      simp only [Scope.expr, Scope.exprs, mergeChain_chain, hnone]
      split
      · split <;> rfl
      · rfl

theorem afterStmts_mergeStmts (σ : Scope) (ss : List Stmt) :
    σ.afterStmts (mergeStmts picks ss) = σ.afterStmts ss := by
  induction ss generalizing σ with
  | nil => rfl
  | cons s ss ih => cases s <;> exact ih _

mutual

theorem resolve_mergeChains (σ : Scope) : (e : Expr) →
    σ.expr (e.mergeChains picks) = (σ.expr e).mergeChains picks
  | .methodCall i receiver name s args => by
      rw [Expr.mergeChains, resolve_mergeChain, Scope.expr, Scope.expr, Expr.mergeChains,
        resolve_mergeChains σ receiver, resolve_mergeExprs σ args]
  | .var .. | .int .. | .float .. | .string .. | .bool .. | .brk _ | .cont _ => rfl
  | .call _ callee args =>
      congrArg₂ (Expr.call _) (resolve_mergeChains σ callee) (resolve_mergeExprs σ args)
  | .field _ subject _ => congrArg (Expr.field _ · _) (resolve_mergeChains σ subject)
  | .index _ subject position =>
      congrArg₂ (Expr.index _) (resolve_mergeChains σ subject) (resolve_mergeChains σ position)
  | .unary _ _ operand => congrArg (Expr.unary _ _) (resolve_mergeChains σ operand)
  | .binary _ _ left right =>
      congrArg₂ (Expr.binary _ _) (resolve_mergeChains σ left) (resolve_mergeChains σ right)
  | .range _ lower upper =>
      congrArg₂ (Expr.range _) (resolve_mergeOption σ lower) (resolve_mergeOption σ upper)
  | .array _ elems => congrArg (Expr.array _) (resolve_mergeExprs σ elems)
  | .tuple _ elems => congrArg (Expr.tuple _) (resolve_mergeExprs σ elems)
  | .closure _ ps body _ =>
      congrArg (Expr.closure _ _ · _) (resolve_mergeChains (σ.bindParams ps) body)
  | .macroCall _ _ args => congrArg (Expr.macroCall _ _) (resolve_mergeExprs σ args)
  | .block _ body => congrArg (Expr.block _) (resolve_mergeBlock σ body)
  | .cond _ test yes no => by
      rw [Expr.mergeChains, Scope.expr, Scope.expr, Expr.mergeChains, resolve_mergeChains σ test,
        resolve_mergeBlock σ yes, resolve_mergeOption σ no]
  | .whileLoop _ test body =>
      congrArg₂ (Expr.whileLoop _) (resolve_mergeChains σ test) (resolve_mergeBlock σ body)
  | .loop _ body => congrArg (Expr.loop _) (resolve_mergeBlock σ body)
  | .forLoop _ p iterable body =>
      congrArg₂ (Expr.forLoop _ _) (resolve_mergeChains σ iterable)
        (resolve_mergeBlock (σ.bind p) body)
  | .ret _ value => congrArg (Expr.ret _) (resolve_mergeOption σ value)

theorem resolve_mergeExprs (σ : Scope) : (es : List Expr) →
    σ.exprs (mergeExprs picks es) = mergeExprs picks (σ.exprs es)
  | [] => rfl
  | e :: es => congrArg₂ List.cons (resolve_mergeChains σ e) (resolve_mergeExprs σ es)

theorem resolve_mergeOption (σ : Scope) : (o : Option Expr) →
    σ.optional (mergeOption picks o) = mergeOption picks (σ.optional o)
  | none => rfl
  | some e => congrArg some (resolve_mergeChains σ e)

theorem resolve_mergeStmts (σ : Scope) : (ss : List Stmt) →
    σ.stmts (mergeStmts picks ss) = mergeStmts picks (σ.stmts ss)
  | [] => rfl
  | .expr _ value :: ss => congrArg₂ List.cons
      (congrArg (Stmt.expr _) (resolve_mergeChains σ value)) (resolve_mergeStmts σ ss)
  | .letIn _ p _ value :: ss => congrArg₂ List.cons
      (congrArg (Stmt.letIn _ _ _) (resolve_mergeOption σ value)) (resolve_mergeStmts (σ.bind p) ss)

theorem resolve_mergeBlock (σ : Scope) : (b : Block) →
    σ.block (b.mergeChains picks) = (σ.block b).mergeChains picks
  | .mk _ ss tail => by
      rw [Block.mergeChains, Scope.block, Scope.block, Block.mergeChains, afterStmts_mergeStmts,
        resolve_mergeStmts σ ss, resolve_mergeOption _ tail]

end

theorem Module.resolve_mergeChains (m : Module) :
    (m.mergeChains picks).resolve = m.resolve.mergeChains picks := by
  refine congrArg (Module.mk _ _) ?_
  change (m.functions.map _).map _ = (m.functions.map _).map _
  rw [List.map_map, List.map_map]
  refine List.map_congr_left fun f _ => ?_
  exact congrArg (Function.mk _ _ _ · _) (resolve_mergeBlock picks _ f.body)

end

end ChainLint.Tree

namespace ChainLint.Analysis

open Tree

theorem exists_mergeChains (picks : Int → Bool) (m : Module) :
    ∃ g, Function.Injective g ∧ (ofModule m).module.mergeChains picks =
      (ofModule (m.mergeChains picks)).module.relabel (.following id g) := by
  have hspan : ∀ s : Span, (id s).lo = s.lo := fun _ => rfl
  let merged := (m.number 1).1.mergeChains picks
  have hanalysis : (merged.number 1).1.resolve = ((m.mergeChains picks).number 1).1.resolve := by
    refine Module.analysis_eq_of_erase ?_
    rw [Module.erase_mergeChains picks hspan, Module.erase_mergeChains picks hspan,
      Module.erase_number]
  have hids : (Node.module merged).ids.Nodup := by
    obtain ⟨l, hl, hsub⟩ := Node.ids_mergeChains picks (.module (m.number 1).1)
    refine hl.nodup_iff.mp (hsub.nodup ?_)
    rw [← Node.ids_resolve (.module (m.number 1).1) []]
    exact (ordered_module m).imp Int.ne_of_lt
  obtain ⟨g, hinjective, hg⟩ := Module.exists_renamed hids 1
  refine ⟨g, hinjective, ?_⟩
  calc (ofModule m).module.mergeChains picks
    _ = merged.resolve := (Module.resolve_mergeChains picks _).symm
    _ = ((merged.number 1).1.relabel (renamed g)).resolve := congrArg Module.resolve hg
    _ = (merged.number 1).1.resolve.relabel (.following id g) := Module.resolve_relabel _ _
    _ = (ofModule (m.mergeChains picks)).module.relabel (.following id g) :=
        congrArg (Module.relabel _) hanalysis

end ChainLint.Analysis
