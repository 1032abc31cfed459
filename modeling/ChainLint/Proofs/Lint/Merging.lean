import ChainLint.Proofs.Lint.Reports

namespace ChainLint.MapUnwrapOr

open Tree

def isNonePath : Expr → Bool
  | .var _ name _ => name = "None"
  | _ => false

def mergeChain (picks : Int → Bool) (e : Expr) : Expr :=
  match Chain.ofExpr? e with
  | some ⟨_, .expr receiver, _, .expr mapper, .expr fallback, nameSpan⟩ =>
      if picks nameSpan.lo then
        if isNonePath fallback then
          .methodCall e.info receiver Merge.andThen.methodName nameSpan [mapper]
        else .methodCall e.info receiver Merge.mapOr.methodName nameSpan [fallback, mapper]
      else e
  | _ => e

end ChainLint.MapUnwrapOr

namespace ChainLint.Tree

open MapUnwrapOr

variable (picks : Int → Bool)

mutual

def Expr.mergeChains : Expr → Expr
  | .methodCall i receiver name s args =>
      mergeChain picks (.methodCall i receiver.mergeChains name s (mergeExprs args))
  | .var i name binding => .var i name binding
  | .int i value suffix => .int i value suffix
  | .float i bits suffix => .float i bits suffix
  | .string i value => .string i value
  | .bool i value => .bool i value
  | .call i callee args => .call i callee.mergeChains (mergeExprs args)
  | .field i subject name => .field i subject.mergeChains name
  | .index i subject position => .index i subject.mergeChains position.mergeChains
  | .unary i op operand => .unary i op operand.mergeChains
  | .binary i op left right => .binary i op left.mergeChains right.mergeChains
  | .range i lower upper => .range i (mergeOption lower) (mergeOption upper)
  | .array i elems => .array i (mergeExprs elems)
  | .tuple i elems => .tuple i (mergeExprs elems)
  | .closure i ps body isMove => .closure i ps body.mergeChains isMove
  | .macroCall i name args => .macroCall i name (mergeExprs args)
  | .block i body => .block i body.mergeChains
  | .cond i test yes no => .cond i test.mergeChains yes.mergeChains (mergeOption no)
  | .whileLoop i test body => .whileLoop i test.mergeChains body.mergeChains
  | .loop i body => .loop i body.mergeChains
  | .forLoop i p iterable body => .forLoop i p iterable.mergeChains body.mergeChains
  | .ret i value => .ret i (mergeOption value)
  | .brk i => .brk i
  | .cont i => .cont i

def mergeExprs : List Expr → List Expr
  | [] => []
  | e :: es => e.mergeChains :: mergeExprs es

def mergeOption : Option Expr → Option Expr
  | none => none
  | some e => some e.mergeChains

def Stmt.mergeChains : Stmt → Stmt
  | .expr i value => .expr i value.mergeChains
  | .letIn i p declared value => .letIn i p declared (mergeOption value)

def mergeStmts : List Stmt → List Stmt
  | [] => []
  | s :: ss => s.mergeChains :: mergeStmts ss

def Block.mergeChains : Block → Block
  | .mk i ss tail => .mk i (mergeStmts ss) (mergeOption tail)

end

def Function.mergeChains (g : Function) : Function :=
  ⟨g.info, g.name, g.params, g.body.mergeChains picks, g.result⟩

def Module.mergeChains (m : Module) : Module :=
  ⟨m.info, m.file, m.functions.map (Function.mergeChains picks)⟩

@[simp] theorem isNonePath_erase (f : Span → Span) (e : Expr) :
    isNonePath (e.erase f) = isNonePath e := by
  cases e <;> rfl

theorem ofExpr?_eq_some {e : Expr} {c : Chain} (h : Chain.ofExpr? e = some c) :
    ∃ i j receiver nameSpan mapper s fallback, e = .methodCall i
      (.methodCall j receiver "map" nameSpan [mapper]) "unwrap_or" s [fallback] ∧
      c = ⟨.expr e, .expr receiver, .expr (.methodCall j receiver "map" nameSpan [mapper]),
        .expr mapper, .expr fallback, nameSpan⟩ := by
  have h : Chain.ofNode? (.expr e) = some c := h
  obtain ⟨i, j, receiver, mapper, fallback, s, hc, he⟩ := Chain.ofNode?_eq_some_iff.mp h
  refine ⟨i, j, receiver, c.nameSpan, mapper, s, fallback, ?_, hc⟩
  exact Node.expr.inj he

theorem ofExpr?_of_name {i : Info} {receiver : Expr} {name : String} {s : Span} {args : List Expr}
    (h : name ≠ "unwrap_or") : Chain.ofExpr? (.methodCall i receiver name s args) = none := by
  cases hc : Chain.ofExpr? (.methodCall i receiver name s args) with
  | none => rfl
  | some c =>
      obtain ⟨i', j, r, ns, f, s', a, he, -⟩ := ofExpr?_eq_some hc
      cases he
      exact absurd rfl h

theorem mergeChain_of_none {e : Expr} (h : Chain.ofExpr? e = none) : mergeChain picks e = e := by
  rw [mergeChain, h]

theorem mergeChain_chain (i j : Info) (receiver : Expr) (nameSpan : Span) (mapper : Expr) (s : Span)
    (fallback : Expr) : mergeChain picks (.methodCall i
      (.methodCall j receiver "map" nameSpan [mapper]) "unwrap_or" s [fallback]) =
      if picks nameSpan.lo then
        if isNonePath fallback then .methodCall i receiver "and_then" nameSpan [mapper]
        else .methodCall i receiver "map_or" nameSpan [fallback, mapper]
      else .methodCall i (.methodCall j receiver "map" nameSpan [mapper]) "unwrap_or" s
        [fallback] := rfl

theorem ofExpr?_erase (f : Span → Span) {e : Expr} (h : Chain.ofExpr? e = none) :
    Chain.ofExpr? (e.erase f) = none := by
  cases hc : Chain.ofExpr? (e.erase f) with
  | none => rfl
  | some c =>
      obtain ⟨i, j, receiver, nameSpan, mapper, s, fallback, he, -⟩ := ofExpr?_eq_some hc
      have hcall {e r : Expr} {i : Info} {name : String} {s : Span} {arg : Expr}
          (he : e.erase f = .methodCall i r name s [arg]) : ∃ i' r' s' arg',
            e = .methodCall i' r' name s' [arg'] ∧ r'.erase f = r := by
        cases e with
        | methodCall i' r' name' s' args =>
            obtain ⟨-, hr, rfl, -, hargs⟩ := Expr.methodCall.inj he
            rw [eraseExprs_eq] at hargs
            obtain ⟨arg', rfl, -⟩ := List.map_eq_singleton_iff.mp hargs
            exact ⟨i', r', s', arg', rfl, hr⟩
        | _ => cases he
      obtain ⟨i', r', s', arg', rfl, hr⟩ := hcall he
      obtain ⟨i'', r'', s'', arg'', rfl, -⟩ := hcall hr
      cases h

theorem erase_mergeChain {f : Span → Span} (hf : ∀ s, (f s).lo = s.lo) (e : Expr) :
    (mergeChain picks e).erase f = mergeChain picks (e.erase f) := by
  cases hc : Chain.ofExpr? e with
  | none => rw [mergeChain_of_none picks hc, mergeChain_of_none picks (ofExpr?_erase f hc)]
  | some c =>
      obtain ⟨i, j, receiver, nameSpan, mapper, s, fallback, rfl, -⟩ := ofExpr?_eq_some hc
      simp only [Expr.erase, eraseExprs, mergeChain_chain, hf, isNonePath_erase]
      split
      · split <;> rfl
      · rfl

section

variable {f : Span → Span}

mutual

theorem erase_mergeChains (hf : ∀ s, (f s).lo = s.lo) : (e : Expr) →
    (e.mergeChains picks).erase f = (e.erase f).mergeChains picks
  | .methodCall i receiver name s args => by
      rw [Expr.mergeChains, erase_mergeChain picks hf, Expr.erase, Expr.erase, Expr.mergeChains,
        erase_mergeChains hf receiver, erase_mergeExprs hf args]
  | .var .. | .int .. | .float .. | .string .. | .bool .. | .brk _ | .cont _ => rfl
  | .call _ callee args =>
      congrArg₂ (Expr.call _) (erase_mergeChains hf callee) (erase_mergeExprs hf args)
  | .field _ subject _ => congrArg (Expr.field _ · _) (erase_mergeChains hf subject)
  | .index _ subject position =>
      congrArg₂ (Expr.index _) (erase_mergeChains hf subject) (erase_mergeChains hf position)
  | .unary _ _ operand => congrArg (Expr.unary _ _) (erase_mergeChains hf operand)
  | .binary _ _ left right =>
      congrArg₂ (Expr.binary _ _) (erase_mergeChains hf left) (erase_mergeChains hf right)
  | .range _ lower upper =>
      congrArg₂ (Expr.range _) (erase_mergeOption hf lower) (erase_mergeOption hf upper)
  | .array _ elems => congrArg (Expr.array _) (erase_mergeExprs hf elems)
  | .tuple _ elems => congrArg (Expr.tuple _) (erase_mergeExprs hf elems)
  | .closure _ _ body _ => congrArg (Expr.closure _ _ · _) (erase_mergeChains hf body)
  | .macroCall _ _ args => congrArg (Expr.macroCall _ _) (erase_mergeExprs hf args)
  | .block _ body => congrArg (Expr.block _) (erase_mergeBlock hf body)
  | .cond _ test yes no => by
      change Expr.cond _ _ _ _ = Expr.cond _ _ _ _
      rw [erase_mergeChains hf test, erase_mergeBlock hf yes, erase_mergeOption hf no]
  | .whileLoop _ test body =>
      congrArg₂ (Expr.whileLoop _) (erase_mergeChains hf test) (erase_mergeBlock hf body)
  | .loop _ body => congrArg (Expr.loop _) (erase_mergeBlock hf body)
  | .forLoop _ _ iterable body =>
      congrArg₂ (Expr.forLoop _ _) (erase_mergeChains hf iterable) (erase_mergeBlock hf body)
  | .ret _ value => congrArg (Expr.ret _) (erase_mergeOption hf value)

theorem erase_mergeExprs (hf : ∀ s, (f s).lo = s.lo) : (es : List Expr) →
    eraseExprs f (mergeExprs picks es) = mergeExprs picks (eraseExprs f es)
  | [] => rfl
  | e :: es => congrArg₂ List.cons (erase_mergeChains hf e) (erase_mergeExprs hf es)

theorem erase_mergeOption (hf : ∀ s, (f s).lo = s.lo) : (o : Option Expr) →
    eraseOption f (mergeOption picks o) = mergeOption picks (eraseOption f o)
  | none => rfl
  | some e => congrArg some (erase_mergeChains hf e)

theorem erase_mergeStmt (hf : ∀ s, (f s).lo = s.lo) : (s : Stmt) → (s.mergeChains picks).erase f = (s.erase f).mergeChains picks
  | .expr _ value => congrArg (Stmt.expr _) (erase_mergeChains hf value)
  | .letIn _ _ _ value => congrArg (Stmt.letIn _ _ _) (erase_mergeOption hf value)

theorem erase_mergeStmts (hf : ∀ s, (f s).lo = s.lo) : (ss : List Stmt) →
    eraseStmts f (mergeStmts picks ss) = mergeStmts picks (eraseStmts f ss)
  | [] => rfl
  | s :: ss => congrArg₂ List.cons (erase_mergeStmt hf s) (erase_mergeStmts hf ss)

theorem erase_mergeBlock (hf : ∀ s, (f s).lo = s.lo) : (b : Block) →
    (b.mergeChains picks).erase f = (b.erase f).mergeChains picks
  | .mk _ ss tail => congrArg₂ (Block.mk _) (erase_mergeStmts hf ss) (erase_mergeOption hf tail)

end

theorem Module.erase_mergeChains (hf : ∀ s, (f s).lo = s.lo) (m : Module) :
    (m.mergeChains picks).erase f = (m.erase f).mergeChains picks := by
  rw [Module.mergeChains, Module.erase, Module.erase, Module.mergeChains]
  simp only [List.map_map]
  congr 1
  refine List.map_congr_left fun g _ => ?_
  exact congrArg (Function.mk _ g.name _ · _) (erase_mergeBlock picks hf g.body)

end

end ChainLint.Tree
