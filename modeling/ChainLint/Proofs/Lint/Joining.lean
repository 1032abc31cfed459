import ChainLint.Proofs.Grammar.Calls
import ChainLint.Proofs.Lint.Merging
import ChainLint.Proofs.Tree.Placing

namespace ChainLint

open MapUnwrapOr

namespace Surface

open Tree.Build

theorem Expr.pair?_eq_some {e : Expr} {p : CallPair} (h : e.pair? = some p) :
    spell p.method = "map" ∧ ∃ name x y, spell name = "unwrap_or" ∧
      e = .methodCall (.methodCall p.receiver p.method [p.mapper] y) name [p.fallback] x := by
  cases e with
  | methodCall receiver name args x =>
      obtain ⟨hm, hn, rfl, y, rfl⟩ := CallPair.of?_eq_some h
      exact ⟨hm, name, x, y, hn, rfl⟩
  | _ => cases h

theorem Expr.bare_ne_paren (inner : Expr) (x : Extent) : (e : Expr) → e.bare ≠ .paren inner x
  | .paren inner' _ => bare_ne_paren inner x inner'
  | .int _ | .float _ | .string _ | .bool _ _ | .path _ _ | .macroCall _ _ _ | .tuple _ _
  | .array _ _ | .block _ | .cond _ _ _ _ | .whileLoop _ _ _ | .loop _ _ | .forLoop _ _ _ _
  | .ret _ _ | .brk _ | .cont _ | .unary _ _ _ | .binary _ _ _ _ | .range _ _ _ | .call _ _ _
  | .methodCall _ _ _ _ | .field _ _ _ | .index _ _ _ | .closure _ _ _ _ => nofun

end Surface

namespace Tree

open Surface Build

section

variable (file : Option String)

theorem fallsToNone_eq (p : CallPair) :
    p.fallsToNone = isNonePath (Plain.expr file p.fallback) := by
  rw [← Plain.expr_bare, CallPair.fallsToNone]
  cases hbare : p.fallback.bare with
  | int t =>
      change false = isNonePath (Plain.intExpr file t)
      unfold Plain.intExpr
      split <;> rfl
  | string t =>
      change false = isNonePath (Plain.stringExpr file t)
      unfold Plain.stringExpr
      split <;> rfl
  | paren inner x => exact absurd hbare (Expr.bare_ne_paren inner x p.fallback)
  | _ => rfl

theorem chain_of_pair {e : Surface.Expr} {p : CallPair} (h : e.pair? = some p) :
    ∃ c, Chain.ofExpr? (Plain.expr file e) = some c ∧ c.nameSpan = spanOf file (.ofToken p.method) := by
  obtain ⟨hm, name, x, y, hn, rfl⟩ := Expr.pair?_eq_some h
  have hplain : Plain.expr file (.methodCall (.methodCall p.receiver p.method [p.mapper] y) name
      [p.fallback] x) = .methodCall (infoOf file x) (.methodCall (infoOf file y)
        (Plain.expr file p.receiver) (spell p.method) (spanOf file (.ofToken p.method))
        [Plain.expr file p.mapper]) (spell name) (spanOf file (.ofToken name))
        [Plain.expr file p.fallback] := rfl
  rw [hplain, hm, hn]
  exact ⟨_, rfl, rfl⟩

end

section

variable (picks : Int → Bool)

theorem endsInBlock_join : (e : Surface.Expr) →
    Builds.endsInBlock (e.join picks) = Builds.endsInBlock e
  | .methodCall receiver name args x => by
      obtain ⟨-, h⟩ | ⟨p, y, -, -, -, -, h⟩ := Expr.join_call picks receiver name args x
      · rw [h]
        rfl
      · rw [h]
        split <;> rfl
  | .paren inner _ => endsInBlock_join inner
  | .int _ | .float _ | .string _ | .bool _ _ | .path _ _ | .macroCall _ _ _ | .tuple _ _
  | .array _ _ | .block _ | .cond _ _ _ _ | .whileLoop _ _ _ | .loop _ _ | .forLoop _ _ _ _
  | .ret _ _ | .brk _ | .cont _ | .unary _ _ _ | .binary _ _ _ _ | .range _ _ _ | .call _ _ _
  | .field _ _ _ | .index _ _ _ | .closure _ _ _ _ => rfl

theorem moreItems_join (is : List Item) : moreItems (joinItems picks is) = moreItems is := by
  have hall : (joinItems picks is).all isEmptyItem = is.all isEmptyItem := by
    induction is with
    | nil => rfl
    | cons i is ih =>
        rw [joinItems, List.all_cons, List.all_cons, ih]
        cases i <;> rfl
  rw [moreItems, moreItems, hall]

theorem builds_of_fallsToNone {p : CallPair} (h : p.fallsToNone = true) :
    Builds.expr p.fallback = true := by
  rw [← Builds.expr_bare]
  unfold CallPair.fallsToNone at h
  split at h
  · next hpath => rw [hpath, Builds.expr]
  · cases h

mutual

theorem builds_join : (e : Surface.Expr) → Builds.expr (e.join picks) = Builds.expr e
  | .methodCall receiver name args x => by
      obtain ⟨-, h⟩ | ⟨p, y, -, hm, rfl, rfl, h⟩ := Expr.join_call picks receiver name args x
      · rw [h, Builds.expr, Builds.expr, builds_join receiver, builds_joinAll args]
      · have hparts := builds_join (.methodCall p.receiver p.method [p.mapper] y)
        rw [Expr.join_map picks hm] at hparts
        simp only [Builds.expr, Builds.exprs, Bool.and_true] at hparts
        rw [h]
        split
        · next hnone =>
            simp only [Builds.expr, Builds.exprs, Bool.and_true, builds_of_fallsToNone hnone]
            exact hparts
        · simp only [Builds.expr, Builds.exprs, Bool.and_true, Builds.expr_bare]
          rw [← hparts]
          cases Builds.expr p.fallback <;> simp
  | .int _ | .float _ | .string _ | .bool _ _ | .path _ _ | .brk _ | .cont _ => rfl
  | .macroCall _ args _ => builds_joinAll args
  | .paren inner _ => builds_join inner
  | .tuple elems _ | .array elems _ => builds_joinAll elems
  | .block body | .loop body _ => builds_joinBlock body
  | .cond test yes no _ =>
      congrArg₂ and (builds_join test) (congrArg₂ and (builds_joinBlock yes) (builds_joinOption no))
  | .whileLoop test body _ => congrArg₂ and (builds_join test) (builds_joinBlock body)
  | .forLoop _ iterable body _ => congrArg₂ and (builds_join iterable) (builds_joinBlock body)
  | .ret value _ => builds_joinOption value
  | .unary _ operand _ => builds_join operand
  | .binary _ left right _ => congrArg₂ and (builds_join left) (builds_join right)
  | .range lower upper _ => congrArg₂ and (builds_joinOption lower) (builds_joinOption upper)
  | .call callee args _ => congrArg₂ and (builds_join callee) (builds_joinAll args)
  | .field subject _ _ => builds_join subject
  | .index subject position _ => congrArg₂ and (builds_join subject) (builds_join position)
  | .closure _ _ body _ => builds_join body

theorem builds_joinAll : (es : List Surface.Expr) → Builds.exprs (joinAll picks es) = Builds.exprs es
  | [] => rfl
  | e :: es => congrArg₂ and (builds_join e) (builds_joinAll es)

theorem builds_joinOption : (o : Option Surface.Expr) →
    Builds.optional (joinOption picks o) = Builds.optional o
  | none => rfl
  | some e => builds_join e

theorem builds_joinBlock : (b : Surface.Block) → Builds.block (b.join picks) = Builds.block b
  | .mk items _ => builds_joinItems items

theorem builds_joinItems : (is : List Item) → Builds.stmts (joinItems picks is) = Builds.stmts is
  | [] => rfl
  | .empty _ :: rest => builds_joinItems rest
  | .letItem _ _ value _ :: rest => congrArg₂ and (builds_joinOption value) (builds_joinItems rest)
  | .exprItem value semi x :: rest => by
      rw [joinItems, Item.join, Builds.stmts, Builds.stmts, builds_join value, endsInBlock_join,
        moreItems_join, builds_joinItems rest]

end

def Ready (file : Option String) (e : Surface.Expr) : Prop :=
  ∀ c, Chain.ofExpr? (Plain.expr file e) = some c → picks c.nameSpan.lo = true →
    ∃ p, e.joins? picks = some p

theorem not_joins_of_unpicked {e : Surface.Expr} (h : e.isPicked picks = false) :
    e.joins? picks = none := by
  cases hp : e.joins? picks with
  | none => rfl
  | some p =>
      obtain ⟨hpair, hpick, -⟩ := Surface.Expr.joins?_eq_some picks hp
      rw [Surface.Expr.isPicked, hpair, Option.any_some, hpick] at h
      cases h

theorem mergeChain_of_name {i : Info} {s : Span} {name : String} {receiver : Expr} {args : List Expr}
    (h : name ≠ "unwrap_or") :
    mergeChain picks (.methodCall i receiver name s args) = .methodCall i receiver name s args :=
  mergeChain_of_none picks (ofExpr?_of_name h)

theorem map_of_mergeChains {e r f : Expr} {j : Info} {ns : Span}
    (h : e.mergeChains picks = .methodCall j r "map" ns [f]) :
    ∃ r' f', e = .methodCall j r' "map" ns [f'] := by
  cases e with
  | methodCall i receiver name s args =>
      rw [Expr.mergeChains] at h
      cases hc : Chain.ofExpr? (.methodCall i (receiver.mergeChains picks) name s
          (mergeExprs picks args)) with
      | none =>
          rw [mergeChain_of_none picks hc] at h
          obtain ⟨rfl, -, rfl, rfl, hargs⟩ := Expr.methodCall.inj h
          match args, hargs with
          | [f'], _ => exact ⟨receiver, f', rfl⟩
      | some c =>
          obtain ⟨i', j', r', ns', f', s', a', he, -⟩ := ofExpr?_eq_some hc
          rw [he, mergeChain_chain] at h
          split at h
          · split at h
            · exact absurd (Expr.methodCall.inj h).2.2.1 (by decide)
            · exact absurd (Expr.methodCall.inj h).2.2.1 (by decide)
          · exact absurd (Expr.methodCall.inj h).2.2.1 (by decide)
  | _ => cases h

theorem mergeChain_parts {i : Info} {s : Span} {name : String} {receiver : Expr} {args : List Expr}
    (h : ∀ c, Chain.ofExpr? (.methodCall i receiver name s args) = some c →
      picks c.nameSpan.lo = false) :
    mergeChain picks (.methodCall i (receiver.mergeChains picks) name s (mergeExprs picks args)) =
      .methodCall i (receiver.mergeChains picks) name s (mergeExprs picks args) := by
  cases hc : Chain.ofExpr? (.methodCall i (receiver.mergeChains picks) name s
      (mergeExprs picks args)) with
  | none => exact mergeChain_of_none picks hc
  | some c =>
      obtain ⟨i', j, r, ns, f, s', a, he, -⟩ := ofExpr?_eq_some hc
      obtain ⟨rfl, hreceiver, rfl, rfl, hargs⟩ := Expr.methodCall.inj he
      obtain ⟨r', f', rfl⟩ := map_of_mergeChains picks hreceiver
      have hpick : picks ns.lo = false := by
        match args, hargs with
        | [a'], _ => exact h _ rfl
      rw [he, mergeChain_chain, hpick]
      rfl

theorem mergeChains_pair (file : Option String) {p : CallPair} {name : Token} {x y : Extent}
    (h : Surface.Expr.joins? picks (.methodCall (.methodCall p.receiver p.method [p.mapper] y) name
      [p.fallback] x) = some p)
    (hjoin : Surface.Expr.join picks (.methodCall (.methodCall p.receiver p.method [p.mapper] y) name
        [p.fallback] x) =
      if p.fallsToNone then
        .methodCall (p.receiver.join picks) (p.method.respell "and_then") [p.mapper.join picks] x
      else .methodCall (p.receiver.join picks) (p.method.respell "map_or")
        [p.fallback.bare, p.mapper.join picks] x)
    (hreceiver : (Plain.expr file (Surface.Expr.join picks
        (.methodCall p.receiver p.method [p.mapper] y))).erase unplaced =
      ((Plain.expr file (.methodCall p.receiver p.method [p.mapper] y)).mergeChains picks).erase
        unplaced)
    (hargs : eraseExprs unplaced (Plain.exprs file (joinAll picks [p.fallback])) =
      eraseExprs unplaced (mergeExprs picks (Plain.exprs file [p.fallback]))) :
    (Plain.expr file (Surface.Expr.join picks (.methodCall
        (.methodCall p.receiver p.method [p.mapper] y) name [p.fallback] x))).erase unplaced =
      ((Plain.expr file (.methodCall (.methodCall p.receiver p.method [p.mapper] y) name
        [p.fallback] x)).mergeChains picks).erase unplaced := by
  obtain ⟨hpair, hpick, hfree⟩ := Surface.Expr.joins?_eq_some picks h
  obtain ⟨hm, name', x', y', hn, heq⟩ := Surface.Expr.pair?_eq_some hpair
  cases heq
  have hfallback : (Plain.expr file p.fallback).erase unplaced =
      ((Plain.expr file p.fallback).mergeChains picks).erase unplaced := by
    have hkept := joinAll_eq_self picks [p.fallback] fun c hc => not_joins_of_unpicked picks
      (hfree c (by simpa [callsAll] using hc))
    rw [hkept] at hargs
    exact (List.cons.inj hargs).1
  have hnone : isNonePath ((Plain.expr file p.fallback).mergeChains picks) = p.fallsToNone := by
    rw [← isNonePath_erase unplaced, ← hfallback, isNonePath_erase, fallsToNone_eq file]
  have hmerged : (Plain.expr file (.methodCall p.receiver p.method [p.mapper] y)).mergeChains picks =
      .methodCall (infoOf file y) ((Plain.expr file p.receiver).mergeChains picks) "map"
        (spanOf file (.ofToken p.method)) [(Plain.expr file p.mapper).mergeChains picks] := by
    rw [Plain.expr, Expr.mergeChains, hm, mergeChain_of_name picks (by decide)]
    rfl
  have hwhole : (Plain.expr file (.methodCall (.methodCall p.receiver p.method [p.mapper] y) name
      [p.fallback] x)).mergeChains picks = mergeChain picks (.methodCall (infoOf file x)
        (.methodCall (infoOf file y) ((Plain.expr file p.receiver).mergeChains picks) "map"
          (spanOf file (.ofToken p.method)) [(Plain.expr file p.mapper).mergeChains picks])
        "unwrap_or" (spanOf file (.ofToken name)) [(Plain.expr file p.fallback).mergeChains picks]) := by
    rw [Plain.expr, Expr.mergeChains, hmerged, hn]
    rfl
  have hlo : picks (spanOf file (.ofToken p.method)).lo = true := hpick
  rw [Surface.Expr.join_map picks hm, hmerged] at hreceiver
  obtain ⟨-, hr, -, -, hf⟩ := Expr.methodCall.inj hreceiver
  rw [hwhole, mergeChain_chain, if_pos hlo, hnone, hjoin]
  cases hfalls : p.fallsToNone with
  | true => exact congrArg₂ (Expr.methodCall _ · _ _ ·) hr hf
  | false =>
      have hfront : (Plain.expr file p.fallback.bare).erase unplaced =
          ((Plain.expr file p.fallback).mergeChains picks).erase unplaced := by
        rw [Plain.expr_bare, hfallback]
      exact congrArg₂ (Expr.methodCall _ · _ _ ·) hr (congrArg₂ List.cons hfront hf)

mutual

theorem mergeChains_join (file : Option String) : (e : Surface.Expr) →
    (∀ c ∈ e.calls, Ready picks file c) →
    (Plain.expr file (e.join picks)).erase unplaced =
      ((Plain.expr file e).mergeChains picks).erase unplaced
  | .methodCall receiver name args x, h => by
      have hself := h _ List.mem_cons_self
      have hrest (c : Surface.Expr) (hc : c ∈ receiver.calls ++ callsAll args) :
          Ready picks file c := h c (List.mem_cons_of_mem _ hc)
      have hreceiver := mergeChains_join file receiver fun c hc => hrest c (List.mem_append_left _ hc)
      have hargs := mergeExprs_join file args fun c hc => hrest c (List.mem_append_right _ hc)
      obtain ⟨hnone, hjoin⟩ | ⟨p, y, hsome, hm, rfl, rfl, hjoin⟩ :=
        Surface.Expr.join_call picks receiver name args x
      · have hnot (c : Chain) (hc : Chain.ofExpr? (Plain.expr file (.methodCall receiver name args x)) =
            some c) : picks c.nameSpan.lo = false := by
          rw [← Bool.not_eq_true]
          intro hpick
          obtain ⟨p, hp⟩ := hself c hc hpick
          rw [hnone] at hp
          cases hp
        rw [hjoin, Plain.expr, Plain.expr, Expr.mergeChains, mergeChain_parts picks hnot, Expr.erase,
          Expr.erase, hreceiver, hargs]
      · exact mergeChains_pair picks file hsome hjoin hreceiver hargs
  | .int t, _ => by
      change (Plain.intExpr file t).erase unplaced = ((Plain.intExpr file t).mergeChains picks).erase unplaced
      unfold Plain.intExpr
      split <;> rfl
  | .string t, _ => by
      change (Plain.stringExpr file t).erase unplaced = ((Plain.stringExpr file t).mergeChains picks).erase unplaced
      unfold Plain.stringExpr
      split <;> rfl
  | .float _, _ | .bool _ _, _ | .path _ _, _ | .brk _, _ | .cont _, _ => rfl
  | .macroCall _ args _, h => congrArg (Expr.macroCall _ _) (mergeExprs_join file args h)
  | .paren inner _, h => mergeChains_join file inner h
  | .tuple elems _, h => congrArg (Expr.tuple _) (mergeExprs_join file elems h)
  | .array elems _, h => congrArg (Expr.array _) (mergeExprs_join file elems h)
  | .block body, h => congrArg (Expr.block _) (mergeBlock_join file body h)
  | .cond test yes no x, h => by
      simp only [Surface.Expr.calls, List.forall_mem_append] at h
      change Expr.cond _ _ _ _ = Expr.cond _ _ _ _
      rw [mergeChains_join file test h.1, mergeBlock_join file yes h.2.1, mergeOption_join file no h.2.2]
  | .whileLoop test body x, h => by
      simp only [Surface.Expr.calls, List.forall_mem_append] at h
      exact congrArg₂ (Expr.whileLoop _) (mergeChains_join file test h.1) (mergeBlock_join file body h.2)
  | .loop body _, h => congrArg (Expr.loop _) (mergeBlock_join file body h)
  | .forLoop p iterable body x, h => by
      simp only [Surface.Expr.calls, List.forall_mem_append] at h
      exact congrArg₂ (Expr.forLoop _ _) (mergeChains_join file iterable h.1)
        (mergeBlock_join file body h.2)
  | .ret value _, h => congrArg (Expr.ret _) (mergeOption_join file value h)
  | .unary op operand _, h => congrArg (Expr.unary _ op) (mergeChains_join file operand h)
  | .binary op left right x, h => by
      simp only [Surface.Expr.calls, List.forall_mem_append] at h
      exact congrArg₂ (Expr.binary _ op) (mergeChains_join file left h.1) (mergeChains_join file right h.2)
  | .range lower upper x, h => by
      simp only [Surface.Expr.calls, List.forall_mem_append] at h
      exact congrArg₂ (Expr.range _) (mergeOption_join file lower h.1) (mergeOption_join file upper h.2)
  | .call callee args x, h => by
      simp only [Surface.Expr.calls, List.forall_mem_append] at h
      exact congrArg₂ (Expr.call _) (mergeChains_join file callee h.1) (mergeExprs_join file args h.2)
  | .field subject _ _, h => congrArg (Expr.field _ · _) (mergeChains_join file subject h)
  | .index subject position x, h => by
      simp only [Surface.Expr.calls, List.forall_mem_append] at h
      exact congrArg₂ (Expr.index _) (mergeChains_join file subject h.1)
        (mergeChains_join file position h.2)
  | .closure _ _ body _, h => congrArg (Expr.closure _ _ · _) (mergeChains_join file body h)

theorem mergeExprs_join (file : Option String) : (es : List Surface.Expr) →
    (∀ c ∈ callsAll es, Ready picks file c) →
    eraseExprs unplaced (Plain.exprs file (joinAll picks es)) =
      eraseExprs unplaced (mergeExprs picks (Plain.exprs file es))
  | [], _ => rfl
  | e :: es, h => by
      simp only [callsAll, List.forall_mem_append] at h
      exact congrArg₂ List.cons (mergeChains_join file e h.1) (mergeExprs_join file es h.2)

theorem mergeOption_join (file : Option String) : (o : Option Surface.Expr) →
    (∀ c ∈ callsOption o, Ready picks file c) →
    eraseOption unplaced (Plain.optional file (joinOption picks o)) =
      eraseOption unplaced (mergeOption picks (Plain.optional file o))
  | none, _ => rfl
  | some e, h => congrArg some (mergeChains_join file e h)

theorem mergeBlock_join (file : Option String) : (b : Surface.Block) →
    (∀ c ∈ b.calls, Ready picks file c) →
    (Plain.block file (b.join picks)).erase unplaced =
      ((Plain.block file b).mergeChains picks).erase unplaced
  | .mk items x, h => by
      obtain ⟨hss, htail⟩ := mergeStmts_join file items h
      exact congrArg₂ (Block.mk _) hss htail

theorem mergeStmts_join (file : Option String) : (is : List Item) →
    (∀ c ∈ callsItems is, Ready picks file c) →
    eraseStmts unplaced (Plain.stmts file (joinItems picks is)).1 =
        eraseStmts unplaced (mergeStmts picks (Plain.stmts file is).1) ∧
      eraseOption unplaced (Plain.stmts file (joinItems picks is)).2 =
        eraseOption unplaced (mergeOption picks (Plain.stmts file is).2)
  | [], _ => ⟨rfl, rfl⟩
  | .empty _ :: rest, h => mergeStmts_join file rest h
  | .letItem p declared value x :: rest, h => by
      simp only [callsItems, Item.calls, List.forall_mem_append] at h
      obtain ⟨hss, htail⟩ := mergeStmts_join file rest h.2
      exact ⟨congrArg₂ List.cons (congrArg (Stmt.letIn _ _ _) (mergeOption_join file value h.1)) hss,
        htail⟩
  | .exprItem value semi x :: rest, h => by
      simp only [callsItems, Item.calls, List.forall_mem_append] at h
      have hvalue := mergeChains_join file value h.1
      obtain ⟨hss, htail⟩ := mergeStmts_join file rest h.2
      rw [joinItems, Item.join, Plain.stmts, Plain.stmts, isBlockLike_plain, isBlockLike_plain,
        endsInBlock_join, moreItems_join]
      split
      · exact ⟨congrArg₂ List.cons (congrArg (Stmt.expr _) hvalue) hss, htail⟩
      · exact ⟨rfl, congrArg some hvalue⟩

end

end

end Tree

end ChainLint
