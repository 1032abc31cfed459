import ChainLint.Proofs.Grammar.Snippets
import ChainLint.Proofs.Tree.Nesting
import ChainLint.Proofs.Tree.Plain
import ChainLint.Proofs.Tree.Reads
import ChainLint.Proofs.Tree.Walk

namespace ChainLint.Tree

open Surface Build Terminal

def phraseNodes (file : Option String) : Phrase → List Node
  | .expr e => [.expr (Plain.expr file e)]
  | .args _ es _ => (Plain.exprs file es).map .expr
  | .block b => [.block (Plain.block file b)]
  | .items is =>
      (Plain.stmts file is).1.map .stmt ++ (Plain.stmts file is).2.toList.map .expr
  | .letItem (.letItem p declared value e) =>
      [.stmt (.letIn (infoOf file e) (pattern file p) (declared.map (typeExpr file))
        (Plain.optional file value))]
  | .letItem _ => []
  | .init o => (Plain.optional file o).toList.map .expr

def expectedAfter (E : Expectation) : List Lexeme → Expectation
  | [] => E
  | w :: ws => expectedAfter w.next ws

theorem expectedAfter_append (E : Expectation) (ws ws' : List Lexeme) :
    expectedAfter E (ws ++ ws') = expectedAfter (expectedAfter E ws) ws' := by
  induction ws generalizing E with
  | nil => rfl
  | cons w ws ih => exact ih w.next

theorem expected_of_cuts {ws : List Lexeme} {s s' : Pending} (h : s.Cuts ws s') :
    s'.expected = expectedAfter s.expected ws := by
  induction ws generalizing s with
  | nil => rw [expectedAfter, show s = s' from h]
  | cons w ws ih =>
      obtain ⟨rest, -, h⟩ := h
      exact ih h

def Leads (E : Expectation) (e : Surface.Expr) : Prop :=
  operandStart ⊆ E.terminals ∨ E = .elseBranch ∧ endsBranches e = true
where
  endsBranches : Surface.Expr → Bool
    | .cond _ _ _ _ | .block _ => true
    | _ => false

theorem Leads.left {E : Expectation} {e : Surface.Expr} (h : Leads E e) (e' : Surface.Expr)
    (he : Leads.endsBranches e = false := by rfl) : Leads E e' := by
  rcases h with h | ⟨-, h⟩
  · exact .inl h
  · rw [he] at h
    cases h

def phraseLed (E : Expectation) : Phrase → Prop
  | .expr e => Leads E e
  | .args _ _ _ | .items _ => operandStart ⊆ E.terminals
  | .block _ | .letItem _ | .init _ => True

def phraseBuilds : Phrase → Bool
  | .expr e => Builds.expr e
  | .args _ es _ => Builds.exprs es
  | .block b => Builds.block b
  | .items is => Builds.stmts is
  | .letItem (.letItem _ _ value _) => Builds.optional value
  | .letItem _ => true
  | .init o => Builds.optional o

def Arises (file : Option String) (E : Expectation) (ws : List Lexeme) (t : Expr) : Prop :=
  ∃ e before we after, ws = before ++ (we ++ after) ∧ Leads (expectedAfter E before) e ∧
    Spells (.expr e) we ∧ Plain.expr file e = t ∧ Builds.expr e = true ∧
      ∀ inner x, e ≠ .paren inner x

namespace Arises

variable {file : Option String} {E : Expectation} {ws ws' : List Lexeme} {t : Expr}

theorem exists_spells (h : Arises file E ws t) :
    ∃ e we, we <:+: ws ∧ Spells (.expr e) we ∧ Plain.expr file e = t := by
  obtain ⟨e, before, we, after, rfl, -, he, ht, -⟩ := h
  exact ⟨e, we, ⟨before, after, by rw [List.append_assoc]⟩, he, ht⟩

theorem left (ws' : List Lexeme) (h : Arises file E ws t) : Arises file E (ws ++ ws') t := by
  obtain ⟨e, before, we, after, rfl, h⟩ := h
  exact ⟨e, before, we, after ++ ws', by simp only [List.append_assoc], h⟩

theorem right (ws : List Lexeme) (h : Arises file (expectedAfter E ws) ws' t) :
    Arises file E (ws ++ ws') t := by
  obtain ⟨e, before, we, after, rfl, h⟩ := h
  rw [← expectedAfter_append] at h
  exact ⟨e, ws ++ before, we, after, by rw [List.append_assoc], h⟩

theorem after (w : Lexeme) (h : Arises file w.next ws t) : Arises file E (w :: ws) t :=
  .right [w] h

theorem self {e : Surface.Expr} (h : Spells (.expr e) ws) (hE : Leads E e)
    (hb : Builds.expr e = true) (hp : ∀ inner x, e ≠ .paren inner x) :
    Arises file E ws (Plain.expr file e) :=
  ⟨e, [], ws, [], (List.append_nil ws).symm, hE, h, rfl, hb, hp⟩

theorem node {e : Surface.Expr} (h : Spells (.expr e) ws) (hE : Leads E e)
    (hb : Builds.expr e = true)
    (ht : .expr t ∈ (phraseNodes file (.expr e)).flatMap Node.preorder)
    (hparts : .expr t ∈ (Plain.expr file e).children.flatMap Node.preorder →
      Arises file E ws t)
    (hp : ∀ inner x, e ≠ .paren inner x := by rintro _ _ ⟨⟩) : Arises file E ws t := by
  rw [phraseNodes, List.flatMap_singleton, Node.preorder_eq, List.mem_cons] at ht
  rcases ht with ht | ht
  · cases ht
    exact .self h hE hb hp
  · exact hparts ht

theorem leaf {e : Surface.Expr} (h : Spells (.expr e) ws) (hE : Leads E e)
    (hb : Builds.expr e = true) (hleaf : (Plain.expr file e).children = [])
    (ht : .expr t ∈ (phraseNodes file (.expr e)).flatMap Node.preorder)
    (hp : ∀ inner x, e ≠ .paren inner x := by rintro _ _ ⟨⟩) : Arises file E ws t := by
  refine .node h hE hb ht (fun ht => ?_) hp
  rw [hleaf] at ht
  cases ht

end Arises

theorem opens (E : Expectation) (h : operandStart ⊆ E.terminals := by decide) :
    operandStart ⊆ E.terminals := h

theorem leads_after {e : Surface.Expr} {ws : List Lexeme} (h : Spells (.expr e) ws)
    (E : Expectation) : operandStart ⊆ (expectedAfter E ws).terminals := by
  obtain ⟨before, last, rfl, hlast⟩ := h.closes
  rw [expectedAfter_append]
  exact List.Subset.trans (by decide) hlast

theorem leads_prefixed {op : UnaryOp} {ws : List Lexeme} (h : SpellsPrefix op ws) (E : Expectation) :
    operandStart ⊆ (expectedAfter E ws).terminals := by
  cases h <;> simp only [expectedAfter] <;> decide

theorem leads_bars {ps : List Surface.Param} {ws : List Lexeme} (h : SpellsBars ps ws)
    (E : Expectation) : expectedAfter E ws = .expression := by
  induction h generalizing E with
  | last => rw [expectedAfter_append]; rfl
  | cons hp hc hps ih =>
      rw [expectedAfter_append]
      exact ih _

theorem leads_head {ps : List Surface.Param} {ws : List Lexeme} (h : SpellsHead ps ws)
    (E : Expectation) : expectedAfter E ws = .expression := by
  cases h with
  | joined | empty => rfl
  | params ho hps => exact leads_bars hps _

theorem mem_one {v n : Node} (h : v ∈ n.preorder) : v ∈ [n].flatMap Node.preorder := by
  rwa [List.flatMap_singleton]

theorem not_mem_params {t : Expr} {ps : List Param} :
    .expr t ∉ (ps.map Node.param).flatMap Node.preorder := by
  intro h
  obtain ⟨n, hn, ht⟩ := List.mem_flatMap.mp h
  obtain ⟨p, -, rfl⟩ := List.mem_map.mp hn
  exact Node.not_expr_of_mem_param ht rfl

theorem not_mem_pat {t : Expr} {p : Pat} : .expr t ∉ (Node.pat p).preorder := by
  intro h
  obtain ⟨q, hq⟩ := Node.not_expr_of_mem_pat h
  cases hq

theorem mem_parts {t : Expr} {n : Node} (h : .expr t ∈ n.preorder)
    (hn : ∀ e, n ≠ .expr e := by rintro _ ⟨⟩) : .expr t ∈ n.children.flatMap Node.preorder := by
  rw [Node.preorder_eq, List.mem_cons] at h
  exact h.resolve_left fun h => hn t h.symm

theorem Plain.children_int (file : Option String) (t : Token) :
    (Plain.intExpr file t).children = [] := by
  unfold intExpr
  split <;> rfl

theorem Plain.children_string (file : Option String) (t : Token) :
    (Plain.stringExpr file t).children = [] := by
  unfold stringExpr
  split <;> rfl

theorem arises {file : Option String} {p : Phrase} {ws : List Lexeme} (h : Spells p ws) {t : Expr}
    {E : Expectation} (hE : phraseLed E p) (hb : phraseBuilds p = true)
    (ht : .expr t ∈ (phraseNodes file p).flatMap Node.preorder) : Arises file E ws t := by
  induction h generalizing t E with
  | int h => exact .leaf (.int h) hE hb (Plain.children_int file _) ht
  | float h => exact .leaf (.float h) hE hb rfl ht
  | string h => exact .leaf (.string h) hE hb (Plain.children_string file _) ht
  | true h => exact .leaf (.true h) hE hb rfl ht
  | false h => exact .leaf (.false h) hE hb rfl ht
  | path h hts => exact .leaf (.path h hts) hE hb rfl ht
  | bracketMacro h hbang ho hes ih =>
      refine .node (.bracketMacro h hbang ho hes) hE hb ht fun ht => ?_
      exact ((((ih (opens .expressionOrBracket) hb ht).after _).after _).after _)
  | macroCall h hbang ho hes ih =>
      refine .node (.macroCall h hbang ho hes) hE hb ht fun ht => ?_
      exact ((((ih (opens .expressionOrParen) hb ht).after _).after _).after _)
  | paren ho he hc ih => exact ((ih (.inl (opens .expression)) hb ht).left _).after _
  | tuple ho he hc hes ihe ihes =>
      refine .node (.tuple ho he hc hes) hE hb ht fun ht => .after _ ?_
      obtain ⟨hbe, hbes⟩ := Bool.and_eq_true_iff.mp hb
      simp only [Plain.expr, Plain.exprs, Expr.children, List.map_cons, List.flatMap_cons,
        List.mem_append] at ht
      rcases ht with ht | ht
      · exact (ihe (.inl (opens .expression)) hbe (mem_one ht)).left _
      · exact ((ihes (opens .expressionOrParen) hbes ht).after _).right _
  | array ho hes ih =>
      refine .node (.array ho hes) hE hb ht fun ht => ?_
      exact (ih (opens .expressionOrBracket) hb ht).after _
  | block hblock ih => exact .node (.block hblock) hE hb ht fun ht => ih trivial hb ht
  | cond hw htest hedge hyes ihtest ihyes =>
      refine .node (.cond hw htest hedge hyes) hE hb ht fun ht => .after _ ?_
      obtain ⟨hbtest, hbrest⟩ := Bool.and_eq_true_iff.mp hb
      obtain ⟨hbyes, -⟩ := Bool.and_eq_true_iff.mp hbrest
      simp only [Plain.expr, Plain.optional, Expr.children, List.flatMap_cons, List.mem_append] at ht
      rcases ht with ht | ht | ht
      · exact (ihtest (.inl (opens .expression)) hbtest (mem_one ht)).left _
      · exact (ihyes trivial hbyes (mem_one ht)).right _
      · cases ht
  | condElse hw htest hedge hyes ho hno ihtest ihyes ihno =>
      refine .node (.condElse hw htest hedge hyes ho hno) hE hb ht fun ht => .after _ ?_
      obtain ⟨hbtest, hbrest⟩ := Bool.and_eq_true_iff.mp hb
      obtain ⟨hbyes, hbno⟩ := Bool.and_eq_true_iff.mp hbrest
      simp only [Plain.expr, Plain.optional, Expr.children, Option.toList_some, List.map_cons,
        List.map_nil, List.flatMap_cons, List.mem_append] at ht
      rcases ht with ht | ht | ht | ht
      · exact (ihtest (.inl (opens .expression)) hbtest (mem_one ht)).left _
      · exact ((ihyes trivial hbyes (mem_one ht)).left _).right _
      · refine ((Arises.after _ ?_).right _).right _
        exact .node (.block hno) (.inr ⟨rfl, rfl⟩) hbno (mem_one ht) fun ht =>
          ihno trivial hbno ht
      · cases ht
  | condElseIf hw htest hedge hyes ho hw' hno ihtest ihyes ihno =>
      refine .node (.condElseIf hw htest hedge hyes ho hw' hno) hE hb ht fun ht => .after _ ?_
      obtain ⟨hbtest, hbrest⟩ := Bool.and_eq_true_iff.mp hb
      obtain ⟨hbyes, hbno⟩ := Bool.and_eq_true_iff.mp hbrest
      rw [Plain.expr, Plain.optional, Expr.children] at ht
      simp only [Option.toList_some, List.map_cons,
        List.map_nil, List.flatMap_cons, List.mem_append] at ht
      rcases ht with ht | ht | ht | ht
      · exact (ihtest (.inl (opens .expression)) hbtest (mem_one ht)).left _
      · exact ((ihyes trivial hbyes (mem_one ht)).left _).right _
      · exact (((ihno (.inr ⟨rfl, rfl⟩) hbno (mem_one ht)).after _).right _).right _
      · cases ht
  | whileLoop hw htest hedge hbody ihtest ihbody =>
      refine .node (.whileLoop hw htest hedge hbody) hE hb ht fun ht => .after _ ?_
      obtain ⟨hbtest, hbbody⟩ := Bool.and_eq_true_iff.mp hb
      simp only [Plain.expr, Expr.children, List.flatMap_cons, List.mem_append] at ht
      rcases ht with ht | ht | ht
      · exact (ihtest (.inl (opens .expression)) hbtest (mem_one ht)).left _
      · exact (ihbody trivial hbbody (mem_one ht)).right _
      · cases ht
  | loop hw hbody ih =>
      exact .node (.loop hw hbody) hE hb ht fun ht => (ih trivial hb ht).after _
  | forLoop hw hp hi hiter hedge hbody ihiter ihbody =>
      refine .node (.forLoop hw hp hi hiter hedge hbody) hE hb ht fun ht =>
        .after _ (.right _ (.after _ ?_))
      obtain ⟨hbiter, hbbody⟩ := Bool.and_eq_true_iff.mp hb
      simp only [Plain.expr, Expr.children, List.flatMap_cons, List.mem_append] at ht
      rcases ht with ht | ht | ht | ht
      · exact absurd ht not_mem_pat
      · exact (ihiter (.inl (opens .expression)) hbiter (mem_one ht)).left _
      · exact (ihbody trivial hbbody (mem_one ht)).right _
      · cases ht
  | retNone hw => exact .leaf (.retNone hw) hE hb rfl ht
  | ret hw hv ih =>
      refine .node (.ret hw hv) hE hb ht fun ht => ?_
      exact (ih (.inl (opens .afterOperand)) hb ht).after _
  | brk hw => exact .leaf (.brk hw) hE hb rfl ht
  | cont hw => exact .leaf (.cont hw) hE hb rfl ht
  | unary hop he hr ih =>
      refine .node (.unary hop he hr) hE hb ht fun ht => ?_
      exact (ih (.inl (leads_prefixed hop E)) hb ht).right _
  | binary hop hl hlr hedge hr hrr ihl ihr =>
      refine .node (.binary hop hl hlr hedge hr hrr) hE hb ht fun ht => ?_
      obtain ⟨hbl, hbr⟩ := Bool.and_eq_true_iff.mp hb
      simp only [Plain.expr, Expr.children, List.flatMap_cons, List.mem_append] at ht
      rcases ht with ht | ht | ht
      · exact (ihl (hE.left _) hbl (mem_one ht)).left _
      · exact ((ihr (.inl (opens .operand)) hbr (mem_one ht)).after _).right _
      · cases ht
  | rangeAll hd => exact .leaf (.rangeAll hd) hE hb rfl ht
  | rangeTo hd hu hur ih =>
      refine .node (.rangeTo hd hu hur) hE hb ht fun ht => ?_
      exact (ih (.inl (opens .afterOperand)) hb ht).after _
  | rangeFrom hd hl hlr hedge ih =>
      obtain ⟨hbl, -⟩ := Bool.and_eq_true_iff.mp hb
      refine .node (.rangeFrom hd hl hlr hedge) hE hb ht fun ht => ?_
      exact (ih (hE.left _) hbl ht).left _
  | range hd hl hlr hedge hu hur ihl ihu =>
      refine .node (.range hd hl hlr hedge hu hur) hE hb ht fun ht => ?_
      obtain ⟨hbl, hbu⟩ := Bool.and_eq_true_iff.mp hb
      simp only [Plain.expr, Plain.optional, Expr.children, Option.toList_some,
        List.singleton_append, List.map_cons, List.map_nil, List.flatMap_cons, List.mem_append] at ht
      rcases ht with ht | ht | ht
      · exact (ihl (hE.left _) hbl (mem_one ht)).left _
      · exact ((ihu (.inl (opens .afterOperand)) hbu (mem_one ht)).after _).right _
      · cases ht
  | call hf hr hedge ho hes ihf ihes =>
      refine .node (.call hf hr hedge ho hes) hE hb ht fun ht => ?_
      obtain ⟨hbf, hbes⟩ := Bool.and_eq_true_iff.mp hb
      simp only [Plain.expr, Expr.children, List.flatMap_cons, List.mem_append] at ht
      rcases ht with ht | ht
      · exact (ihf (hE.left _) hbf (mem_one ht)).left _
      · exact ((ihes (opens .expressionOrParen) hbes ht).after _).right _
  | methodCall hf hr hedge hd hn ho hes ihf ihes =>
      refine .node (.methodCall hf hr hedge hd hn ho hes) hE hb ht fun ht => ?_
      obtain ⟨hbf, hbes⟩ := Bool.and_eq_true_iff.mp hb
      simp only [Plain.expr, Expr.children, List.flatMap_cons, List.mem_append] at ht
      rcases ht with ht | ht
      · exact (ihf (hE.left _) hbf (mem_one ht)).left _
      · exact ((((ihes (opens .expressionOrParen) hbes ht).after _).after _).after _).right _
  | field hf hr hedge hd hn ih =>
      refine .node (.field hf hr hedge hd hn) hE hb ht fun ht => ?_
      exact (ih (hE.left _) hb ht).left _
  | index hf hr hedge ho hp hc ihf ihp =>
      refine .node (.index hf hr hedge ho hp hc) hE hb ht fun ht => ?_
      obtain ⟨hbf, hbp⟩ := Bool.and_eq_true_iff.mp hb
      simp only [Plain.expr, Expr.children, List.flatMap_cons, List.mem_append] at ht
      rcases ht with ht | ht | ht
      · exact (ihf (hE.left _) hbf (mem_one ht)).left _
      · exact (((ihp (.inl (opens .expression)) hbp (mem_one ht)).left _).after _).right _
      · cases ht
  | closure hm hh hbody ih =>
      refine .node (.closure hm hh hbody) hE hb ht fun ht => .right _ (.right _ ?_)
      simp only [Plain.expr, Expr.children, List.flatMap_append, List.mem_append] at ht
      rcases ht with ht | ht
      · exact absurd ht not_mem_params
      · rw [leads_head hh]
        exact ih (.inl (by decide)) hb ht
  | argsNil hc => cases ht
  | argsLast he hc ih =>
      obtain ⟨hbe, -⟩ := Bool.and_eq_true_iff.mp hb
      exact (ih (.inl hE) hbe ht).left _
  | argsCons he hc hes ihe ihes =>
      obtain ⟨hbe, hbes⟩ := Bool.and_eq_true_iff.mp hb
      simp only [phraseNodes, Plain.exprs, List.map_cons, List.flatMap_cons, List.mem_append] at ht
      rcases ht with ht | ht
      · exact (ihe (.inl hE) hbe (mem_one ht)).left _
      · exact ((ihes (opens .expressionOrClose) hbes ht).after _).right _
  | mkBlock ho his hc ih =>
      rw [phraseNodes, List.flatMap_singleton] at ht
      exact ((ih (opens .statement) hb (mem_parts (n := .block _) ht)).left _).after _
  | itemsNil => cases ht
  | itemsEmpty hs his ih => exact (ih (opens .statement) hb ht).after _
  | itemsLet hi his ihi ihis =>
      have hi' := hi
      cases hi' with
      | @letItem word semi p declared value ws ws' ws'' =>
          obtain ⟨hbi, hbis⟩ := Bool.and_eq_true_iff.mp hb
          simp only [phraseNodes, Plain.stmts, List.map_cons, List.cons_append, List.flatMap_cons,
            List.mem_append] at ht
          rcases ht with ht | ht
          · exact (ihi trivial hbi (mem_one ht)).left _
          · refine (ihis ?_ hbis ht).right _
            simp only [phraseLed, expectedAfter, expectedAfter_append]
            decide
  | @itemsSemi semi e is ws ws' he hs his ihe ihis =>
      obtain ⟨hbe, hbis⟩ := Bool.and_eq_true_iff.mp hb
      simp only [phraseNodes, Plain.stmts, Bool.true_or, if_true, List.map_cons, List.cons_append,
        List.flatMap_cons, List.mem_append] at ht
      rcases ht with ht | ht
      · exact (ihe (.inl hE) hbe (mem_parts (n := .stmt _) ht)).left _
      · exact ((ihis (opens .statement) hbis ht).after _).right _
  | @itemsExpr e is ws ws' he hend his ihe ihis =>
      obtain ⟨hbe, hbis⟩ := Bool.and_eq_true_iff.mp hb
      rw [phraseNodes, Plain.stmts, isBlockLike_plain] at ht
      split at ht
      · next hmore =>
          rw [if_pos hmore] at hbis
          simp only [List.map_cons, List.cons_append, List.flatMap_cons, List.mem_append] at ht
          rcases ht with ht | ht
          · exact (ihe (.inl hE) hbe (mem_parts (n := .stmt _) ht)).left _
          · exact (ihis (leads_after he E) hbis ht).right _
      · exact (ihe (.inl hE) hbe ht).left _
  | letItem hw hp hd hv hs ih =>
      rw [phraseNodes, List.flatMap_singleton] at ht
      have ht := mem_parts (n := .stmt _) ht
      rw [Node.children, List.flatMap_cons, List.mem_append] at ht
      rcases ht with ht | ht
      · exact absurd ht not_mem_pat
      · exact ((((ih trivial hb ht).left _).right _).right _).after _
  | initNone => cases ht
  | init hq he ih => exact (ih (.inl (opens .expression)) hb ht).after _

theorem arises_function {file : Option String} {f : Surface.Function} {ws : List Lexeme}
    (h : SpellsFunction f ws) (hb : Builds.block f.body = true) {E : Expectation} {t : Expr}
    (ht : .expr t ∈ (Node.function (Plain.function file f)).preorder) : Arises file E ws t := by
  have ht := mem_parts (n := .function _) ht
  cases h with
  | mk hw hn ho hps hr hbody =>
      rw [Node.children, List.flatMap_append, List.mem_append] at ht
      rcases ht with ht | ht
      · exact absurd ht not_mem_params
      · exact ((((((arises hbody trivial hb ht).right _).right _).after _).after _).after _)

theorem arises_functions {file : Option String} {fs : List Surface.Function} {ws : List Lexeme}
    (h : SpellsFunctions fs ws) (hb : (fs.all fun f => Builds.block f.body) = true)
    {E : Expectation} {t : Expr}
    (ht : .expr t ∈ (fs.map fun f => Node.function (Plain.function file f)).flatMap Node.preorder) :
    Arises file E ws t := by
  induction h generalizing E with
  | nil => cases ht
  | cons hf hfs ih =>
      obtain ⟨hbf, hbfs⟩ := Bool.and_eq_true_iff.mp hb
      rw [List.map_cons, List.flatMap_cons, List.mem_append] at ht
      rcases ht with ht | ht
      · exact (arises_function hf hbf ht).left _
      · exact (ih hbfs ht).right _

theorem Reads.arises {file : Option String} {text : List Char} {m : Module}
    {fs : List Surface.Function} {ws : List Lexeme} (h : Reads file text m fs ws) {t : Expr}
    (ht : .expr t ∈ (Node.module m).preorder) :
    Arises file .fileStart ws (t.erase Span.inRoot) := by
  refine arises_functions h.spells h.builds ?_
  have heq : (fun f => Node.function (Plain.function file f)) =
      Node.function ∘ Plain.function file := rfl
  rw [heq, ← List.map_map, ← h.functions]
  have hmem : .expr (t.erase Span.inRoot) ∈ (Node.module (m.erase Span.inRoot)).preorder := by
    rw [← Node.erase, Node.preorder_erase]
    exact List.mem_map_of_mem (f := Node.erase Span.inRoot) ht
  exact mem_parts (n := .module _) hmem

end ChainLint.Tree
