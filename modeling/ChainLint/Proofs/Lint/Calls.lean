import ChainLint.Proofs.Grammar.Joining
import ChainLint.Proofs.Lint.Merging
import ChainLint.Proofs.Tree.Origins
import ChainLint.Proofs.Tree.Reads

namespace ChainLint

open MapUnwrapOr

def MapUnwrapOr.Chain.erase (f : Span → Span) (c : Chain) : Chain :=
  ⟨c.whole.erase f, c.receiver.erase f, c.mapCall.erase f, c.mapper.erase f, c.fallback.erase f,
    f c.nameSpan⟩

namespace Tree

def Node.chains (n : Node) : List Chain := n.preorder.filterMap Chain.ofNode?

namespace Node

theorem chains_eq (n : Node) :
    n.chains = (Chain.ofNode? n).toList ++ n.children.flatMap chains := by
  have hparts : (n.children.flatMap preorder).filterMap Chain.ofNode? = n.children.flatMap chains := by
    rw [List.filterMap_flatMap]
    rfl
  rw [chains, preorder_eq, List.filterMap_cons, hparts]
  cases Chain.ofNode? n <;> rfl

theorem chains_of_none {n : Node} (h : Chain.ofNode? n = none) :
    n.chains = n.children.flatMap chains := by
  rw [chains_eq, h]
  rfl

theorem ofNode?_erase (f : Span → Span) (n : Node) :
    Chain.ofNode? (n.erase f) = (Chain.ofNode? n).map (Chain.erase f) := by
  cases hc : Chain.ofNode? n with
  | some c =>
      obtain ⟨i, j, receiver, mapper, fallback, s, heq, rfl⟩ := Chain.ofNode?_eq_some_iff.mp hc
      refine Chain.ofNode?_eq_some_iff.mpr ⟨i.erase f, j.erase f, receiver.erase f, mapper.erase f,
        fallback.erase f, f s, ?_, rfl⟩
      rw [heq]
      rfl
  | none =>
      cases n with
      | expr e => exact ofExpr?_erase f hc
      | _ => rfl

theorem chains_erase (f : Span → Span) (n : Node) :
    (n.erase f).chains = n.chains.map (Chain.erase f) := by
  rw [chains, chains, preorder_erase, List.filterMap_map, List.map_filterMap]
  exact List.filterMap_congr fun m _ => ofNode?_erase f m

theorem chains_pat (p : Pat) : (Node.pat p).chains = [] := by
  refine List.filterMap_eq_nil_iff.mpr fun n hn => ?_
  obtain ⟨q, rfl⟩ := not_expr_of_mem_pat hn
  rfl

theorem chains_params (ps : List Param) : (ps.map Node.param).flatMap chains = [] := by
  refine List.flatMap_eq_nil_iff.mpr fun n hn => ?_
  obtain ⟨p, -, rfl⟩ := List.mem_map.mp hn
  rw [chains_of_none rfl, children, List.flatMap_singleton, chains_pat]

end Node

theorem Fits.names {a b : Int} {ns : List Node} (h : Fits a b ns) :
    ∀ c ∈ ns.flatMap Node.chains, a ≤ c.nameSpan.lo ∧ c.nameSpan.lo < b := by
  induction h with
  | nil => exact fun c hc => absurd hc List.not_mem_nil
  | @cons a b n ns hlo hlt hn hparts hns ihparts ih =>
      intro c hc
      have hle := hns.le
      rw [List.flatMap_cons, Node.chains_eq, List.append_assoc, List.mem_append, List.mem_append] at hc
      rcases hc with hc | hc | hc
      · obtain ⟨i, j, receiver, mapper, fallback, s, heq, rfl⟩ :=
          Chain.ofNode?_eq_some_iff.mp (Option.mem_toList.mp hc)
        cases hparts with
        | cons hlo' hlt' hn' hparts' hrest =>
            obtain ⟨-, -, hname, hname', hstop, -⟩ := hn'
            have hreceiver := hparts'.le_lo _ List.mem_cons_self
            have hreceiver' : receiver.span.lo < receiver.span.hi := by
              cases hparts' with
              | cons _ hlt' _ _ _ => exact hlt'
            have := hrest.le
            simp only [Node.span, Node.info, Expr.span, Expr.info] at *
            omega
      · have := ihparts c hc
        omega
      · have := ih c hc
        omega

theorem Fits.names_of_mem {a b : Int} {ns : List Node} (h : Fits a b ns) {n : Node} (hmem : n ∈ ns) :
    ∀ c ∈ n.chains, n.span.lo ≤ c.nameSpan.lo ∧ c.nameSpan.lo < n.span.hi := by
  induction h with
  | nil => cases hmem
  | cons hlo hlt hn hparts hns ihparts ih =>
      rcases List.mem_cons.mp hmem with rfl | hmem
      · intro c hc
        refine (Fits.cons (Int.le_refl _) hlt hn hparts (.nil (Int.le_refl _))).names c ?_
        rwa [List.flatMap_singleton]
      · exact ih hmem

theorem Fits.name_ne {n : Node} (h : Fits n.span.lo n.span.hi n.children) {c : Chain}
    (hc : Chain.ofNode? n = some c) :
    ∀ d ∈ n.children.flatMap Node.chains, c.nameSpan.lo ≠ d.nameSpan.lo := by
  obtain ⟨i, j, receiver, mapper, fallback, s, heq, rfl⟩ := Chain.ofNode?_eq_some_iff.mp hc
  intro d hd
  cases h with
  | cons hlo hlt hn hparts hrest =>
      obtain ⟨-, -, hname, hname', hstop, hargs⟩ := hn
      have hmapper := hargs mapper List.mem_cons_self
      have hmap : Chain.ofExpr? (.methodCall j receiver "map" c.nameSpan [mapper]) = none :=
        ofExpr?_of_name (by decide)
      have hmap : Chain.ofNode? (.expr (.methodCall j receiver "map" c.nameSpan [mapper])) = none :=
        hmap
      rw [Node.children, Expr.children, List.flatMap_cons, Node.chains_of_none hmap, List.mem_append,
        Node.children, Expr.children, List.flatMap_cons, List.mem_append] at hd
      rcases hd with (hd | hd) | hd
      · have := hparts.names_of_mem List.mem_cons_self d hd
        simp only [Node.span, Node.info, Expr.span] at *
        omega
      · rw [List.map_singleton, List.flatMap_singleton] at hd
        have := hparts.names_of_mem (List.mem_cons_of_mem _ List.mem_cons_self) d hd
        simp only [Node.span, Node.info, Expr.span] at *
        omega
      · have := hrest.names d hd
        simp only [Node.span, Node.info, Expr.info] at *
        omega

theorem Fits.names_ne {a b : Int} {ns : List Node} (h : Fits a b ns) :
    (ns.flatMap Node.chains).Pairwise fun c d => c.nameSpan.lo ≠ d.nameSpan.lo := by
  induction h with
  | nil => exact .nil
  | @cons a b n ns hlo hlt hn hparts hns ihparts ih =>
      have hone : n.chains.Pairwise fun c d => c.nameSpan.lo ≠ d.nameSpan.lo := by
        rw [Node.chains_eq]
        cases hc : Chain.ofNode? n with
        | none => exact ihparts
        | some c => exact List.pairwise_cons.mpr ⟨hparts.name_ne hc, ihparts⟩
      rw [List.flatMap_cons]
      refine List.pairwise_append.mpr ⟨hone, ih, fun c hc d hd => ?_⟩
      have hin : Fits n.span.lo n.span.hi [n] :=
        .cons (Int.le_refl _) hlt hn hparts (.nil (Int.le_refl _))
      have := hin.names_of_mem List.mem_cons_self c hc
      have := hns.names d hd
      omega

open Surface Build

section

variable (file : Option String)

def builtChains (es : List Surface.Expr) : List Chain :=
  es.filterMap fun e => Chain.ofExpr? (Plain.expr file e)

@[simp] theorem builtChains_nil : builtChains file [] = [] := rfl

@[simp] theorem builtChains_append (es es' : List Surface.Expr) :
    builtChains file (es ++ es') = builtChains file es ++ builtChains file es' :=
  List.filterMap_append

theorem callsItems_of_empty {is : List Item} (h : moreItems is = false) : callsItems is = [] := by
  apply moreItems_induction (P := fun is => callsItems is = []) h rfl
  intro x is ih
  rw [callsItems, ih]
  rfl

theorem chains_leaf {t : Expr} (hcall : Chain.ofExpr? t = none) (hleaf : t.children = []) :
    (Node.expr t).chains = [] := by
  have hnone : Chain.ofNode? (.expr t) = none := hcall
  rw [Node.chains_of_none hnone, Node.children, hleaf]
  rfl

mutual

theorem chains_expr : (e : Surface.Expr) → Builds.expr e = true →
    (Node.expr (Plain.expr file e)).chains = builtChains file e.calls
  | .int t, _ => by
      have hcall : Chain.ofExpr? (Plain.intExpr file t) = none := by
        unfold Plain.intExpr
        split <;> rfl
      exact chains_leaf hcall (Plain.children_int file t)
  | .string t, _ => by
      have hcall : Chain.ofExpr? (Plain.stringExpr file t) = none := by
        unfold Plain.stringExpr
        split <;> rfl
      exact chains_leaf hcall (Plain.children_string file t)
  | .float _, _ | .bool _ _, _ | .path _ _, _ | .brk _, _ | .cont _, _ => chains_leaf rfl rfl
  | .macroCall _ args _, h => (Node.chains_of_none rfl).trans (chains_exprs args h)
  | .paren inner _, h => chains_expr inner h
  | .tuple elems _, h => (Node.chains_of_none rfl).trans (chains_exprs elems h)
  | .array elems _, h => (Node.chains_of_none rfl).trans (chains_exprs elems h)
  | .block body, h => by
      rw [Plain.expr, Node.chains_of_none rfl, Node.children, Expr.children, List.flatMap_singleton]
      exact chains_block body h
  | .cond test yes no _, h => by
      simp only [Builds.expr, Bool.and_eq_true] at h
      rw [Plain.expr, Node.chains_of_none rfl, Node.children, Expr.children, List.flatMap_cons,
        List.flatMap_cons, chains_expr test h.1, chains_block yes h.2.1, chains_optional no h.2.2,
        Expr.calls, builtChains_append, builtChains_append]
  | .whileLoop test body _, h => by
      simp only [Builds.expr, Bool.and_eq_true] at h
      rw [Plain.expr, Node.chains_of_none rfl, Node.children, Expr.children, List.flatMap_cons,
        List.flatMap_singleton, chains_expr test h.1, chains_block body h.2, Expr.calls, builtChains_append]
  | .loop body _, h => by
      rw [Plain.expr, Node.chains_of_none rfl, Node.children, Expr.children, List.flatMap_singleton]
      exact chains_block body h
  | .forLoop p iterable body _, h => by
      simp only [Builds.expr, Bool.and_eq_true] at h
      rw [Plain.expr, Node.chains_of_none rfl, Node.children, Expr.children, List.flatMap_cons,
        List.flatMap_cons, List.flatMap_singleton, Node.chains_pat, List.nil_append,
        chains_expr iterable h.1, chains_block body h.2, Expr.calls, builtChains_append]
  | .ret value _, h => (Node.chains_of_none rfl).trans (chains_optional value h)
  | .unary _ operand _, h => by
      rw [Plain.expr, Node.chains_of_none rfl, Node.children, Expr.children, List.flatMap_singleton]
      exact chains_expr operand h
  | .binary _ left right _, h => by
      simp only [Builds.expr, Bool.and_eq_true] at h
      rw [Plain.expr, Node.chains_of_none rfl, Node.children, Expr.children, List.flatMap_cons,
        List.flatMap_singleton, chains_expr left h.1, chains_expr right h.2, Expr.calls,
        builtChains_append]
  | .range lower upper _, h => by
      simp only [Builds.expr, Bool.and_eq_true] at h
      rw [Plain.expr, Node.chains_of_none rfl, Node.children, Expr.children, List.map_append,
        List.flatMap_append, chains_optional lower h.1, chains_optional upper h.2, Expr.calls,
        builtChains_append]
  | .call callee args _, h => by
      simp only [Builds.expr, Bool.and_eq_true] at h
      rw [Plain.expr, Node.chains_of_none rfl, Node.children, Expr.children, List.flatMap_cons,
        chains_expr callee h.1, chains_exprs args h.2, Expr.calls, builtChains_append]
  | .methodCall receiver name args x, h => by
      simp only [Builds.expr, Bool.and_eq_true] at h
      have hself : builtChains file (Surface.Expr.calls (.methodCall receiver name args x)) =
          (Chain.ofExpr? (Plain.expr file (.methodCall receiver name args x))).toList ++
            builtChains file (receiver.calls ++ callsAll args) := by
        rw [Expr.calls, builtChains, List.filterMap_cons]
        cases Chain.ofExpr? (Plain.expr file (.methodCall receiver name args x)) <;> rfl
      rw [hself, builtChains_append, ← chains_expr receiver h.1, ← chains_exprs args h.2,
        Node.chains_eq, Plain.expr, Node.children, Expr.children, List.flatMap_cons]
      rfl
  | .field subject _ _, h => by
      rw [Plain.expr, Node.chains_of_none rfl, Node.children, Expr.children, List.flatMap_singleton]
      exact chains_expr subject h
  | .index subject position _, h => by
      simp only [Builds.expr, Bool.and_eq_true] at h
      rw [Plain.expr, Node.chains_of_none rfl, Node.children, Expr.children, List.flatMap_cons,
        List.flatMap_singleton, chains_expr subject h.1, chains_expr position h.2, Expr.calls,
        builtChains_append]
  | .closure _ params body _, h => by
      rw [Plain.expr, Node.chains_of_none rfl, Node.children, Expr.children, List.flatMap_append,
        Node.chains_params, List.flatMap_singleton]
      exact chains_expr body h

theorem chains_exprs : (es : List Surface.Expr) → Builds.exprs es = true →
    ((Plain.exprs file es).map Node.expr).flatMap Node.chains = builtChains file (callsAll es)
  | [], _ => rfl
  | e :: es, h => by
      simp only [Builds.exprs, Bool.and_eq_true] at h
      rw [Plain.exprs, List.map_cons, List.flatMap_cons, chains_expr e h.1, chains_exprs es h.2,
        callsAll, builtChains_append]

theorem chains_optional : (o : Option Surface.Expr) → Builds.optional o = true →
    ((Plain.optional file o).toList.map Node.expr).flatMap Node.chains =
      builtChains file (callsOption o)
  | none, _ => rfl
  | some e, h => by
      rw [Plain.optional, Option.toList_some, List.map_singleton, List.flatMap_singleton]
      exact chains_expr e h

theorem chains_block : (b : Surface.Block) → Builds.block b = true →
    (Node.block (Plain.block file b)).chains = builtChains file b.calls
  | .mk items _, h => (Node.chains_of_none rfl).trans (chains_stmts items h)

theorem chains_stmts : (is : List Item) → Builds.stmts is = true →
    ((Plain.stmts file is).1.map Node.stmt ++ (Plain.stmts file is).2.toList.map Node.expr).flatMap
      Node.chains = builtChains file (callsItems is)
  | [], _ => rfl
  | .empty _ :: rest, h => chains_stmts rest h
  | .letItem p declared value x :: rest, h => by
      simp only [Builds.stmts, Bool.and_eq_true] at h
      rw [Plain.stmts, List.map_cons, List.cons_append, List.flatMap_cons, chains_stmts rest h.2,
        Node.chains_of_none rfl, Node.children, List.flatMap_cons, Node.chains_pat, List.nil_append,
        chains_optional value h.1, callsItems, Item.calls, builtChains_append]
  | .exprItem value semi x :: rest, h => by
      simp only [Builds.stmts, Bool.and_eq_true] at h
      rw [Plain.stmts, isBlockLike_plain, callsItems, Item.calls, builtChains_append]
      by_cases hmore : (semi || (moreItems rest && Builds.endsInBlock value)) = true
      · rw [if_pos hmore] at h ⊢
        rw [List.map_cons, List.cons_append, List.flatMap_cons, chains_stmts rest h.2,
          Node.chains_of_none rfl, Node.children, List.flatMap_singleton, chains_expr value h.1]
      · rw [if_neg hmore] at h ⊢
        have hempty : moreItems rest = false := by simpa using h.2
        rw [callsItems_of_empty hempty, builtChains_nil, List.append_nil, Option.toList_some,
          List.map_singleton, List.map_nil, List.nil_append, List.flatMap_singleton]
        exact chains_expr value h.1

end

theorem chains_functions {fs : List Surface.Function}
    (h : (fs.all fun f => Builds.block f.body) = true) :
    (fs.map fun f => Node.function (Plain.function file f)).flatMap Node.chains =
      builtChains file (fs.flatMap fun f => f.body.calls) := by
  induction fs with
  | nil => rfl
  | cons f fs ih =>
      rw [List.all_cons, Bool.and_eq_true] at h
      rw [List.map_cons, List.flatMap_cons, List.flatMap_cons, ih h.2, builtChains_append,
        Node.chains_of_none rfl, Node.children, List.flatMap_append, Plain.function,
        Node.chains_params, List.flatMap_singleton, chains_block file f.body h.1]
      rfl

end

theorem Reads.chains {file : Option String} {text : List Char} {m : Module}
    {fs : List Surface.Function} {ws : List Lexeme} (h : Reads file text m fs ws) :
    (MapUnwrapOr.chains (Analysis.ofModule m)).map (Chain.erase Span.inRoot) =
      builtChains file (fs.flatMap fun f => f.body.calls) := by
  calc (MapUnwrapOr.chains (Analysis.ofModule m)).map (Chain.erase Span.inRoot)
    _ = (((Analysis.ofModule m).module.functions.map Node.function).flatMap Node.chains).map
          (Chain.erase Span.inRoot) := congrArg _ (Node.chains_of_none rfl)
    _ = (((Analysis.ofModule m).module.functions.map (Function.erase Span.inRoot)).map
          Node.function).flatMap Node.chains := by
        rw [List.map_flatMap, List.flatMap_map, List.map_map, List.flatMap_map]
        exact List.flatMap_congr fun g _ => (Node.chains_erase Span.inRoot (.function g)).symm
    _ = builtChains file (fs.flatMap fun f => f.body.calls) := by
        rw [h.analysis.functions, List.map_map]
        exact chains_functions file h.builds

end Tree

end ChainLint
