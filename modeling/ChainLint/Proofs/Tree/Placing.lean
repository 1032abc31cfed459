import ChainLint.Proofs.Grammar.Placing
import ChainLint.Proofs.Tree.Plain

namespace ChainLint.Tree

open Build

structure Respans (file : Option String) (g : Placing) (f f' : Span → Span) : Prop where
  extent (x : Surface.Extent) : f' (spanOf file (g.extent x)) = f (spanOf file x)
  join {s t s' t' : Span} (hs : f' s' = f s) (ht : f' t' = f t) : f' (s'.join t') = f (s.join t)

def unplaced : Span → Span := fun _ => {}

theorem respans_unplaced (file : Option String) (g : Placing) :
    Respans file g unplaced unplaced := ⟨fun _ => rfl, fun _ _ => rfl⟩

namespace Plain

variable {file : Option String} {g : Placing} {f f' : Span → Span}

theorem info_place (h : Respans file g f f') (x : Surface.Extent) :
    (infoOf file (g.extent x)).erase f' = (infoOf file x).erase f :=
  congrArg (Info.mk 0) (h.extent x)

theorem pathName_place (g : Placing) (ts : List Token) :
    pathName (ts.map g.token) = pathName ts := by
  rw [pathName, pathName, List.map_map]
  rfl

mutual

theorem typeExpr_place (h : Respans file g f f') : (t : Surface.TypeExpr) →
    (typeExpr file (t.place g)).erase f' = (typeExpr file t).erase f
  | .named path args x => by
      rw [Surface.TypeExpr.place, typeExpr, typeExpr, pathName_place, TypeExpr.erase,
        TypeExpr.erase, typeExprs_place h args, h.extent]
  | .ref isMut target x => by
      rw [Surface.TypeExpr.place, typeExpr, typeExpr, TypeExpr.erase, TypeExpr.erase, eraseTypes,
        eraseTypes, typeExpr_place h target, h.extent]
      rfl
  | .slice elem x => by
      rw [Surface.TypeExpr.place, typeExpr, typeExpr, TypeExpr.erase, TypeExpr.erase, eraseTypes,
        eraseTypes, typeExpr_place h elem, h.extent]
      rfl
  | .unit x => congrArg (TypeExpr.mk _ []) (h.extent x)
  | .tuple elems x => congrArg₂ (TypeExpr.mk _) (typeExprs_place h elems) (h.extent x)

theorem typeExprs_place (h : Respans file g f f') : (ts : List Surface.TypeExpr) →
    eraseTypes f' (typeExprs file (Surface.placeTypes g ts)) = eraseTypes f (typeExprs file ts)
  | [] => rfl
  | t :: ts => congrArg₂ List.cons (typeExpr_place h t) (typeExprs_place h ts)

end

theorem declared_place (h : Respans file g f f') (o : Option Surface.TypeExpr) :
    ((o.map (Surface.TypeExpr.place g)).map (typeExpr file)).map (TypeExpr.erase f') =
      (o.map (typeExpr file)).map (TypeExpr.erase f) := by
  cases o with
  | none => rfl
  | some t => exact congrArg some (typeExpr_place h t)

mutual

theorem pattern_place (h : Respans file g f f') : (p : Surface.Pat) →
    (pattern file (p.place g)).erase f' = (pattern file p).erase f
  | .binding isMut _ x => congrArg (Pat.binding · _ isMut) (info_place h x)
  | .wild x => congrArg Pat.wild (info_place h x)
  | .tuple elems x => congrArg₂ Pat.tuple (info_place h x) (patterns_place h elems)

theorem patterns_place (h : Respans file g f f') : (ps : List Surface.Pat) →
    erasePats f' (patterns file (Surface.placePats g ps)) = erasePats f (patterns file ps)
  | [] => rfl
  | p :: ps => congrArg₂ List.cons (pattern_place h p) (patterns_place h ps)

end

theorem param_place (h : Respans file g f f') (p : Surface.Param) :
    (param file (p.place g)).erase f' = (param file p).erase f := by
  rw [param, param, Param.erase, Param.erase]
  simp only [Surface.Param.place]
  rw [info_place h, pattern_place h, declared_place h]

theorem params_place (h : Respans file g f f') (ps : List Surface.Param) :
    ((ps.map (Surface.Param.place g)).map (param file)).map (Param.erase f') =
      (ps.map (param file)).map (Param.erase f) := by
  rw [List.map_map, List.map_map, List.map_map]
  exact List.map_congr_left fun p _ => param_place h p

theorem endsInBlock_place (g : Placing) : (e : Surface.Expr) →
    Builds.endsInBlock (e.place g) = Builds.endsInBlock e
  | .paren inner _ => endsInBlock_place g inner
  | .int _ | .float _ | .string _ | .bool _ _ | .path _ _ | .macroCall _ _ _ | .tuple _ _
  | .array _ _ | .block _ | .cond _ _ _ _ | .whileLoop _ _ _ | .loop _ _ | .forLoop _ _ _ _
  | .ret _ _ | .brk _ | .cont _ | .unary _ _ _ | .binary _ _ _ _ | .range _ _ _ | .call _ _ _
  | .methodCall _ _ _ _ | .field _ _ _ | .index _ _ _ | .closure _ _ _ _ => rfl

theorem moreItems_place (g : Placing) (is : List Surface.Item) :
    moreItems (Surface.placeItems g is) = moreItems is := by
  have hall : (Surface.placeItems g is).all isEmptyItem = is.all isEmptyItem := by
    induction is with
    | nil => rfl
    | cons i is ih =>
        rw [Surface.placeItems, List.all_cons, List.all_cons, ih]
        cases i <;> rfl
  rw [moreItems, moreItems, hall]

mutual

theorem expr_place (h : Respans file g f f') : (e : Surface.Expr) →
    (expr file (e.place g)).erase f' = (expr file e).erase f
  | .int t => by
      change (intExpr file (g.token t)).erase f' = (intExpr file t).erase f
      rw [intExpr, intExpr]
      change (match Numeral.integer? t.text with
        | none => Expr.int (infoOf file (g.extent (.ofToken t))) 0 none
        | some n => Expr.int (infoOf file (g.extent (.ofToken t))) n.value n.suffix).erase f' = _
      cases Numeral.integer? t.text with
      | none => exact congrArg (Expr.int · 0 none) (info_place h _)
      | some n => exact congrArg (Expr.int · n.value n.suffix) (info_place h _)
  | .float t => congrArg (Expr.float · _ _) (info_place h (.ofToken t))
  | .string t => by
      change (stringExpr file (g.token t)).erase f' = (stringExpr file t).erase f
      rw [stringExpr, stringExpr]
      change (match Escape.decode (unquote t.text) with
        | .error _ => Expr.string (infoOf file (g.extent (.ofToken t))) []
        | .ok value => Expr.string (infoOf file (g.extent (.ofToken t))) value).erase f' = _
      cases Escape.decode (unquote t.text) with
      | error _ => exact congrArg (Expr.string · []) (info_place h _)
      | ok value => exact congrArg (Expr.string · value) (info_place h _)
  | .bool value t => congrArg (Expr.bool · value) (info_place h (.ofToken t))
  | .path segments x => congrArg₂ (Expr.var · · none) (info_place h x) (pathName_place g segments)
  | .macroCall _ args x => congrArg₂ (Expr.macroCall · _ ·) (info_place h x) (exprs_place h args)
  | .paren inner _ => expr_place h inner
  | .tuple elems x => congrArg₂ Expr.tuple (info_place h x) (exprs_place h elems)
  | .array elems x => congrArg₂ Expr.array (info_place h x) (exprs_place h elems)
  | .block body => by
      have hinfo := info_place h body.extent
      rw [← body.extent_place] at hinfo
      exact congrArg₂ Expr.block hinfo (block_place h body)
  | .cond test yes no x => by
      change Expr.cond _ _ _ _ = Expr.cond _ _ _ _
      rw [info_place h x, expr_place h test, block_place h yes, optional_place h no]
  | .whileLoop test body x => by
      change Expr.whileLoop _ _ _ = Expr.whileLoop _ _ _
      rw [info_place h x, expr_place h test, block_place h body]
  | .loop body x => congrArg₂ Expr.loop (info_place h x) (block_place h body)
  | .forLoop p iterable body x => by
      change Expr.forLoop _ _ _ _ = Expr.forLoop _ _ _ _
      rw [info_place h x, pattern_place h p, expr_place h iterable, block_place h body]
  | .ret value x => congrArg₂ Expr.ret (info_place h x) (optional_place h value)
  | .brk x => congrArg Expr.brk (info_place h x)
  | .cont x => congrArg Expr.cont (info_place h x)
  | .unary op operand x => congrArg₂ (Expr.unary · op ·) (info_place h x) (expr_place h operand)
  | .binary op left right _ => by
      have hl := expr_place h left
      have hr := expr_place h right
      have hls := congrArg Expr.span hl
      have hrs := congrArg Expr.span hr
      rw [Expr.span_erase, Expr.span_erase] at hls hrs
      have hspan := h.join hls hrs
      change Expr.binary ⟨0, f' _⟩ op _ _ = Expr.binary ⟨0, f _⟩ op _ _
      rw [hspan, hl, hr]
  | .range lower upper x => by
      change Expr.range _ _ _ = Expr.range _ _ _
      rw [info_place h x, optional_place h lower, optional_place h upper]
  | .call callee args x => by
      change Expr.call _ _ _ = Expr.call _ _ _
      rw [info_place h x, expr_place h callee, exprs_place h args]
  | .methodCall receiver name args x => by
      change Expr.methodCall _ _ _ (f' (spanOf file (g.extent (.ofToken name)))) _ =
        Expr.methodCall _ _ _ _ _
      rw [info_place h x, expr_place h receiver, exprs_place h args, h.extent]
      rfl
  | .field subject name x => congrArg₂ (Expr.field · · _) (info_place h x) (expr_place h subject)
  | .index subject position x => by
      change Expr.index _ _ _ = Expr.index _ _ _
      rw [info_place h x, expr_place h subject, expr_place h position]
  | .closure isMove params body x => by
      change Expr.closure _ _ _ _ = Expr.closure _ _ _ _
      rw [info_place h x, params_place h params, expr_place h body]

theorem exprs_place (h : Respans file g f f') : (es : List Surface.Expr) →
    eraseExprs f' (exprs file (Surface.placeExprs g es)) = eraseExprs f (exprs file es)
  | [] => rfl
  | e :: es => congrArg₂ List.cons (expr_place h e) (exprs_place h es)

theorem optional_place (h : Respans file g f f') : (o : Option Surface.Expr) →
    eraseOption f' (optional file (Surface.placeOption g o)) = eraseOption f (optional file o)
  | none => rfl
  | some e => congrArg some (expr_place h e)

theorem block_place (h : Respans file g f f') : (b : Surface.Block) →
    (block file (b.place g)).erase f' = (block file b).erase f
  | .mk items x => by
      change Block.mk _ _ _ = Block.mk _ _ _
      rw [info_place h x, (stmts_place h items).1, (stmts_place h items).2]

theorem stmts_place (h : Respans file g f f') : (is : List Surface.Item) →
    eraseStmts f' (stmts file (Surface.placeItems g is)).1 = eraseStmts f (stmts file is).1 ∧
      eraseOption f' (stmts file (Surface.placeItems g is)).2 = eraseOption f (stmts file is).2
  | [] => ⟨rfl, rfl⟩
  | .empty _ :: rest => stmts_place h rest
  | .letItem p declared value x :: rest => by
      refine ⟨congrArg₂ List.cons ?_ (stmts_place h rest).1, (stmts_place h rest).2⟩
      change Stmt.letIn _ _ _ _ = Stmt.letIn _ _ _ _
      rw [info_place h x, pattern_place h p, declared_place h declared, optional_place h value]
  | .exprItem value semi x :: rest => by
      have hvalue := expr_place h value
      rw [Surface.placeItems, Surface.Item.place, stmts, stmts, moreItems_place,
        isBlockLike_plain, isBlockLike_plain, endsInBlock_place]
      split
      · refine ⟨congrArg₂ List.cons ?_ (stmts_place h rest).1, (stmts_place h rest).2⟩
        exact congrArg₂ Stmt.expr (info_place h x) hvalue
      · exact ⟨rfl, congrArg some hvalue⟩

end

theorem function_place (h : Respans file g f f') (t : Surface.Function) :
    (function file (t.place g)).erase f' = (function file t).erase f := by
  have hinfo := info_place h t.extent
  have hparams := params_place h t.params
  have hbody := block_place h t.body
  have hresult := declared_place h t.result
  change Function.mk ((infoOf file (g.extent t.extent)).erase f') (spell t.name) _ _ _ = Function.mk _ _ _ _ _
  exact congr (congr (congrArg₂ (Function.mk · (spell t.name) ·) hinfo hparams) hbody) hresult

end Plain

namespace Builds

variable (g : Placing)

mutual

theorem expr_place : (e : Surface.Expr) → expr (e.place g) = expr e
  | .int _ | .float _ | .string _ | .bool _ _ | .path _ _ | .brk _ | .cont _ => rfl
  | .macroCall _ args _ | .tuple args _ | .array args _ => exprs_place args
  | .paren inner _ => expr_place inner
  | .block body | .loop body _ => block_place body
  | .cond test yes no _ =>
      congrArg₂ and (expr_place test) (congrArg₂ and (block_place yes) (optional_place no))
  | .whileLoop test body _ => congrArg₂ and (expr_place test) (block_place body)
  | .forLoop _ iterable body _ => congrArg₂ and (expr_place iterable) (block_place body)
  | .ret value _ => optional_place value
  | .unary _ operand _ => expr_place operand
  | .binary _ left right _ => congrArg₂ and (expr_place left) (expr_place right)
  | .range lower upper _ => congrArg₂ and (optional_place lower) (optional_place upper)
  | .call callee args _ => congrArg₂ and (expr_place callee) (exprs_place args)
  | .methodCall receiver _ args _ => congrArg₂ and (expr_place receiver) (exprs_place args)
  | .field subject _ _ => expr_place subject
  | .index subject position _ => congrArg₂ and (expr_place subject) (expr_place position)
  | .closure _ _ body _ => expr_place body

theorem exprs_place : (es : List Surface.Expr) → exprs (Surface.placeExprs g es) = exprs es
  | [] => rfl
  | e :: es => congrArg₂ and (expr_place e) (exprs_place es)

theorem optional_place : (o : Option Surface.Expr) →
    optional (Surface.placeOption g o) = optional o
  | none => rfl
  | some e => expr_place e

theorem block_place : (b : Surface.Block) → block (b.place g) = block b
  | .mk items _ => stmts_place items

theorem stmts_place : (is : List Surface.Item) → stmts (Surface.placeItems g is) = stmts is
  | [] => rfl
  | .empty _ :: rest => stmts_place rest
  | .letItem _ _ value _ :: rest => congrArg₂ and (optional_place value) (stmts_place rest)
  | .exprItem value semi _ :: rest => by
      rw [Surface.placeItems, Surface.Item.place, stmts, stmts, expr_place value,
        Plain.moreItems_place, Plain.endsInBlock_place, stmts_place rest]

end

end Builds

end ChainLint.Tree
