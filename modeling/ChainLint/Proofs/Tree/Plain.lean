import ChainLint.Proofs.Tree.Building
import ChainLint.Proofs.Tree.Erasure

namespace ChainLint.Tree

open Build

namespace Plain

variable (file : Option String)

def intExpr (t : Token) : Expr :=
  match Numeral.integer? t.text with
  | none => .int (infoOf file (.ofToken t)) 0 none
  | some n => .int (infoOf file (.ofToken t)) n.value n.suffix

def stringExpr (t : Token) : Expr :=
  match Escape.decode (unquote t.text) with
  | .error _ => .string (infoOf file (.ofToken t)) []
  | .ok value => .string (infoOf file (.ofToken t)) value

mutual

def expr : Surface.Expr → Expr
  | .int t => intExpr file t
  | .float t =>
      let r := Numeral.real t.text
      .float (infoOf file (.ofToken t)) r.bits r.suffix
  | .string t => stringExpr file t
  | .bool value t => .bool (infoOf file (.ofToken t)) value
  | .path segments e => .var (infoOf file e) (pathName segments) none
  | .macroCall name args e => .macroCall (infoOf file e) (spell name) (exprs args)
  | .paren inner _ => expr inner
  | .tuple elems e => .tuple (infoOf file e) (exprs elems)
  | .array elems e => .array (infoOf file e) (exprs elems)
  | .block body => .block (infoOf file body.extent) (block body)
  | .cond test yes no e => .cond (infoOf file e) (expr test) (block yes) (optional no)
  | .whileLoop test body e => .whileLoop (infoOf file e) (expr test) (block body)
  | .loop body e => .loop (infoOf file e) (block body)
  | .forLoop p iterable body e =>
      .forLoop (infoOf file e) (pattern file p) (expr iterable) (block body)
  | .ret value e => .ret (infoOf file e) (optional value)
  | .brk e => .brk (infoOf file e)
  | .cont e => .cont (infoOf file e)
  | .unary op operand e => .unary (infoOf file e) op (expr operand)
  | .binary op left right _ =>
      .binary ⟨0, (expr left).span.join (expr right).span⟩ op (expr left) (expr right)
  | .range lower upper e => .range (infoOf file e) (optional lower) (optional upper)
  | .call callee args e => .call (infoOf file e) (expr callee) (exprs args)
  | .methodCall receiver name args e =>
      .methodCall (infoOf file e) (expr receiver) (spell name) (spanOf file (.ofToken name))
        (exprs args)
  | .field subject name e => .field (infoOf file e) (expr subject) (spell name)
  | .index subject position e => .index (infoOf file e) (expr subject) (expr position)
  | .closure isMove params body e =>
      .closure (infoOf file e) (params.map (param file)) (expr body) isMove

def exprs : List Surface.Expr → List Expr
  | [] => []
  | e :: es => expr e :: exprs es

def optional : Option Surface.Expr → Option Expr
  | none => none
  | some e => some (expr e)

def block : Surface.Block → Block
  | .mk items e => .mk (infoOf file e) (stmts items).1 (stmts items).2

def stmts : List Surface.Item → List Stmt × Option Expr
  | [] => ([], none)
  | .empty _ :: rest => stmts rest
  | .letItem p declared value e :: rest =>
      (.letIn (infoOf file e) (pattern file p) (declared.map (typeExpr file)) (optional value) ::
        (stmts rest).1, (stmts rest).2)
  | .exprItem value semi e :: rest =>
      if semi || (moreItems rest && (expr value).isBlockLike) then
        (.expr (infoOf file e) (expr value) :: (stmts rest).1, (stmts rest).2)
      else ([], some (expr value))

end

def function (f : Surface.Function) : Function :=
  ⟨infoOf file f.extent, spell f.name, f.params.map (param file), block file f.body,
    f.result.map (typeExpr file)⟩

end Plain

namespace Builds

def endsInBlock : Surface.Expr → Bool
  | .cond .. | .whileLoop .. | .loop .. | .forLoop .. | .block .. => true
  | .paren inner _ => endsInBlock inner
  | _ => false

mutual

def expr : Surface.Expr → Bool
  | .int t => (Numeral.integer? t.text).isSome
  | .string t => (Escape.decode (unquote t.text)).isOk
  | .float _ | .bool _ _ | .path _ _ | .brk _ | .cont _ => true
  | .macroCall _ args _ => exprs args
  | .paren inner _ => expr inner
  | .tuple elems _ | .array elems _ => exprs elems
  | .block body | .loop body _ => block body
  | .cond test yes no _ => expr test && (block yes && optional no)
  | .whileLoop test body _ => expr test && block body
  | .forLoop _ iterable body _ => expr iterable && block body
  | .ret value _ => optional value
  | .unary _ operand _ => expr operand
  | .binary _ left right _ => expr left && expr right
  | .range lower upper _ => optional lower && optional upper
  | .call callee args _ => expr callee && exprs args
  | .methodCall receiver _ args _ => expr receiver && exprs args
  | .field subject _ _ => expr subject
  | .index subject position _ => expr subject && expr position
  | .closure _ _ body _ => expr body

def exprs : List Surface.Expr → Bool
  | [] => true
  | e :: es => expr e && exprs es

def optional : Option Surface.Expr → Bool
  | none => true
  | some e => expr e

def block : Surface.Block → Bool
  | .mk items _ => stmts items

def stmts : List Surface.Item → Bool
  | [] => true
  | .empty _ :: rest => stmts rest
  | .letItem _ _ value _ :: rest => optional value && stmts rest
  | .exprItem value semi _ :: rest =>
      expr value && if semi || (moreItems rest && endsInBlock value) then stmts rest
        else !moreItems rest

end

end Builds

end ChainLint.Tree

namespace ChainLint

def Span.inRoot (s : Span) : Span := { s with context := rootContext }

end ChainLint

namespace ChainLint.Tree

open Build

theorem Expr.span_erase (f : Span → Span) (e : Expr) : (e.erase f).span = f e.span :=
  Node.span_erase f (.expr e)

theorem Expr.isBlockLike_erase (f : Span → Span) (e : Expr) :
    (e.erase f).isBlockLike = e.isBlockLike := by
  cases e <;> rfl

namespace Plain

variable (file : Option String)

mutual

theorem erase_typeExpr : (t : Surface.TypeExpr) →
    (typeExpr file t).erase Span.inRoot = typeExpr file t
  | .named _ args _ => congrArg (TypeExpr.mk _ · _) (erase_typeExprs args)
  | .ref _ target _ => congrArg (TypeExpr.mk _ [·] _) (erase_typeExpr target)
  | .slice elem _ => congrArg (TypeExpr.mk _ [·] _) (erase_typeExpr elem)
  | .unit _ => rfl
  | .tuple elems _ => congrArg (TypeExpr.mk _ · _) (erase_typeExprs elems)

theorem erase_typeExprs : (ts : List Surface.TypeExpr) →
    eraseTypes Span.inRoot (typeExprs file ts) = typeExprs file ts
  | [] => rfl
  | t :: ts => congrArg₂ List.cons (erase_typeExpr t) (erase_typeExprs ts)

end

theorem erase_declared (o : Option Surface.TypeExpr) :
    (o.map (typeExpr file)).map (TypeExpr.erase Span.inRoot) = o.map (typeExpr file) := by
  cases o with
  | none => rfl
  | some t => exact congrArg some (erase_typeExpr file t)

mutual

theorem erase_pattern : (p : Surface.Pat) → (pattern file p).erase Span.inRoot = pattern file p
  | .binding .. | .wild _ => rfl
  | .tuple elems _ => congrArg (Pat.tuple _) (erase_patterns elems)

theorem erase_patterns : (ps : List Surface.Pat) →
    erasePats Span.inRoot (patterns file ps) = patterns file ps
  | [] => rfl
  | p :: ps => congrArg₂ List.cons (erase_pattern p) (erase_patterns ps)

end

theorem erase_params (ps : List Surface.Param) :
    (ps.map (param file)).map (Param.erase Span.inRoot) = ps.map (param file) := by
  rw [List.map_map]
  refine List.map_congr_left fun p _ => ?_
  exact congrArg₂ (Param.mk _) (erase_pattern file p.pattern) (erase_declared file p.declared)

end Plain

theorem isBlockLike_plain (file : Option String) :
    (e : Surface.Expr) → (Plain.expr file e).isBlockLike = Builds.endsInBlock e
  | .paren inner _ => isBlockLike_plain file inner
  | .int t => by
      change (Plain.intExpr file t).isBlockLike = false
      unfold Plain.intExpr
      split <;> rfl
  | .string t => by
      change (Plain.stringExpr file t).isBlockLike = false
      unfold Plain.stringExpr
      split <;> rfl
  | .float _ | .bool _ _ | .path _ _ | .macroCall _ _ _ | .tuple _ _ | .array _ _ | .block _
  | .cond _ _ _ _ | .whileLoop _ _ _ | .loop _ _ | .forLoop _ _ _ _ | .ret _ _ | .brk _ | .cont _
  | .unary _ _ _ | .binary _ _ _ _ | .range _ _ _ | .call _ _ _ | .methodCall _ _ _ _
  | .field _ _ _ | .index _ _ _ | .closure _ _ _ _ => rfl

theorem isBlockLike_of_erase {file : Option String} {e : Surface.Expr} {t : Expr}
    (h : t.erase Span.inRoot = Plain.expr file e) : t.isBlockLike = Builds.endsInBlock e := by
  rw [← isBlockLike_plain file, ← h, Expr.isBlockLike_erase]

namespace Build

theorem moreItems_induction {P : List Surface.Item → Prop} {is : List Surface.Item}
    (h : moreItems is = false) (nil : P [])
    (empty : ∀ x is, P is → P (.empty x :: is)) : P is := by
  induction is with
  | nil => exact nil
  | cons i is ih =>
      cases i with
      | empty x => exact empty x is (ih h)
      | _ => cases h

variable {α β : Type}

def Meets (b : Build α) (succeeds : Bool) (P : α → Prop) : Prop :=
  ∀ x, (succeeds = true → ∃ a x', Gives b x a x' ∧ P a) ∧
    ∀ a x', Gives b x a x' → succeeds = true ∧ P a

theorem Meets.pure {a : α} {P : α → Prop} (h : P a) : Meets (pure a) true P := by
  refine fun _ => ⟨fun _ => ⟨a, _, gives_pure.mpr ⟨rfl, rfl⟩, h⟩, fun _ _ hb => ?_⟩
  obtain ⟨rfl, -⟩ := gives_pure.mp hb
  exact ⟨rfl, h⟩

theorem Meets.throw {e : BuildError} {P : α → Prop} : Meets (throw e) false P :=
  fun _ => ⟨nofun, fun _ _ h => absurd h not_gives_throw⟩

theorem Meets.bind {b : Build α} {f : α → Build β} {s s' : Bool} {P : α → Prop} {Q : β → Prop}
    (hb : Meets b s P) (hf : ∀ a, P a → Meets (f a) s' Q) : Meets (b >>= f) (s && s') Q := by
  intro x
  constructor
  · intro h
    obtain ⟨hs, hs'⟩ := Bool.and_eq_true_iff.mp h
    obtain ⟨a, y, ha, hP⟩ := (hb x).1 hs
    obtain ⟨r, z, hr, hQ⟩ := (hf a hP y).1 hs'
    exact ⟨r, z, gives_bind.mpr ⟨a, y, ha, hr⟩, hQ⟩
  · intro r z h
    obtain ⟨a, y, ha, hr⟩ := gives_bind.mp h
    obtain ⟨hs, hP⟩ := (hb x).2 a y ha
    obtain ⟨hs', hQ⟩ := (hf a hP y).2 r z hr
    exact ⟨Bool.and_eq_true_iff.mpr ⟨hs, hs'⟩, hQ⟩

theorem Meets.map {b : Build α} {f : α → β} {s : Bool} {P : α → Prop} {Q : β → Prop}
    (hb : Meets b s P) (hf : ∀ a, P a → Q (f a)) : Meets (b >>= fun a => Pure.pure (f a)) s Q := by
  have := hb.bind (f := fun a => Pure.pure (f a)) fun a ha => .pure (hf a ha)
  rwa [Bool.and_true] at this

theorem meets_modifyGet (f : Expansions → α × Expansions) :
    Meets (modifyGet f) true fun _ => True :=
  fun x => ⟨fun _ => ⟨_, _, gives_modifyGet.mpr rfl, trivial⟩, fun _ _ _ => ⟨rfl, trivial⟩⟩

variable (file : Option String)

mutual

theorem meets_expr : (e : Surface.Expr) →
    Meets (expr file e) (Builds.expr e) fun t => t.erase Span.inRoot = Plain.expr file e
  | .int t => by
      rw [expr, Builds.expr, Plain.expr, Plain.intExpr]
      cases Numeral.integer? t.text with
      | none => exact .throw
      | some n => exact .pure rfl
  | .float _ | .bool _ _ | .path _ _ | .brk _ | .cont _ => .pure rfl
  | .string t => by
      rw [expr, Builds.expr, Plain.expr, Plain.stringExpr]
      cases Escape.decode (unquote t.text) with
      | error _ => exact .throw
      | ok value => exact .pure rfl
  | .macroCall _ args _ => by
      refine (meets_modifyGet _).bind fun _ _ => (meets_exprs args).map fun ts hts => ?_
      rw [Plain.expr, ← hts]
      rfl
  | .paren inner _ => meets_expr inner
  | .tuple elems _ => (meets_exprs elems).map fun ts hts => by rw [Plain.expr, ← hts]; rfl
  | .array elems _ => (meets_exprs elems).map fun ts hts => by rw [Plain.expr, ← hts]; rfl
  | .block body => (meets_block body).map fun b hb => by rw [Plain.expr, ← hb]; rfl
  | .cond test yes no _ =>
      (meets_expr test).bind fun t ht => (meets_block yes).bind fun y hy =>
        (meets_optional no).map fun n hn => by rw [Plain.expr, ← ht, ← hy, ← hn]; rfl
  | .whileLoop test body _ =>
      (meets_expr test).bind fun t ht => (meets_block body).map fun b hb => by
        rw [Plain.expr, ← ht, ← hb]; rfl
  | .loop body _ => (meets_block body).map fun b hb => by rw [Plain.expr, ← hb]; rfl
  | .forLoop p iterable body _ =>
      (meets_expr iterable).bind fun t ht => (meets_block body).map fun b hb => by
        rw [Plain.expr, ← ht, ← hb, Expr.erase, Plain.erase_pattern]; rfl
  | .ret value _ => (meets_optional value).map fun o ho => by rw [Plain.expr, ← ho]; rfl
  | .unary _ operand _ => (meets_expr operand).map fun t ht => by rw [Plain.expr, ← ht]; rfl
  | .binary op left right _ =>
      (meets_expr left).bind fun l hl => (meets_expr right).map fun r hr => by
        rw [Plain.expr, ← hl, ← hr, Expr.span_erase, Expr.span_erase]; rfl
  | .range lower upper _ =>
      (meets_optional lower).bind fun l hl => (meets_optional upper).map fun u hu => by
        rw [Plain.expr, ← hl, ← hu]; rfl
  | .call callee args _ =>
      (meets_expr callee).bind fun t ht => (meets_exprs args).map fun ts hts => by
        rw [Plain.expr, ← ht, ← hts]; rfl
  | .methodCall receiver _ args _ =>
      (meets_expr receiver).bind fun t ht => (meets_exprs args).map fun ts hts => by
        rw [Plain.expr, ← ht, ← hts]; rfl
  | .field subject _ _ => (meets_expr subject).map fun t ht => by rw [Plain.expr, ← ht]; rfl
  | .index subject position _ =>
      (meets_expr subject).bind fun t ht => (meets_expr position).map fun u hu => by
        rw [Plain.expr, ← ht, ← hu]; rfl
  | .closure _ params body _ => (meets_expr body).map fun t ht => by
      rw [Plain.expr, ← ht, Expr.erase, Plain.erase_params]; rfl

theorem meets_exprs : (es : List Surface.Expr) →
    Meets (exprs file es) (Builds.exprs es) fun ts =>
      eraseExprs Span.inRoot ts = Plain.exprs file es
  | [] => .pure rfl
  | e :: es => (meets_expr e).bind fun t ht => (meets_exprs es).map fun ts hts => by
      rw [Plain.exprs, ← ht, ← hts]; rfl

theorem meets_optional : (o : Option Surface.Expr) →
    Meets (optional file o) (Builds.optional o) fun t =>
      eraseOption Span.inRoot t = Plain.optional file o
  | none => .pure rfl
  | some e => (meets_expr e).map fun t ht => by rw [Plain.optional, ← ht]; rfl

theorem meets_block : (b : Surface.Block) →
    Meets (block file b) (Builds.block b) fun t => t.erase Span.inRoot = Plain.block file b
  | .mk items _ => (meets_stmts items).map fun (ss, tail) ⟨hss, htail⟩ => by
      rw [Plain.block, ← hss, ← htail]; rfl

theorem meets_stmts : (is : List Surface.Item) →
    Meets (stmts file is) (Builds.stmts is) fun r =>
      eraseStmts Span.inRoot r.1 = (Plain.stmts file is).1 ∧
        eraseOption Span.inRoot r.2 = (Plain.stmts file is).2
  | [] => .pure ⟨rfl, rfl⟩
  | .empty _ :: rest => meets_stmts rest
  | .letItem p declared value _ :: rest =>
      (meets_optional value).bind fun o ho => (meets_stmts rest).map fun (ss, tail) ⟨hss, htail⟩ => by
        rw [Plain.stmts, ← ho, ← hss, ← htail, eraseStmts, Stmt.erase, Plain.erase_pattern,
          Plain.erase_declared]
        exact ⟨rfl, rfl⟩
  | .exprItem value semi _ :: rest => by
      refine (meets_expr value).bind fun t ht => ?_
      rw [Plain.stmts, isBlockLike_plain, isBlockLike_of_erase ht]
      split
      · refine (meets_stmts rest).map fun (ss, tail) ⟨hss, htail⟩ => ?_
        rw [← hss, ← htail, ← ht]
        exact ⟨rfl, rfl⟩
      · cases hmore : moreItems rest with
        | true => exact .throw
        | false => exact .pure ⟨rfl, by rw [← ht]; rfl⟩

end

theorem meets_function (f : Surface.Function) :
    Meets (function file f) (Builds.block f.body) fun t =>
      t.erase Span.inRoot = Plain.function file f :=
  (meets_block file f.body).map fun b hb => by
    rw [Plain.function, ← hb, Function.erase, Plain.erase_params, Plain.erase_declared]; rfl

theorem meets_functions : (fs : List Surface.Function) →
    Meets (functions file fs) (fs.all fun f => Builds.block f.body) fun ts =>
      ts.map (Function.erase Span.inRoot) = fs.map (Plain.function file)
  | [] => .pure rfl
  | f :: fs => by
      rw [List.all_cons]
      exact (meets_function file f).bind fun t ht => (meets_functions fs).map fun ts hts => by
        rw [List.map_cons, List.map_cons, ht, hts]

end Build

end ChainLint.Tree
