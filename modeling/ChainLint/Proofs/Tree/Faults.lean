import ChainLint.Proofs.Tree.Reads

namespace ChainLint.Tree

open Build

def BuildError.inRoot : BuildError → BuildError
  | .missingSemicolon span => .missingSemicolon span.inRoot
  | e => e

def BuildError.isLiteral : BuildError → Bool
  | .missingSemicolon _ => false
  | _ => true

namespace Faults

variable (file : Option String)

def int (t : Token) : List BuildError :=
  if (Numeral.integer? t.text).isSome then [] else [.longInteger]

def string (t : Token) : List BuildError :=
  match Escape.decode (unquote t.text) with
  | .error cause => [.badString cause]
  | .ok _ => []

def semicolon (value : Surface.Expr) (semi : Bool) (rest : List Surface.Item) : List BuildError :=
  if semi || Builds.endsInBlock value || !moreItems rest then []
  else [.missingSemicolon (Plain.expr file value).span]

mutual

def expr : Surface.Expr → List BuildError
  | .int t => int t
  | .string t => string t
  | .float _ | .bool _ _ | .path _ _ | .brk _ | .cont _ => []
  | .macroCall _ args _ | .tuple args _ | .array args _ => exprs args
  | .paren inner _ => expr inner
  | .block body | .loop body _ => block body
  | .cond test yes no _ => expr test ++ (block yes ++ optional no)
  | .whileLoop test body _ => expr test ++ block body
  | .forLoop _ iterable body _ => expr iterable ++ block body
  | .ret value _ => optional value
  | .unary _ operand _ => expr operand
  | .binary _ left right _ => expr left ++ expr right
  | .range lower upper _ => optional lower ++ optional upper
  | .call callee args _ => expr callee ++ exprs args
  | .methodCall receiver _ args _ => expr receiver ++ exprs args
  | .field subject _ _ => expr subject
  | .index subject position _ => expr subject ++ expr position
  | .closure _ _ body _ => expr body

def exprs : List Surface.Expr → List BuildError
  | [] => []
  | e :: es => expr e ++ exprs es

def optional : Option Surface.Expr → List BuildError
  | none => []
  | some e => expr e

def block : Surface.Block → List BuildError
  | .mk items _ => stmts items

def stmts : List Surface.Item → List BuildError
  | [] => []
  | .empty _ :: rest => stmts rest
  | .letItem _ _ value _ :: rest => optional value ++ stmts rest
  | .exprItem value semi _ :: rest => expr value ++ (semicolon file value semi rest ++ stmts rest)

end

def module (fs : List Surface.Function) : List BuildError := fs.flatMap fun f => block file f.body

theorem stmts_of_not_more {is : List Surface.Item} (h : moreItems is = false) :
    stmts file is = [] := by
  apply moreItems_induction (P := fun is => stmts file is = []) h rfl
  intro x is ih
  rw [stmts, ih]

end Faults

namespace Build

variable {α β : Type}

def FailsFirst (b : Build α) (faults : List BuildError) : Prop :=
  ∀ x, (∃ a x', Gives b x a x' ∧ faults = []) ∨
    ∃ e x', b.run.run x = (.error e, x') ∧ faults.head? = some e.inRoot

namespace FailsFirst

theorem pure {a : α} : FailsFirst (pure a) [] := fun x => .inl ⟨a, x, rfl, rfl⟩

theorem throw {e : BuildError} {fs : List BuildError} :
    FailsFirst (throw e : Build α) (e.inRoot :: fs) :=
  fun x => .inr ⟨e, x, rfl, rfl⟩

theorem modifyGet (f : Expansions → α × Expansions) : FailsFirst (modifyGet f) [] :=
  fun _ => .inl ⟨_, _, rfl, rfl⟩

theorem bind {b : Build α} {f : α → Build β} {us vs : List BuildError} (hb : FailsFirst b us)
    (hf : ∀ {x a y}, Gives b x a y → FailsFirst (f a) vs) : FailsFirst (b >>= f) (us ++ vs) := by
  intro x
  rcases hb x with ⟨a, y, ha, rfl⟩ | ⟨e, y, he, hus⟩
  · rcases hf ha y with ⟨r, z, hr, hvs⟩ | ⟨e, z, he, hvs⟩
    · exact .inl ⟨r, z, gives_bind.mpr ⟨a, y, ha, hr⟩, hvs⟩
    · exact .inr ⟨e, z, (run_bind_ok ha).trans he, hvs⟩
  · refine .inr ⟨e, y, run_bind_error he, ?_⟩
    rw [List.head?_append, hus, Option.some_or]

theorem map {b : Build α} {f : α → β} {us : List BuildError} (hb : FailsFirst b us) :
    FailsFirst (b >>= fun a => Pure.pure (f a)) us := by
  have := hb.bind (f := fun a => Pure.pure (f a)) fun _ => .pure
  rwa [List.append_nil] at this

end FailsFirst

variable (file : Option String)

mutual

theorem failsFirst_expr : (e : Surface.Expr) → FailsFirst (expr file e) (Faults.expr file e)
  | .int t => by
      rw [expr, Faults.expr, Faults.int]
      cases Numeral.integer? t.text with
      | none => exact .throw
      | some n => exact .pure
  | .string t => by
      rw [expr, Faults.expr, Faults.string]
      cases Escape.decode (unquote t.text) with
      | error cause => exact .throw
      | ok value => exact .pure
  | .float _ | .bool _ _ | .path _ _ | .brk _ | .cont _ => .pure
  | .macroCall _ args _ => (FailsFirst.modifyGet _).bind fun _ => (failsFirst_exprs args).map
  | .tuple args _ | .array args _ => (failsFirst_exprs args).map
  | .paren inner _ => failsFirst_expr inner
  | .block body | .loop body _ => (failsFirst_block body).map
  | .cond test yes no _ =>
      (failsFirst_expr test).bind fun _ => (failsFirst_block yes).bind fun _ =>
        (failsFirst_optional no).map
  | .whileLoop test body _ => (failsFirst_expr test).bind fun _ => (failsFirst_block body).map
  | .forLoop _ iterable body _ =>
      (failsFirst_expr iterable).bind fun _ => (failsFirst_block body).map
  | .ret value _ => (failsFirst_optional value).map
  | .unary _ operand _ => (failsFirst_expr operand).map
  | .binary _ left right _ => (failsFirst_expr left).bind fun _ => (failsFirst_expr right).map
  | .range lower upper _ =>
      (failsFirst_optional lower).bind fun _ => (failsFirst_optional upper).map
  | .call callee args _ => (failsFirst_expr callee).bind fun _ => (failsFirst_exprs args).map
  | .methodCall receiver _ args _ =>
      (failsFirst_expr receiver).bind fun _ => (failsFirst_exprs args).map
  | .field subject _ _ => (failsFirst_expr subject).map
  | .index subject position _ =>
      (failsFirst_expr subject).bind fun _ => (failsFirst_expr position).map
  | .closure _ _ body _ => (failsFirst_expr body).map

theorem failsFirst_exprs : (es : List Surface.Expr) →
    FailsFirst (exprs file es) (Faults.exprs file es)
  | [] => .pure
  | e :: es => (failsFirst_expr e).bind fun _ => (failsFirst_exprs es).map

theorem failsFirst_optional : (o : Option Surface.Expr) →
    FailsFirst (optional file o) (Faults.optional file o)
  | none => .pure
  | some e => (failsFirst_expr e).map

theorem failsFirst_block : (b : Surface.Block) →
    FailsFirst (block file b) (Faults.block file b)
  | .mk items _ => (failsFirst_stmts items).map

theorem failsFirst_stmts : (is : List Surface.Item) →
    FailsFirst (stmts file is) (Faults.stmts file is)
  | [] => .pure
  | .empty _ :: rest => failsFirst_stmts rest
  | .letItem _ _ value _ :: rest =>
      (failsFirst_optional value).bind fun _ => (failsFirst_stmts rest).map
  | .exprItem value semi x :: rest => by
      refine (failsFirst_expr value).bind fun {x₀ t y} ht => ?_
      obtain ⟨-, hplain⟩ := (meets_expr file value x₀).2 t y ht
      have hspan : t.span.inRoot = (Plain.expr file value).span := by
        rw [← hplain, Expr.span_erase]
      rw [Faults.semicolon, isBlockLike_of_erase hplain, ← hspan]
      have hrest := (failsFirst_stmts rest).map
        (f := fun r => (Stmt.expr (infoOf file x) t :: r.1, r.2))
      cases semi with
      | true => exact hrest
      | false =>
          cases hmore : moreItems rest with
          | false =>
              rw [Faults.stmts_of_not_more file hmore]
              cases Builds.endsInBlock value <;> exact .pure
          | true =>
              cases Builds.endsInBlock value with
              | true => exact hrest
              | false => exact .throw

end

theorem failsFirst_functions : (fs : List Surface.Function) →
    FailsFirst (functions file fs) (Faults.module file fs)
  | [] => .pure
  | f :: fs => (failsFirst_block file f.body).map.bind fun _ => (failsFirst_functions fs).map

theorem failsFirst_module (m : Surface.Module) :
    FailsFirst (module file m) (Faults.module file m.functions) :=
  (failsFirst_functions file m.functions).map

end Build

def StartsWithBadLiteral (file : Option String) (text : List Char) : Prop :=
  ∃ m tokens fault, Surface.parse text = .ok (m, tokens) ∧
    (Faults.module file m.functions).head? = some fault ∧ fault.isLiteral = true

theorem BuildError.isLiteral_inRoot (e : BuildError) : e.inRoot.isLiteral = e.isLiteral := by
  cases e <;> rfl

theorem diagnostic?_build (file : Option String) (e : BuildError) :
    (e.isLiteral = true ∧ (ReadError.build e).diagnostic? file = none) ∨
      e.isLiteral = false ∧ ∃ d, (ReadError.build e).diagnostic? file = some d ∧
        d.phase = .parser ∧ d.severity = .error := by
  cases e with
  | missingSemicolon span => exact .inr ⟨rfl, _, rfl, rfl, rfl⟩
  | badString cause => exact .inl ⟨rfl, rfl⟩
  | longInteger => exact .inl ⟨rfl, rfl⟩

theorem Module.ofText_build {file : Option String} {text : List Char} {x x' : Expansions}
    {m : Surface.Module} {tokens : List Token} {e : BuildError}
    (h : Surface.parse text = .ok (m, tokens))
    (he : (Build.module file m).run.run x = (.error e, x')) :
    ofText file text x = (.error (.build e), x') := by
  unfold ofText
  rw [h]
  simp only [he]
  rfl

/-- Reading a text gives a tree or one error of the parser to report, but for a text whose first
fault is a literal without a value: that error has no report. -/
theorem Module.ofText_reports (file : Option String) (text : List Char) (x : Expansions) :
    ((∃ m, (ofText file text x).1 = .ok m) ∨
        (∃ e d, (ofText file text x).1 = .error e ∧ e.diagnostic? file = some d ∧
          d.phase = .parser ∧ d.severity = .error) ∨
        StartsWithBadLiteral file text) ∧
      ((∃ e, (ofText file text x).1 = .error e ∧ e.diagnostic? file = none) ↔
        StartsWithBadLiteral file text) := by
  unfold StartsWithBadLiteral
  cases hparse : Surface.parse text with
  | error cause =>
      rw [ofText_grammar hparse]
      refine ⟨.inr (.inl ⟨_, _, rfl, rfl, rfl, rfl⟩), ?_, ?_⟩
      · rintro ⟨e, h, hnone⟩
        cases h
        cases hnone
      · rintro ⟨m, tokens, fault, h, -⟩
        cases h
  | ok r =>
      obtain ⟨m, tokens⟩ := r
      rcases failsFirst_module file m x with ⟨t, x', ht, hnil⟩ | ⟨e, x', he, hhead⟩
      · have hread := ofText_eq_ok.mpr ⟨m, tokens, x', hparse, ht⟩
        refine ⟨.inl ⟨t, hread⟩, ?_, ?_⟩
        · rintro ⟨e, h, -⟩
          rw [hread] at h
          cases h
        · rintro ⟨m', tokens', fault, h, hhead, -⟩
          cases h
          rw [hnil] at hhead
          cases hhead
      · rw [ofText_build hparse he]
        rcases diagnostic?_build file e with ⟨hlit, hnone⟩ | ⟨hlit, d, hd, hphase, hseverity⟩
        · have hbad := And.intro hhead (e.isLiteral_inRoot.trans hlit)
          exact ⟨.inr (.inr ⟨m, tokens, _, rfl, hbad⟩),
            fun _ => ⟨m, tokens, _, rfl, hbad⟩, fun _ => ⟨_, rfl, hnone⟩⟩
        · refine ⟨.inr (.inl ⟨_, d, rfl, hd, hphase, hseverity⟩), ?_, ?_⟩
          · rintro ⟨e', h, hnone⟩
            cases h
            rw [hd] at hnone
            cases hnone
          · rintro ⟨m', tokens', fault, h, hhead', hlit'⟩
            cases h
            rw [hhead] at hhead'
            cases hhead'
            rw [e.isLiteral_inRoot, hlit] at hlit'
            cases hlit'

example : (match (Module.ofText none "fn f() \x7b \"\\xff\"; \x7d".toList .empty).1 with
    | .error e => e.diagnostic? none
    | .ok _ => some ⟨"", none, .parser, .error, {}, [], []⟩) = none := by decide +kernel

end ChainLint.Tree
