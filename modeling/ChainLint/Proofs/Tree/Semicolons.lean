import ChainLint.Proofs.Tree.Endings
import ChainLint.Proofs.Tree.Faults

namespace ChainLint.Tree

open Surface

theorem Plain.span_hi (file : Option String) :
    (e : Surface.Expr) → (Plain.expr file e).span.hi = e.ending
  | .paren inner _ => Plain.span_hi file inner
  | .binary _ _ right _ => Plain.span_hi file right
  | .int t => by
      change (Plain.intExpr file t).span.hi = t.stop.offset
      unfold Plain.intExpr
      split <;> rfl
  | .string t => by
      change (Plain.stringExpr file t).span.hi = t.stop.offset
      unfold Plain.stringExpr
      split <;> rfl
  | .float _ | .bool _ _ | .path _ _ | .macroCall _ _ _ | .tuple _ _ | .array _ _ | .block _
  | .cond _ _ _ _ | .whileLoop _ _ _ | .loop _ _ | .forLoop _ _ _ _ | .ret _ _ | .brk _ | .cont _
  | .unary _ _ _ | .range _ _ _ | .call _ _ _ | .methodCall _ _ _ _ | .field _ _ _ | .index _ _ _
  | .closure _ _ _ _ => rfl

theorem not_hasValue_int {t : Token} (h : Numeral.integer? t.text = none) :
    ¬(Part.int t).HasValue := by
  unfold Part.HasValue
  simpa [Numeral.integer?] using h

theorem not_hasValue_string {t : Token} {cause : EscapeError}
    (h : Escape.decode (Build.unquote t.text) = .error cause) : ¬(Part.string t).HasValue := by
  simp [Part.HasValue, h, Except.isOk, Except.toBool]

namespace Build

variable {α β : Type} {file : Option String}

def StopsAt (file : Option String) (b : Build α) (x : Expansions) (es : List Surface.Expr)
    (ps : List Part) : Prop :=
  (∃ a y, Gives b x a y ∧ es = []) ∨
    (∃ e t y z, Gives (expr file e) y t z ∧ b.run.run x = (.error (.missingSemicolon t.span), z) ∧
      es.head? = some e) ∨
    ∃ p ∈ ps, ¬p.HasValue

namespace StopsAt

variable {x : Expansions} {es vs : List Surface.Expr} {ps qs : List Part}

theorem pure {a : α} : StopsAt file (pure a) x [] ps := .inl ⟨a, x, rfl, rfl⟩

theorem modifyGet (f : Expansions → α × Expansions) : StopsAt file (modifyGet f) x [] [] :=
  .inl ⟨_, _, rfl, rfl⟩

theorem mono {b : Build α} (h : StopsAt file b x es ps) (hps : ps ⊆ qs) :
    StopsAt file b x es qs := by
  rcases h with h | h | ⟨p, hp, hvalue⟩
  · exact .inl h
  · exact .inr (.inl h)
  · exact .inr (.inr ⟨p, hps hp, hvalue⟩)

theorem bind {b : Build α} {f : α → Build β} (hb : StopsAt file b x es ps)
    (hf : ∀ {a y}, Gives b x a y → StopsAt file (f a) y vs qs) :
    StopsAt file (b >>= f) x (es ++ vs) (ps ++ qs) := by
  rcases hb with ⟨a, y, ha, rfl⟩ | ⟨e, t, y, z, ht, hrun, hhead⟩ | ⟨p, hp, hvalue⟩
  · rcases hf ha with ⟨r, z, hr, rfl⟩ | ⟨e, t, u, z, ht, hrun, hhead⟩ | ⟨p, hp, hvalue⟩
    · exact .inl ⟨r, z, gives_bind.mpr ⟨a, y, ha, hr⟩, rfl⟩
    · exact .inr (.inl ⟨e, t, u, z, ht, (run_bind_ok ha).trans hrun, hhead⟩)
    · exact .inr (.inr ⟨p, List.mem_append_right _ hp, hvalue⟩)
  · refine .inr (.inl ⟨e, t, y, z, ht, run_bind_error hrun, ?_⟩)
    rw [List.head?_append, hhead, Option.some_or]
  · exact .inr (.inr ⟨p, List.mem_append_left _ hp, hvalue⟩)

theorem map {b : Build α} {f : α → β} (hb : StopsAt file b x es ps) :
    StopsAt file (b >>= fun a => Pure.pure (f a)) x es ps := by
  have := hb.bind (f := fun a => Pure.pure (f a)) fun _ =>
    (.pure : StopsAt file _ _ [] [])
  rwa [List.append_nil, List.append_nil] at this

end StopsAt

theorem itemLacking_of_not_more {is : List Surface.Item} (h : moreItems is = false) :
    itemLacking is = [] := by
  apply moreItems_induction (P := fun is => itemLacking is = []) h rfl
  intro x is ih
  rw [itemLacking, ih]

variable (file : Option String)

mutual

theorem stopsAt_expr : (e : Surface.Expr) → (x : Expansions) →
    StopsAt file (expr file e) x e.lacking e.parts
  | .int t, x => by
      rw [expr]
      cases h : Numeral.integer? t.text with
      | none => exact .inr (.inr ⟨_, List.mem_singleton_self _, not_hasValue_int h⟩)
      | some n => exact .pure
  | .string t, x => by
      rw [expr]
      cases h : Escape.decode (unquote t.text) with
      | error cause => exact .inr (.inr ⟨_, List.mem_singleton_self _, not_hasValue_string h⟩)
      | ok value => exact .pure
  | .float _, _ | .bool _ _, _ | .path _ _, _ | .brk _, _ | .cont _, _ => .pure
  | .macroCall _ args _, _ => (StopsAt.modifyGet _).bind fun _ => (stopsAt_exprs args _).map
  | .tuple args _, x | .array args _, x => (stopsAt_exprs args x).map
  | .paren inner _, x => stopsAt_expr inner x
  | .block body, x | .loop body _, x => (stopsAt_block body x).map
  | .cond test yes no _, x =>
      (stopsAt_expr test x).bind fun _ => (stopsAt_block yes _).bind fun _ =>
        (stopsAt_optional no _).map
  | .whileLoop test body _, x => (stopsAt_expr test x).bind fun _ => (stopsAt_block body _).map
  | .forLoop _ iterable body _, x =>
      (stopsAt_expr iterable x).bind fun _ => (stopsAt_block body _).map
  | .ret value _, x => (stopsAt_optional value x).map
  | .unary _ operand _, x => (stopsAt_expr operand x).map
  | .binary _ left right _, x => (stopsAt_expr left x).bind fun _ => (stopsAt_expr right _).map
  | .range lower upper _, x =>
      (stopsAt_optional lower x).bind fun _ => (stopsAt_optional upper _).map
  | .call callee args _, x => (stopsAt_expr callee x).bind fun _ => (stopsAt_exprs args _).map
  | .methodCall receiver _ args _, x =>
      (stopsAt_expr receiver x).bind fun _ => (stopsAt_exprs args _).map
  | .field subject _ _, x => (stopsAt_expr subject x).map
  | .index subject position _, x =>
      (stopsAt_expr subject x).bind fun _ => (stopsAt_expr position _).map
  | .closure _ _ body _, x => (stopsAt_expr body x).map

theorem stopsAt_exprs : (es : List Surface.Expr) → (x : Expansions) →
    StopsAt file (exprs file es) x (lackingOf es) (partsOf es)
  | [], _ => .pure
  | e :: es, x => (stopsAt_expr e x).bind fun _ => (stopsAt_exprs es _).map

theorem stopsAt_optional : (o : Option Surface.Expr) → (x : Expansions) →
    StopsAt file (optional file o) x (optionLacking o) (optionParts o)
  | none, _ => .pure
  | some e, x => (stopsAt_expr e x).map

theorem stopsAt_block : (b : Surface.Block) → (x : Expansions) →
    StopsAt file (block file b) x b.lacking b.parts
  | .mk items _, x =>
      (stopsAt_stmts items x).map.mono (List.subset_cons_self _ _)

theorem stopsAt_stmts : (is : List Surface.Item) → (x : Expansions) →
    StopsAt file (stmts file is) x (itemLacking is) (itemParts is)
  | [], _ => .pure
  | .empty _ :: rest, x => stopsAt_stmts rest x
  | .letItem _ _ value _ :: rest, x =>
      (stopsAt_optional value x).bind fun _ => (stopsAt_stmts rest _).map
  | .exprItem value semi w :: rest, x => by
      refine (stopsAt_expr value x).bind fun {t y} ht => ?_
      obtain ⟨-, hplain⟩ := (meets_expr file value x).2 t y ht
      have hrest := (stopsAt_stmts rest y).map
        (f := fun r => (Stmt.expr (infoOf file w) t :: r.1, r.2))
      rw [unended, isBlockLike_of_erase hplain]
      cases semi with
      | true => exact hrest
      | false =>
          cases hmore : moreItems rest with
          | false =>
              rw [itemLacking_of_not_more hmore]
              cases Builds.endsInBlock value <;> exact .pure
          | true =>
              cases Builds.endsInBlock value with
              | true => exact hrest
              | false => exact .inr (.inl ⟨value, t, x, y, ht, rfl, rfl⟩)

end

theorem stopsAt_functions : (fs : List Surface.Function) → (x : Expansions) →
    StopsAt file (functions file fs) x (fs.flatMap fun f => f.body.lacking)
      (fs.flatMap fun f => f.body.parts)
  | [], _ => .pure
  | f :: fs, x => (stopsAt_block file f.body x).map.bind fun _ => (stopsAt_functions fs _).map

theorem stopsAt_module (m : Surface.Module) (x : Expansions) :
    StopsAt file (module file m) x m.lacking m.parts :=
  (stopsAt_functions file m.functions x).map

end Build

/-- A text whose literals have values is read unless some expression lacks a semicolon. Of several
that do, the error is at the one that ends first. -/
theorem Module.ofText_missingSemicolon {file : Option String} {text : List Char}
    {m : Surface.Module} {tokens : List Token} (h : parse text = .ok (m, tokens))
    (hvalues : ∀ p ∈ m.parts, p.HasValue) (x : Expansions) :
    ((∃ span, (ofText file text x).1 = .error (.build (.missingSemicolon span))) ↔
      ∃ e, Lacked m.parts e) ∧
    ((∃ t, (ofText file text x).1 = .ok t) ↔ ¬∃ e, Lacked m.parts e) ∧
    ∀ span, (ofText file text x).1 = .error (.build (.missingSemicolon span)) →
      ∃ e y t, Lacked m.parts e ∧ Build.Gives (Build.expr file e) y t (ofText file text x).2 ∧
        span = t.span ∧
        ∀ v, Lacked m.parts v → v = e ∨ span.hi < (Plain.expr file v).span.hi := by
  rcases Build.stopsAt_module file m x with
    ⟨t, z, ht, hnil⟩ | ⟨e, t, y, z, ht, hrun, hhead⟩ | ⟨p, hp, hvalue⟩
  · have hread : (ofText file text x).1 = .ok t := ofText_eq_ok.mpr ⟨m, tokens, z, h, ht⟩
    have hnone : ¬∃ e, Lacked m.parts e := by
      simp [← m.mem_lacking, hnil]
    rw [hread]
    exact ⟨iff_of_false (by simp) hnone, iff_of_true ⟨t, rfl⟩ hnone, nofun⟩
  · rw [ofText_build h hrun]
    obtain ⟨es, hes⟩ := List.head?_eq_some_iff.mp hhead
    have hsome : Lacked m.parts e := m.mem_lacking.mp (List.mem_of_mem_head? hhead)
    refine ⟨iff_of_true ⟨_, rfl⟩ ⟨e, hsome⟩, iff_of_false (by simp) (not_not.mpr ⟨e, hsome⟩), ?_⟩
    rintro - ⟨⟩
    refine ⟨e, y, t, hsome, ht, rfl, fun v hv => ?_⟩
    have hsorted := Module.sorted_lacking h
    have hmem := m.mem_lacking.mpr hv
    rw [hes] at hsorted hmem
    rcases List.mem_cons.mp hmem with hv | hv
    · exact .inl hv
    · obtain ⟨-, hplain⟩ := (Build.meets_expr file e y).2 t z ht
      have hhi : t.span.hi = e.ending := by
        rw [← Plain.span_hi file, ← hplain, Expr.span_erase]
        rfl
      rw [hhi, Plain.span_hi]
      exact .inr (Int.ofNat_lt.mpr ((List.pairwise_cons.mp hsorted).1 v hv))
  · exact absurd (hvalues p hp) hvalue

theorem Module.missingSemicolon_of_two :
    let text := "fn f() \x7b g(\x7b \"a\" 1 \x7d) c \x7d".toList
    ∃ m tokens span, parse text = .ok (m, tokens) ∧ (∀ p ∈ m.parts, p.HasValue) ∧
      (ofText none text .empty).1 = .error (.build (.missingSemicolon span)) ∧
      span.lo = 13 ∧ span.hi = 16 ∧ m.lacking.length = 2 ∧
      ∃ e, Lacked m.parts e ∧
        ∀ v, Lacked m.parts v → v = e ∨ span.hi < (Plain.expr none v).span.hi := by
  intro text
  have hparse : (parse text).toOption.any (fun r =>
      decide (∀ p ∈ r.1.parts, p.HasValue) && decide (r.1.lacking.length = 2)) = true := by
    decide +kernel
  have herror : (ofText none text .empty).1.map (fun _ => ()) =
      .error (.build (.missingSemicolon ⟨none, some 1, some 14, some 1, some 17, 13, 16, 0⟩)) := by
    decide +kernel
  cases h : parse text with
  | error e =>
      rw [h] at hparse
      cases hparse
  | ok r =>
      obtain ⟨m, tokens⟩ := r
      rw [h] at hparse
      simp only [Except.toOption, Option.any_some, Bool.and_eq_true, decide_eq_true_eq] at hparse
      obtain ⟨hvalues, hlength⟩ := hparse
      cases hread : (ofText none text .empty).1 with
      | ok t =>
          rw [hread] at herror
          cases herror
      | error e =>
          rw [hread] at herror
          cases herror
          obtain ⟨-, -, hfirst⟩ := ofText_missingSemicolon h hvalues .empty
          obtain ⟨e, y, t, hlacks, -, -, hleast⟩ := hfirst _ hread
          exact ⟨m, tokens, _, rfl, hvalues, rfl, rfl, rfl, hlength, e, hlacks, hleast⟩

end ChainLint.Tree
