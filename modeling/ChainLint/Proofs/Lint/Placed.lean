import ChainLint.Proofs.Lint.Reports
import ChainLint.Proofs.Tree.Faults
import ChainLint.Proofs.Tree.Origins

namespace ChainLint

def Span.IsPlaced (file : Option String) (s : Span) : Prop :=
  s.file = file ∧ s.line.isSome = true ∧ s.column.isSome = true

namespace Tree

open Build

variable {file : Option String}

theorem isPlaced_spanOf (x : Surface.Extent) : (spanOf file x).IsPlaced file := ⟨rfl, rfl, rfl⟩

theorem isPlaced_plain : (e : Surface.Expr) → (Plain.expr file e).span.IsPlaced file
  | .paren inner _ => isPlaced_plain inner
  | .binary _ left _ _ => isPlaced_plain left
  | .int t => by
      rw [Plain.expr, Plain.intExpr]
      split <;> exact isPlaced_spanOf _
  | .string t => by
      rw [Plain.expr, Plain.stringExpr]
      split <;> exact isPlaced_spanOf _
  | .float _ | .bool _ _ | .path _ _ | .macroCall _ _ _ | .tuple _ _ | .array _ _ | .block _
  | .cond _ _ _ _ | .whileLoop _ _ _ | .loop _ _ | .forLoop _ _ _ _ | .ret _ _ | .brk _ | .cont _
  | .unary _ _ _ | .range _ _ _ | .call _ _ _ | .methodCall _ _ _ _ | .field _ _ _ | .index _ _ _
  | .closure _ _ _ _ => isPlaced_spanOf _

def BuildError.IsPlaced (file : Option String) : BuildError → Prop
  | .missingSemicolon span => span.IsPlaced file
  | _ => True

namespace Faults

variable {fault : BuildError}

theorem placed_semicolon {value : Surface.Expr} {semi : Bool} {rest : List Surface.Item} :
    ∀ fault ∈ semicolon file value semi rest, fault.IsPlaced file := by
  intro fault h
  unfold semicolon at h
  split at h
  · cases h
  · cases List.mem_singleton.mp h
    exact isPlaced_plain value

mutual

theorem placed_expr : (e : Surface.Expr) → ∀ fault ∈ expr file e, fault.IsPlaced file
  | .int t, fault, h => by
      simp only [expr, int] at h
      split at h
      · cases h
      · cases List.mem_singleton.mp h
        trivial
  | .string t, fault, h => by
      simp only [expr, string] at h
      split at h
      · cases List.mem_singleton.mp h
        trivial
      · cases h
  | .float _, _, h | .bool _ _, _, h | .path _ _, _, h | .brk _, _, h | .cont _, _, h => nomatch h
  | .macroCall _ args _, _, h | .tuple args _, _, h | .array args _, _, h => placed_exprs args _ h
  | .paren inner _, _, h => placed_expr inner _ h
  | .block body, _, h | .loop body _, _, h => placed_block body _ h
  | .cond test yes no _, _, h => (List.mem_append.mp h).elim (placed_expr test _)
      fun h => (List.mem_append.mp h).elim (placed_block yes _) (placed_optional no _)
  | .whileLoop test body _, _, h =>
      (List.mem_append.mp h).elim (placed_expr test _) (placed_block body _)
  | .forLoop _ iterable body _, _, h =>
      (List.mem_append.mp h).elim (placed_expr iterable _) (placed_block body _)
  | .ret value _, _, h => placed_optional value _ h
  | .unary _ operand _, _, h => placed_expr operand _ h
  | .binary _ left right _, _, h =>
      (List.mem_append.mp h).elim (placed_expr left _) (placed_expr right _)
  | .range lower upper _, _, h =>
      (List.mem_append.mp h).elim (placed_optional lower _) (placed_optional upper _)
  | .call callee args _, _, h =>
      (List.mem_append.mp h).elim (placed_expr callee _) (placed_exprs args _)
  | .methodCall receiver _ args _, _, h =>
      (List.mem_append.mp h).elim (placed_expr receiver _) (placed_exprs args _)
  | .field subject _ _, _, h => placed_expr subject _ h
  | .index subject position _, _, h =>
      (List.mem_append.mp h).elim (placed_expr subject _) (placed_expr position _)
  | .closure _ _ body _, _, h => placed_expr body _ h

theorem placed_exprs : (es : List Surface.Expr) → ∀ fault ∈ exprs file es, fault.IsPlaced file
  | [], _, h => nomatch h
  | e :: es, _, h => (List.mem_append.mp h).elim (placed_expr e _) (placed_exprs es _)

theorem placed_optional : (o : Option Surface.Expr) →
    ∀ fault ∈ optional file o, fault.IsPlaced file
  | none, _, h => nomatch h
  | some e, _, h => placed_expr e _ h

theorem placed_block : (b : Surface.Block) → ∀ fault ∈ block file b, fault.IsPlaced file
  | .mk items _, _, h => placed_stmts items _ h

theorem placed_stmts : (is : List Surface.Item) → ∀ fault ∈ stmts file is, fault.IsPlaced file
  | [], _, h => nomatch h
  | .empty _ :: rest, _, h => placed_stmts rest _ h
  | .letItem _ _ value _ :: rest, _, h =>
      (List.mem_append.mp h).elim (placed_optional value _) (placed_stmts rest _)
  | .exprItem value _ _ :: rest, _, h => (List.mem_append.mp h).elim (placed_expr value _)
      fun h => (List.mem_append.mp h).elim (placed_semicolon _) (placed_stmts rest _)

end

end Faults

theorem Module.placed_error {text : List Char} {x : Expansions} {e : ReadError}
    (h : (ofText file text x).1 = .error e) {d : Diagnostic} (hd : e.diagnostic? file = some d) :
    d.span.IsPlaced file := by
  cases hparse : Surface.parse text with
  | error cause =>
      rw [ofText_grammar hparse] at h
      cases h
      cases hd
      exact ⟨rfl, rfl, rfl⟩
  | ok r =>
      obtain ⟨m, tokens⟩ := r
      rcases failsFirst_module file m x with ⟨t, x', ht, -⟩ | ⟨fault, x', hfault, hhead⟩
      · rw [ofText_eq_ok.mpr ⟨m, tokens, x', hparse, ht⟩] at h
        cases h
      · rw [ofText_build hparse hfault] at h
        cases h
        have hmem := List.mem_of_mem_head? hhead
        obtain ⟨f, -, hmem⟩ := List.mem_flatMap.mp hmem
        have hplaced := Faults.placed_block f.body _ hmem
        cases fault with
        | missingSemicolon span =>
            cases hd
            exact hplaced
        | badString cause => cases hd
        | longInteger => cases hd

end Tree

namespace MapUnwrapOr

open Tree

variable {file : Option String} {text : List Char} {levels : LintLevels} {ds : List Diagnostic}

theorem mem_run {m : Module} {sources : Sources} {d : Diagnostic}
    (hd : d ∈ run (Analysis.ofModule m) sources levels) :
    ∃ c ∈ chains (Analysis.ofModule m), ∃ severity, d = c.report sources severity := by
  obtain ⟨e, he, hd⟩ := List.mem_filterMap.mp hd
  obtain ⟨c, hc, hd⟩ := Option.bind_eq_some_iff.mp hd
  rw [check_eq] at hd
  split at hd
  · obtain ⟨severity, -, rfl⟩ := Option.map_eq_some_iff.mp hd
    have hnode : e.node ∈ (Node.module (Analysis.ofModule m).module).preorder :=
      List.mem_map_of_mem he
    exact ⟨c, List.mem_filterMap.mpr ⟨e.node, hnode, hc⟩, severity, rfl⟩
  · cases hd

theorem placed_chain {x : Expansions} {m : Module} (h : (Module.ofText file text x).1 = .ok m)
    {c : Chain} (hc : c ∈ chains (Analysis.ofModule m)) : c.whole.span.IsPlaced file := by
  obtain ⟨n, hn, hof⟩ := List.mem_filterMap.mp hc
  obtain ⟨i, j, receiver, mapper, fallback, s, hparts, rfl⟩ := Chain.ofNode?_eq_some_iff.mp hof
  obtain ⟨fs, ws, hreads⟩ := Module.exists_reads h
  obtain ⟨e, we, -, -, hplain⟩ := (hreads.analysis.arises hn).exists_spells
  have hplaced : (Plain.expr file e).span.IsPlaced file := isPlaced_plain e
  rw [hplain, Expr.span_erase] at hplaced
  rw [hparts]
  exact hplaced

theorem placed_lintText (h : lintText file levels text = .ok ds) :
    ∀ d ∈ ds, d.span.IsPlaced file := by
  intro d hd
  cases hm : (Module.ofText file text .empty).1 with
  | ok m =>
      obtain ⟨-, -, rfl⟩ := (lintText_eq_run_iff hm).mp h
      obtain ⟨c, hc, severity, rfl⟩ := mem_run hd
      exact placed_chain hm hc
  | error e => exact Module.placed_error hm (diagnostic_of_error hm h d hd)

end MapUnwrapOr

end ChainLint
