import ChainLint.Proofs.Grammar.Terms
import ChainLint.Proofs.Tree.Faults
import ChainLint.Proofs.Tree.Placing
import ChainLint.Proofs.Tree.Tails

namespace ChainLint

open Lexer

namespace Numeral

variable {digits suffix : List Char}

theorem isSuffix_of_typed (hdigits : ∀ c ∈ digits, c.isDigit = true) {s : List Char}
    (hs : s ∈ intSuffixes) (h : s <:+ digits ++ suffix) : s <:+ suffix := by
  have hletter : ∀ s ∈ intSuffixes, ∃ c ∈ s.head?, c.isDigit = false := by simp [intSuffixes]
  obtain ⟨c, hc, hdigit⟩ := hletter s hs
  rcases List.suffix_or_suffix_of_suffix h (List.suffix_append digits suffix) with h' | ⟨z, hz⟩
  · exact h'
  · cases z with
    | nil => exact ⟨[], hz.symm⟩
    | cons d z =>
        rw [← hz] at hc h
        cases hc
        obtain ⟨p, hp⟩ := h
        rw [← List.append_assoc] at hp
        have hmem : c ∈ digits := by
          rw [← List.append_cancel_right hp]
          simp
        rw [hdigits c hmem] at hdigit
        cases hdigit

theorem suffix?_typed (hdigits : ∀ c ∈ digits, c.isDigit = true)
    (hs : suffix = [] ∨ suffix ∈ intSuffixes) :
    suffix? intSuffixes (digits ++ suffix) = if suffix = [] then none else some suffix := by
  have hnone : ∀ s ∈ intSuffixes, ¬s <:+ [] := by decide
  have hunique : ∀ s ∈ intSuffixes, ∀ u ∈ intSuffixes, u <:+ s → u = s := by decide
  have hfound {u : List Char} (h : suffix? intSuffixes (digits ++ suffix) = some u) :
      u ∈ intSuffixes ∧ u <:+ suffix := by
    have hmem := List.mem_of_find?_eq_some h
    have hends := List.find?_some h
    exact ⟨hmem, isSuffix_of_typed hdigits hmem (List.isSuffixOf_iff_suffix.mp hends)⟩
  cases h : suffix? intSuffixes (digits ++ suffix) with
  | none =>
      rcases hs with rfl | hs
      · rfl
      · refine absurd (List.isSuffixOf_iff_suffix.mpr (List.suffix_append digits suffix)) ?_
        exact List.find?_eq_none.mp h suffix hs
  | some u =>
      obtain ⟨hu, hin⟩ := hfound h
      rcases hs with rfl | hs
      · exact absurd hin (hnone u hu)
      · have hne : suffix ≠ [] := by
          rintro rfl
          exact absurd hin (hnone u hu)
        rw [if_neg hne, hunique suffix hs u hu hin]

end Numeral

namespace Surface.Decimal

def plain (n : Decimal) : List Char := n.digits.filter (· ≠ '_')

def type? (n : Decimal) : Option String :=
  if n.suffix = [] then none else some (String.ofList n.suffix)

theorem isDigit_plain (n : Decimal) : ∀ c ∈ n.plain, c.isDigit = true := by
  intro c hc
  obtain ⟨hmem, hne⟩ := List.mem_filter.mp hc
  have hpart := n.all c hmem
  simp only [isNumberPart, Bool.or_eq_true, decide_eq_true_eq] at hpart hne
  exact hpart.resolve_right hne

theorem plain_text (n : Decimal) : Numeral.plain n.text = n.plain ++ n.suffix := by
  have hall : ∀ s ∈ intSuffixes, s.filter (· ≠ '_') = s := by decide
  have hsuffix : n.suffix.filter (· ≠ '_') = n.suffix := by
    rcases n.typed with h | h
    · rw [h]
      rfl
    · exact hall _ h
  rw [Numeral.plain, text, List.filter_append, hsuffix]
  rfl

theorem integer?_text (n : Decimal) : Numeral.integer? n.text =
    if Numeral.maxDigits < n.plain.length then none else some ⟨Numeral.value n.plain, n.type?⟩ := by
  have hsuffix := Numeral.suffix?_typed n.isDigit_plain n.typed
  have hdrop : Numeral.dropSuffix intSuffixes (n.plain ++ n.suffix) = n.plain := by
    rw [Numeral.dropSuffix, hsuffix]
    by_cases h : n.suffix = []
    · simp [h]
    · simp [h]
  simp only [Numeral.integer?, plain_text, hdrop, hsuffix, type?]
  split
  · rfl
  · by_cases h : n.suffix = [] <;> simp [h]

end Surface.Decimal

namespace Surface.Term

open Tree

mutual

def tree : Term → Tree.Expr
  | .var v => .var ⟨0, {}⟩ (String.ofList v.text) none
  | .int n => .int ⟨0, {}⟩ (Numeral.value n.plain) n.type?
  | .unary op operand => .unary ⟨0, {}⟩ op operand.tree
  | .binary op left right => .binary ⟨0, {}⟩ op left.tree right.tree
  | .call callee args => .call ⟨0, {}⟩ callee.tree (trees args)
  | .methodCall receiver member args =>
      .methodCall ⟨0, {}⟩ receiver.tree (String.ofList member.text) {} (trees args)
  | .index subject position => .index ⟨0, {}⟩ subject.tree position.tree

def trees : List Term → List Tree.Expr
  | [] => []
  | t :: ts => t.tree :: trees ts

end

mutual

def literals : Term → List Decimal
  | .var _ => []
  | .int n => [n]
  | .unary _ operand => operand.literals
  | .binary _ left right => left.literals ++ right.literals
  | .call callee args => callee.literals ++ literalsOf args
  | .methodCall receiver _ args => receiver.literals ++ literalsOf args
  | .index subject position => subject.literals ++ position.literals

def literalsOf : List Term → List Decimal
  | [] => []
  | t :: ts => t.literals ++ literalsOf ts

end

end Surface.Term

namespace Tree

open Surface

theorem Faults.expr_bare (file : Option String) (e : Surface.Expr) :
    Faults.expr file e.bare = Faults.expr file e := by
  fun_induction Surface.Expr.bare e with
  | case1 inner x ih => rw [ih, Faults.expr]
  | case2 => rfl

def longLiterals (ns : List Decimal) : List BuildError :=
  (ns.filter fun n => Numeral.maxDigits < n.plain.length).map fun _ => .longInteger

theorem longLiterals_append (ns ms : List Decimal) :
    longLiterals (ns ++ ms) = longLiterals ns ++ longLiterals ms := by
  simp [longLiterals]

variable (file : Option String)

mutual

theorem faults_of_shows : (t : Term) → {e : Surface.Expr} → t.Shows e →
    Faults.expr file e = longLiterals t.literals
  | .var v, e, h => by
      obtain ⟨t, x, hbare, -⟩ := h
      rw [← Faults.expr_bare, hbare]
      rfl
  | .int n, e, h => by
      obtain ⟨t, hbare, htext⟩ := h
      rw [← Faults.expr_bare, hbare, Faults.expr, Faults.int, htext, n.integer?_text]
      by_cases hlong : Numeral.maxDigits < n.plain.length <;>
        simp [hlong, longLiterals, Term.literals]
  | .unary op operand, e, h => by
      obtain ⟨e', x, hbare, hs⟩ := h
      rw [← Faults.expr_bare, hbare, Faults.expr, faults_of_shows operand hs]
      rfl
  | .binary op left right, e, h => by
      obtain ⟨l, r, x, hbare, hl, hr⟩ := h
      rw [← Faults.expr_bare, hbare, Faults.expr, faults_of_shows left hl, faults_of_shows right hr,
        Term.literals, longLiterals_append]
  | .call callee args, e, h => by
      obtain ⟨f, es, x, hbare, hf, hes⟩ := h
      rw [← Faults.expr_bare, hbare, Faults.expr, faults_of_shows callee hf, faults_of_showsAll args hes,
        Term.literals, longLiterals_append]
  | .methodCall receiver member args, e, h => by
      obtain ⟨r, t, es, x, hbare, hr, -, hes⟩ := h
      rw [← Faults.expr_bare, hbare, Faults.expr, faults_of_shows receiver hr,
        faults_of_showsAll args hes, Term.literals, longLiterals_append]
  | .index subject position, e, h => by
      obtain ⟨s, p, x, hbare, hs, hp⟩ := h
      rw [← Faults.expr_bare, hbare, Faults.expr, faults_of_shows subject hs,
        faults_of_shows position hp, Term.literals, longLiterals_append]

theorem faults_of_showsAll : (ts : List Term) → {es : List Surface.Expr} → Term.showsAll ts es →
    Faults.exprs file es = longLiterals (Term.literalsOf ts)
  | [], es, h => by
      cases h
      rfl
  | t :: ts, es, h => by
      obtain ⟨e, es, rfl, he, hes⟩ := h
      rw [Faults.exprs, faults_of_shows t he, faults_of_showsAll ts hes, Term.literalsOf,
        longLiterals_append]

end

mutual

theorem erase_of_shows : (t : Term) → {e : Surface.Expr} → t.Shows e →
    longLiterals t.literals = [] → (Plain.expr file e).erase unplaced = t.tree
  | .var v, e, h, _ => by
      obtain ⟨t, x, hbare, htext⟩ := h
      rw [← Plain.expr_bare, hbare, Term.tree, ← htext]
      rfl
  | .int n, e, h, hlong => by
      obtain ⟨t, hbare, htext⟩ := h
      have hshort : ¬Numeral.maxDigits < n.plain.length := by
        simpa [longLiterals, Term.literals] using hlong
      rw [← Plain.expr_bare, hbare, Plain.expr, Plain.intExpr, htext, n.integer?_text, if_neg hshort]
      rfl
  | .unary op operand, e, h, hlong => by
      obtain ⟨e', x, hbare, hs⟩ := h
      rw [← Plain.expr_bare, hbare, Plain.expr, Expr.erase, erase_of_shows operand hs hlong]
      rfl
  | .binary op left right, e, h, hlong => by
      obtain ⟨l, r, x, hbare, hl, hr⟩ := h
      rw [Term.literals, longLiterals_append, List.append_eq_nil_iff] at hlong
      rw [← Plain.expr_bare, hbare, Plain.expr, Expr.erase, erase_of_shows left hl hlong.1,
        erase_of_shows right hr hlong.2]
      rfl
  | .call callee args, e, h, hlong => by
      obtain ⟨f, es, x, hbare, hf, hes⟩ := h
      rw [Term.literals, longLiterals_append, List.append_eq_nil_iff] at hlong
      rw [← Plain.expr_bare, hbare, Plain.expr, Expr.erase, erase_of_shows callee hf hlong.1,
        erase_of_showsAll args hes hlong.2]
      rfl
  | .methodCall receiver member args, e, h, hlong => by
      obtain ⟨r, t, es, x, hbare, hr, htext, hes⟩ := h
      rw [Term.literals, longLiterals_append, List.append_eq_nil_iff] at hlong
      rw [← Plain.expr_bare, hbare, Plain.expr, Expr.erase, erase_of_shows receiver hr hlong.1,
        erase_of_showsAll args hes hlong.2, Build.spell, htext]
      rfl
  | .index subject position, e, h, hlong => by
      obtain ⟨s, p, x, hbare, hs, hp⟩ := h
      rw [Term.literals, longLiterals_append, List.append_eq_nil_iff] at hlong
      rw [← Plain.expr_bare, hbare, Plain.expr, Expr.erase, erase_of_shows subject hs hlong.1,
        erase_of_shows position hp hlong.2]
      rfl

theorem erase_of_showsAll : (ts : List Term) → {es : List Surface.Expr} → Term.showsAll ts es →
    longLiterals (Term.literalsOf ts) = [] →
      eraseExprs unplaced (Plain.exprs file es) = Term.trees ts
  | [], es, h, _ => by
      cases h
      rfl
  | t :: ts, es, h, hlong => by
      obtain ⟨e, es, rfl, he, hes⟩ := h
      rw [Term.literalsOf, longLiterals_append, List.append_eq_nil_iff] at hlong
      rw [Plain.exprs, eraseExprs, erase_of_shows t he hlong.1, erase_of_showsAll ts hes hlong.2,
        Term.trees]

end

open Build

theorem longLiterals_eq_nil {ns : List Decimal} :
    longLiterals ns = [] ↔ ∀ n ∈ ns, n.plain.length ≤ Numeral.maxDigits := by
  simp [longLiterals]

theorem builds_of_faults {e : Surface.Expr} (h : Faults.expr file e = []) : Builds.expr e = true := by
  rcases failsFirst_expr file e .empty with ⟨t, x, ht, -⟩ | ⟨cause, x, -, hhead⟩
  · exact ((meets_expr file e .empty).2 t x ht).1
  · rw [h] at hhead
    cases hhead

/-- An expression written out is read back, unless it has a literal of too many digits. Then reading
ends with the error that this is. -/
theorem ofText_term (t : Term) (xs : Expansions) :
    ((∃ m r, (Module.ofText file t.text xs).1 = .ok m ∧ m.HasTail r ∧ r.erase unplaced = t.tree) ↔
      ∀ n ∈ t.literals, n.plain.length ≤ Numeral.maxDigits) ∧
    ((Module.ofText file t.text xs).1 = .error (.build .longInteger) ↔
      ∃ n ∈ t.literals, Numeral.maxDigits < n.plain.length) := by
  obtain ⟨name, e, w, x, y, tokens, hparse, hs⟩ := t.exists_parse
  have hfaults := faults_of_shows file t hs
  by_cases hshort : ∀ n ∈ t.literals, n.plain.length ≤ Numeral.maxDigits
  · have hnone := longLiterals_eq_nil.mpr hshort
    obtain ⟨m, r, hm, htail, hr⟩ :=
      Module.exists_tail file hparse (builds_of_faults file (hfaults.trans hnone)) xs
    have htree : r.erase unplaced = t.tree := by
      rw [← erase_of_shows file t hs hnone, ← hr]
      exact (Expr.erase_erase Span.inRoot unplaced r).symm
    refine ⟨iff_of_true ⟨m, r, hm, htail, htree⟩ hshort, iff_of_false ?_ ?_⟩
    · rw [hm]
      exact nofun
    · rintro ⟨n, hn, hlong⟩
      exact absurd (hshort n hn) (Nat.not_le.mpr hlong)
  · have hmodule : Faults.module file [⟨name, [], none, .mk [.exprItem e false w] x, y⟩] =
        longLiterals t.literals := by
      simp [Faults.module, Faults.block, Faults.stmts, Faults.semicolon, moreItems, hfaults]
    have herror : (Module.ofText file t.text xs).1 = .error (.build .longInteger) := by
      rcases failsFirst_module file _ xs with ⟨m, x', -, hnil⟩ | ⟨cause, x', hrun, hhead⟩
      · exact absurd (longLiterals_eq_nil.mp (hmodule.symm.trans hnil)) hshort
      · rw [Module.ofText_build hparse hrun]
        rw [hmodule] at hhead
        have hmem := List.mem_of_mem_head? hhead
        obtain ⟨-, -, hcause⟩ := List.mem_map.mp hmem
        cases cause with
        | longInteger => rfl
        | _ => cases hcause
    refine ⟨iff_of_false ?_ hshort, iff_of_true herror ?_⟩
    · rintro ⟨m, r, hm, -⟩
      rw [herror] at hm
      cases hm
    · simpa using hshort

end Tree

end ChainLint
