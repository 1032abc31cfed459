import ChainLint.Proofs.Grammar.Tails
import ChainLint.Proofs.Text.Escaping
import ChainLint.Proofs.Token.Alone
import ChainLint.Proofs.Tree.Reads

namespace ChainLint.Tree

open Lexer Surface

def Module.HasTail (m : Module) (t : Expr) : Prop :=
  ∃ f i, m.functions = [f] ∧ f.body = .mk i [] (some t)

theorem Module.exists_tail (file : Option String) {text : List Char} {name : Token}
    {e : Surface.Expr} {w x y : Extent} {tokens : List Token}
    (h : parse text = .ok (⟨[⟨name, [], none, .mk [.exprItem e false w] x, y⟩]⟩, tokens))
    (he : Builds.expr e = true) (xs : Expansions) : ∃ m t, (ofText file text xs).1 = .ok m ∧
      m.HasTail t ∧ t.erase Span.inRoot = Plain.expr file e := by
  obtain ⟨m, hm, -, hfunctions⟩ := ofText_of_parse h
    (by simp [Builds.block, Builds.stmts, Build.moreItems, he]) xs
  obtain ⟨⟨i, fname, params, ⟨j, ss, tail⟩, result⟩, fs, hfs, hf, hnil⟩ :=
    List.map_eq_cons_iff.mp hfunctions
  cases List.map_eq_nil_iff.mp hnil
  have hbody := congrArg Function.body hf
  simp only [Function.erase, Block.erase, Plain.function, Plain.block, Plain.stmts,
    Build.moreItems, List.all_nil, Bool.not_true, Bool.false_and, Bool.or_self,
    Bool.false_eq_true, if_false, Block.mk.injEq, eraseStmts_eq, eraseOption_eq,
    List.map_eq_nil_iff, Option.map_eq_some_iff] at hbody
  obtain ⟨-, rfl, t, rfl, ht⟩ := hbody
  exact ⟨m, t, hm, ⟨_, j, hfs, rfl⟩, ht⟩

def stringText (body : List Char) : List Char :=
  "fn f() \x7b \"".toList ++ (body ++ "\" \x7d".toList)

theorem splits_string {s body : List Char} (h : Escape.Writes s body) :
    Word.Splits (Tail.opening ++ ([⟨.string, '"' :: (body ++ ['"']), .afterOperand⟩] ++
      [Tail.closing])) .fileStart (stringText body) .afterBlock [] := by
  have hscan : scan Expectation.statement.terminals ('"' :: (body ++ '"' :: " \x7d".toList)) =
      some (.string, '"' :: (body ++ ['"'])) :=
    scan_of_string (by decide) (h.stringBody _)
  refine Word.splits_append.mpr ⟨.statement, ' ' :: '"' :: (body ++ '"' :: " \x7d".toList), ?_, ?_⟩
  · exact ⟨_, ⟨rfl, rfl⟩, _, ⟨rfl, rfl⟩, _, ⟨rfl, rfl⟩, _, ⟨rfl, rfl⟩, _, ⟨rfl, rfl⟩, rfl, rfl⟩
  · refine ⟨" \x7d".toList, ⟨?_, ?_⟩, _, ⟨rfl, rfl⟩, rfl, rfl⟩
    · simp [blankRun, isBlank]
    · simpa using hscan

theorem unquote_quoted (body : List Char) : Build.unquote ('"' :: (body ++ ['"'])) = body := by
  simp [Build.unquote]

/-- However a text is written as a string literal, the literal is read as the text. -/
theorem exists_string_of_written (file : Option String) {s body : List Char}
    (h : Escape.Writes s body) (xs : Expansions) :
    ∃ m i, (Module.ofText file (stringText body) xs).1 = .ok m ∧ m.HasTail (.string i s) := by
  obtain ⟨us, hus, hparse⟩ := Tail.exists_parse (splits_string h) rfl
  obtain ⟨⟨t, next⟩, us, rfl, hu, hnil⟩ := List.map_eq_cons_iff.mp hus
  cases List.map_eq_nil_iff.mp hnil
  simp only [Lexeme.word, Word.mk.injEq] at hu
  obtain ⟨hterminal, htext, rfl⟩ := hu
  obtain ⟨name, x, y, tokens, hparse⟩ := hparse (.string t) (.string hterminal)
  have hdecode : Escape.decode (Build.unquote t.text) = .ok s := by
    rw [htext, unquote_quoted, h.decode]
  obtain ⟨m, r, hm, htail, hr⟩ := Module.exists_tail file hparse
    (by rw [Builds.expr, hdecode]; rfl) xs
  rw [Plain.expr, Plain.stringExpr, hdecode] at hr
  cases r with
  | string i value =>
      simp only [Expr.erase, Expr.string.injEq] at hr
      obtain ⟨-, rfl⟩ := hr
      exact ⟨m, i, hm, htail⟩
  | _ => cases hr

theorem exists_string_of_mixed :
    let s := "é\"\n\\a".toList
    let body := "\\xc3\\xA9\\x22\n\\\\a".toList
    Escape.Writes s body ∧ ∃ m i, (Module.ofText none (stringText body) .empty).1 = .ok m ∧
      m.HasTail (.string i s) := by
  intro s body
  have haccent : List.Forall₂ Escape.IsByte (Utf8.encodeChar 'é') [('c', '3'), ('A', '9')] :=
    .cons ⟨.inl rfl, .inl rfl⟩ (.cons ⟨.inr rfl, .inl rfl⟩ .nil)
  have hquote : List.Forall₂ Escape.IsByte (Utf8.encodeChar '"') [('2', '2')] :=
    .cons ⟨.inl rfl, .inl rfl⟩ .nil
  have hslash : Escape.Writes ['\\', 'a'] "\\\\a".toList :=
    .short (by decide) (.raw (by decide) (by decide) .nil)
  have h : Escape.Writes s body :=
    .bytes haccent (.bytes hquote (.raw (by decide) (by decide) hslash))
  exact ⟨h, exists_string_of_written none h .empty⟩

end ChainLint.Tree
