import ChainLint.Proofs.Tree.Origins
import ChainLint.Proofs.Tree.Placing
import ChainLint.Proofs.Tree.Texts

namespace ChainLint.Tree

open Lexer Surface Build Terminal

namespace Standalone

def isExprWith (p : Expr → Bool) : Node → Bool
  | .expr t => p t
  | _ => false

theorem exists_isExprWith {p : Expr → Bool} {ns : List Node} (h : ns.any (isExprWith p) = true) :
    ∃ t, .expr t ∈ ns ∧ p t = true := by
  obtain ⟨n, hn, hp⟩ := List.any_eq_true.mp h
  cases n with
  | expr t => exact ⟨t, hn, hp⟩
  | _ => cases hp

def inText (e : List Char) : List Char := "fn g() \x7b let x = ".toList ++ (e ++ "; \x7d".toList)

def initializer? : Block → Option Expr
  | .mk _ [.letIn _ _ _ value] none => value
  | _ => none

def value? (m : Module) : Option Expr :=
  match m.functions with
  | [g] => initializer? g.body
  | _ => none

theorem initializer?_erase (f : Span → Span) (b : Block) :
    initializer? (b.erase f) = (initializer? b).map (Expr.erase f) := by
  obtain ⟨i, ss, tail⟩ := b
  rcases ss with _ | ⟨s, _ | ⟨s', ss⟩⟩
  · rfl
  · cases s with
    | expr => rfl
    | letIn i p declared value =>
        cases tail with
        | none => exact eraseOption_eq f value
        | some => rfl
  · cases s <;> rfl

theorem value?_erase (f : Span → Span) (m : Module) :
    value? (m.erase f) = (value? m).map (Expr.erase f) := by
  obtain ⟨i, file, gs⟩ := m
  rcases gs with _ | ⟨g, _ | ⟨g', gs⟩⟩
  · rfl
  · exact initializer?_erase f g.body
  · rfl

def opening : List Lexeme :=
  [⟨⟨.fnWord, ['f', 'n'], column 0, column 2⟩, .nameOnly⟩,
    ⟨⟨.name, ['g'], column 3, column 4⟩, .openParen⟩,
    ⟨⟨.lparen, ['('], column 4, column 5⟩, .patternOrClose⟩,
    ⟨⟨.rparen, [')'], column 5, column 6⟩, .arrowOrBody⟩,
    ⟨⟨.lbrace, ['\x7b'], column 7, column 8⟩, .statement⟩,
    ⟨⟨.letWord, ['l', 'e', 't'], column 9, column 12⟩, .pattern⟩,
    ⟨⟨.name, ['x'], column 13, column 14⟩, .afterPattern⟩,
    ⟨⟨.equals, ['='], column 15, column 16⟩, .expression⟩]
where
  column (k : Nat) : Position := ⟨k, 1, k + 1⟩

theorem cuts_opening (rest : List Char) :
    Pending.Cuts opening ⟨.fileStart, .start, "fn g() \x7b let x =".toList ++ rest⟩
      ⟨.expression, opening.column 16, rest⟩ :=
  ⟨_, ⟨rfl, rfl, rfl, rfl⟩, _, ⟨rfl, rfl, rfl, rfl⟩, _, ⟨rfl, rfl, rfl, rfl⟩, _,
    ⟨rfl, rfl, rfl, rfl⟩, _, ⟨rfl, rfl, rfl, rfl⟩, _, ⟨rfl, rfl, rfl, rfl⟩, _,
    ⟨rfl, rfl, rfl, rfl⟩, _, ⟨rfl, rfl, rfl, rfl⟩, rfl⟩

theorem cuts_closing {E : Expectation} (hE : Expectation.terminals.operandFollow ⊆ E.terminals)
    (place : Position) : ∃ (semi closing : Token) (s : Pending), semi.terminal = .semi ∧
      closing.terminal = .rbrace ∧ s.text = [] ∧
        Pending.Cuts [⟨semi, .statement⟩, ⟨closing, .afterBlock⟩] ⟨E, place, "; \x7d".toList⟩ s := by
  have hsemi := Word.IsFirst.mark (t := .semi) (G := .statement) (by decide)
    (hE (by decide)) " \x7d".toList
  have hsplits : Word.Splits [⟨.semi, [';'], .statement⟩, ⟨.rbrace, ['\x7d'], .afterBlock⟩] E
      "; \x7d".toList .afterBlock [] := ⟨_, hsemi, _, ⟨rfl, rfl⟩, rfl, rfl⟩
  obtain ⟨us, place', hwords, hcuts⟩ := hsplits.cuts place
  obtain ⟨u, us, rfl, hu, hus⟩ := List.map_eq_cons_iff.mp hwords
  obtain ⟨v, us, rfl, hv, hus⟩ := List.map_eq_cons_iff.mp hus
  cases List.map_eq_nil_iff.mp hus
  obtain ⟨semi, E₁⟩ := u
  obtain ⟨closing, E₂⟩ := v
  obtain rfl : E₁ = .statement := congrArg Word.next hu
  obtain rfl : E₂ = .afterBlock := congrArg Word.next hv
  exact ⟨semi, closing, _, congrArg Word.terminal hu, congrArg Word.terminal hv, rfl, hcuts⟩

theorem parse_inText {e : Surface.Expr} {ws : List Lexeme} {core : List Char} {G : Expectation}
    (he : Spells (.expr e) ws) {a b : Nat} (hp : Placed a ws b)
    (hG : Expectation.terminals.operandFollow ⊆ G.terminals)
    (hblank : blankRun false (core ++ "; \x7d".toList) = [])
    (hsplits : Word.Splits (ws.map Lexeme.word) .expression (core ++ "; \x7d".toList) G "; \x7d".toList) :
    ∃ g name p x x' y tokens, Surface.parse (inText core) =
      .ok (⟨[⟨name, [], none, .mk [.letItem p none (some (e.place g)) x] x', y⟩]⟩, tokens) := by
  obtain ⟨w, ws', hws⟩ := List.exists_cons_of_ne_nil he.extends.1
  have hlead : Word.Splits (ws.map Lexeme.word) .expression (' ' :: (core ++ "; \x7d".toList)) G
      "; \x7d".toList := by
    rw [hws, List.map_cons] at hsplits ⊢
    refine hsplits.lead (b := [' ']) hblank ?_
    rw [List.singleton_append, blankRun, if_pos (by decide), hblank]
  obtain ⟨us, place, hwords, hcuts⟩ := hlead.cuts (opening.column 16)
  obtain ⟨hstarts, hstops⟩ := hp.nodup
  obtain ⟨g, rfl⟩ := Placing.exists_lexemes hwords hstarts hstops
  obtain ⟨semi, closing, s, hsemi, hclosing, hs, hrest⟩ := cuts_closing hG place
  have hall := Pending.cuts_append.mpr ⟨_, cuts_opening _, Pending.cuts_append.mpr ⟨_, hcuts, hrest⟩⟩
  have hinit : Spells (.init (some (e.place g)))
      (⟨⟨.equals, ['='], opening.column 15, opening.column 16⟩, .expression⟩ :: _) :=
    .init rfl (he.place g)
  have hpattern : SpellsPat (.one _)
      [⟨⟨.name, ['x'], opening.column 13, opening.column 14⟩, .afterPattern⟩] :=
    .binding rfl
  have hlet : Spells (.letItem _)
      (⟨⟨.letWord, ['l', 'e', 't'], opening.column 9, opening.column 12⟩, .pattern⟩ :: _) :=
    .letItem rfl hpattern .none hinit hsemi
  have hbody : Spells (.block _)
      (⟨⟨.lbrace, ['\x7b'], opening.column 7, opening.column 8⟩, .statement⟩ :: _) :=
    .mkBlock rfl (.itemsLet hlet .itemsNil) hclosing
  have hparams : SpellsParams []
      [⟨⟨.rparen, [')'], opening.column 5, opening.column 6⟩, .arrowOrBody⟩] :=
    .nil rfl
  have hfunction : SpellsFunction _
      (⟨⟨.fnWord, ['f', 'n'], opening.column 0, opening.column 2⟩, .nameOnly⟩ ::
        ⟨⟨.name, ['g'], opening.column 3, opening.column 4⟩, .openParen⟩ ::
        ⟨⟨.lparen, ['('], opening.column 4, opening.column 5⟩, .patternOrClose⟩ :: _) :=
    .mk rfl rfl rfl hparams .none hbody
  obtain ⟨tokens, hparse⟩ := parse_of_cuts hall (by rw [hs]; rfl)
    (by simpa [opening] using SpellsFunctions.cons hfunction .nil)
  exact ⟨g, _, _, _, _, _, tokens, hparse⟩

end Standalone

def Expr.isCond : Expr → Bool
  | .cond _ _ _ _ => true
  | _ => false

def Expr.isMoveClosure : Expr → Bool
  | .closure _ _ _ isMove => isMove
  | _ => false

@[simp] theorem Expr.isCond_erase (f : Span → Span) (t : Expr) : (t.erase f).isCond = t.isCond := by
  cases t <;> rfl

@[simp] theorem Expr.isMoveClosure_erase (f : Span → Span) (t : Expr) :
    (t.erase f).isMoveClosure = t.isMoveClosure := by
  cases t <;> rfl

/-- The word that the text starts with is read the same where `move` may come, and where more than
`if` may. -/
structure ReadsAlone (cs : List Char) (t : Expr) : Prop where
  name : name? cs = some moveWord.spelling → t.isMoveClosure = true
  cond : t.isCond = true → name? cs = some ifWord.spelling

instance (cs : List Char) (t : Expr) : Decidable (ReadsAlone cs t) :=
  decidable_of_iff ((name? cs = some moveWord.spelling → t.isMoveClosure = true) ∧
      (t.isCond = true → name? cs = some ifWord.spelling))
    ⟨fun h => ⟨h.1, h.2⟩, fun h => ⟨h.name, h.cond⟩⟩

theorem isMoveClosure_plain {file : Option String} {e : Surface.Expr}
    (hp : ∀ inner x, e ≠ .paren inner x) (h : (Plain.expr file e).isMoveClosure = true)
    {w : Lexeme} {ws : List Lexeme} (he : Spells (.expr e) (w :: ws)) : w.terminal = .moveWord := by
  cases e with
  | paren inner x => exact absurd rfl (hp inner x)
  | closure isMove ps body x =>
      obtain rfl : isMove = true := h
      generalize hws : w :: ws = vs at he
      cases he with
      | closure hm hh hb =>
          cases hm with
          | some hw =>
              cases hws
              exact hw
  | int t =>
      rw [Plain.expr, Plain.intExpr] at h
      split at h <;> cases h
  | string t =>
      rw [Plain.expr, Plain.stringExpr] at h
      split at h <;> cases h
  | _ => cases h

theorem scan_branch {file : Option String} {e : Surface.Expr} {w : Lexeme} {ws : List Lexeme}
    (he : Spells (.expr e) (w :: ws)) (hends : Leads.endsBranches e = true) {cs : List Char}
    (hcond : (Plain.expr file e).isCond = true → name? cs = some ifWord.spelling)
    (hscan : scan Expectation.elseBranch.terminals cs = some (w.terminal, w.token.text)) :
    scan Expectation.expression.terminals cs = some (w.terminal, w.token.text) := by
  have hmem := scan_terminal hscan
  simp only [Expectation.terminals, List.mem_cons, List.not_mem_nil, or_false] at hmem
  rcases hmem with hw | hw
  · rw [hw] at hscan ⊢
    have hif : (Plain.expr file e).isCond = true := by
      generalize hvs : w :: ws = vs at he
      cases he with
      | block hb =>
          obtain ⟨u, us, hu, hbrace⟩ : Phrase.Starts vs (.block _) := hb.starts
          rw [← hvs] at hu
          cases hu
          rw [hw] at hbrace
          cases hbrace
      | cond | condElse | condElseIf => rfl
      | _ => cases hends
    rw [scan_word (by decide) (by decide) (by decide) (hcond hif),
      scan_spelling hscan (by decide)]
  · rw [hw] at hscan ⊢
    have htext := scan_spelling hscan (by decide)
    obtain ⟨rest, rfl⟩ := (scan_isPrefix hscan).2
    rw [htext]
    exact (scan_mark (by decide) (by decide) rest).1

theorem scan_alone {file : Option String} {e : Surface.Expr} {w : Lexeme} {ws : List Lexeme}
    {E : Expectation} (he : Spells (.expr e) (w :: ws)) (hp : ∀ inner x, e ≠ .paren inner x)
    (hE : Leads E e) {cs rest : List Char} (hcs : cs ≠ []) (hrest : Breaks rest)
    (halone : ReadsAlone cs (Plain.expr file e)) (hw : w.terminal ∈ exprStart)
    (hscan : scan E.terminals (cs ++ rest) = some (w.terminal, w.token.text)) :
    scan Expectation.expression.terminals (cs ++ rest) = some (w.terminal, w.token.text) := by
  have hname := name?_before hcs hrest
  rcases hE with hE | ⟨rfl, hends⟩
  · refine scan_expression hE (by decide) hw (fun hn hmove => ?_) hscan
    rw [hn, hmove] at hscan
    have hclosure := halone.name (hname.symm.trans (scan_name hscan).2)
    rw [isMoveClosure_plain hp hclosure he] at hn
    cases hn
  · exact scan_branch he hends (fun hif => hname.trans (halone.cond hif)) hscan

/-- The text under the span of an expression parses as an initializer, to the same expression, if
it holds the other parenthesis for each in it and its first word is read alike. -/
theorem ofText_standalone {file : Option String} {text : List Char} {x : Expansions} {m : Module}
    (h : (Module.ofText file text x).1 = .ok m) {t : Expr} (ht : .expr t ∈ (Node.module m).preorder)
    (hnested : Nested (textOf text t)) (halone : ReadsAlone (textOf text t) t) :
    ∃ m', (Module.ofText file (Standalone.inText (textOf text t)) .empty).1 = .ok m' ∧
      (Standalone.value? m').map (Expr.erase unplaced) = some (t.erase unplaced) := by
  obtain ⟨fs, ws, hreads⟩ := Module.exists_reads h
  obtain ⟨s', hcuts, -⟩ := hreads.cuts
  obtain ⟨e, before, we, after, rfl, hE, he, hplain, hbuilds, hp⟩ := hreads.arises ht
  obtain ⟨s, hbefore, hrest⟩ := Pending.cuts_append.mp hcuts
  obtain ⟨s'', hwe, -⟩ := Pending.cuts_append.mp hrest
  have hs : s.At text := Pending.At.cuts ⟨[], rfl, rfl⟩ hbefore
  have hplaced := (placed_of_cuts hcuts).isInfix
    ⟨before, after, List.append_assoc before we after⟩
  have hbare : e.bare = e := by
    cases e with
    | paren inner x => exact absurd rfl (hp inner x)
    | _ => rfl
  have hsame : textOf text t = textOf text (Plain.expr file e) := by
    rw [hplain, textOf, textOf, Expr.span_erase]
    rfl
  have hcore : textOf text t = slice text (startOf we).offset (stopOf we).offset := by
    rw [hsame] at hnested ⊢
    rw [textOf_bare he hs hwe hnested, hbare, he.extends.2.1, he.extends.2.2]
  obtain ⟨w, us, rfl⟩ := List.exists_cons_of_ne_nil he.extends.1
  have hne : textOf text t ≠ [] := by
    obtain ⟨hpre, -⟩ := Pending.characters_of_cuts hs hwe
    rw [hwe.place_eq (List.cons_ne_nil _ _)] at hpre
    obtain ⟨tail, hone, -⟩ := hwe
    intro hnil
    rw [hcore] at hnil
    rw [show slice text w.token.start.offset _ = [] from hnil] at hpre
    exact (scan_isPrefix hone.scan).1 (List.prefix_nil.mp hpre)
  have hbreaks : Breaks "; \x7d".toList := by simp [Breaks, isBreak]
  have halone' : ReadsAlone (textOf text t) (Plain.expr file e) := by
    rw [hplain]
    exact ⟨by simpa using halone.name, by simpa using halone.cond⟩
  rw [← expected_of_cuts hbefore] at hE
  obtain ⟨consumed, htext, hplace⟩ := hs
  obtain ⟨G, hG, hblank, hsplits⟩ := snippet_splits he hwe htext hplace (fun v hv hterm hscan => by
    cases hv
    rw [← hcore] at hscan ⊢
    exact scan_alone he hp hE hne hbreaks halone' hterm hscan) hbreaks
  rw [← hcore] at hblank hsplits
  obtain ⟨g, name, p, y, y', z, tokens, hparse⟩ :=
    Standalone.parse_inText he hplaced hG hblank hsplits
  have hbuilds' : ([Surface.Function.mk name [] none (.mk [.letItem p none (some (e.place g)) y] y')
      z].all fun f => Builds.block f.body) = true := by
    have := (Builds.expr_place g e).trans hbuilds
    simpa [Builds.block, Builds.stmts, Builds.optional] using this
  obtain ⟨m', hm', -, hfunctions⟩ := Module.ofText_of_parse hparse hbuilds' .empty
  have hvalue : Standalone.value? (m'.erase Span.inRoot) = some (Plain.expr file (e.place g)) := by
    rw [Standalone.value?, Module.erase, hfunctions]
    rfl
  refine ⟨m', hm', ?_⟩
  rw [Standalone.value?_erase, Option.map_eq_some_iff] at hvalue
  obtain ⟨t', ht', hvalue⟩ := hvalue
  rw [ht', Option.map_some, Option.some.injEq]
  calc t'.erase unplaced
    _ = (t'.erase Span.inRoot).erase unplaced := (Expr.erase_erase Span.inRoot unplaced t').symm
    _ = (Plain.expr file e).erase unplaced := by
        rw [hvalue, Plain.expr_place (respans_unplaced file g)]
    _ = t.erase unplaced := by
        rw [hplain]
        exact Expr.erase_erase Span.inRoot unplaced t

theorem exists_ofText_standalone :
    let text := "fn f() { if a { -b } else if (c) { move || d } }".toList
    ∃ m t, (Module.ofText none text .empty).1 = .ok m ∧ .expr t ∈ (Node.module m).preorder ∧
      t.isCond = true ∧ Nested (textOf text t) ∧ ReadsAlone (textOf text t) t ∧
        ∃ m', (Module.ofText none (Standalone.inText (textOf text t)) .empty).1 = .ok m' ∧
          (Standalone.value? m').map (Expr.erase unplaced) = some (t.erase unplaced) := by
  intro text
  have hchecked : ((Module.ofText none text .empty).1.toOption.map fun m =>
      (Node.module m).preorder.any (Standalone.isExprWith fun t =>
        t.isCond && (decide (Nested (textOf text t)) &&
          decide (ReadsAlone (textOf text t) t)))) = some true := by
    decide +kernel
  obtain ⟨m, hm, hchecked⟩ := Option.map_eq_some_iff.mp hchecked
  have hm : (Module.ofText none text .empty).1 = .ok m := ok_of_toOption hm
  obtain ⟨t, ht, hchecked⟩ := Standalone.exists_isExprWith hchecked
  simp only [Bool.and_eq_true, decide_eq_true_eq] at hchecked
  obtain ⟨hcond, hnested, halone⟩ := hchecked
  exact ⟨m, t, hm, ht, hcond, hnested, halone, ofText_standalone hm ht hnested halone⟩

namespace Standalone

def Fails (text : List Char) (p : List Char → Prop) : Prop :=
  ∃ m t, (Module.ofText none text .empty).1 = .ok m ∧ .expr t ∈ (Node.module m).preorder ∧
    p (textOf text t) ∧ ∀ m', (Module.ofText none (inText (textOf text t)) .empty).1 ≠ .ok m'

theorem fails_of_check {text : List Char} {p : List Char → Prop} [DecidablePred p]
    (h : ((Module.ofText none text .empty).1.toOption.map fun m =>
      (Node.module m).preorder.any (isExprWith fun t => decide (p (textOf text t)) &&
        !(Module.ofText none (inText (textOf text t)) .empty).1.isOk)) = some true) :
    Fails text p := by
  obtain ⟨m, hm, hchecked⟩ := Option.map_eq_some_iff.mp h
  obtain ⟨t, ht, hchecked⟩ := exists_isExprWith hchecked
  simp only [Bool.and_eq_true, decide_eq_true_eq, Bool.not_eq_true'] at hchecked
  refine ⟨m, t, ok_of_toOption hm, ht, hchecked.1, fun m' hm' => ?_⟩
  rw [hm'] at hchecked
  cases hchecked.2

/-- The span of operands leaves out the parentheses around the first and the last of them. -/
theorem fails_parentheses :
    Fails "fn f() { (1) + (2); }".toList (· = "1) + (2".toList) :=
  fails_of_check (by decide +kernel)

/-- Where no closure may come `move` is a name, and where only `if` and a block may come the word
ends after `if`. -/
theorem fails_move_and_if :
    Fails "fn f() { -move; }".toList Nested ∧
      Fails "fn f() { if a {} else ifx {} }".toList Nested :=
  ⟨fails_of_check (by decide +kernel), fails_of_check (by decide +kernel)⟩

end Standalone

end ChainLint.Tree
