import ChainLint.Proofs.Grammar.Borders
import ChainLint.Proofs.Grammar.Rows
import ChainLint.Proofs.Tree.Covering

namespace ChainLint

open Lexer Terminal

def UnaryOp.terminals : UnaryOp → List Terminal
  | .neg => [.minus]
  | .not => [.bang]
  | .deref => [.star]
  | .ref => [.amp]
  | .refMut => [.amp, .mutWord]

def BinaryOp.terminal : BinaryOp → Terminal
  | .add => .plus
  | .sub => .minus
  | .mul => .star
  | .div => .slash
  | .mod => .percent
  | .eq => .eqEq
  | .ne => .notEq
  | .lt => .less
  | .le => .lessEq
  | .gt => .greater
  | .ge => .greaterEq
  | .and => .andAnd
  | .or => .orOr

namespace Surface

structure Identifier where
  text : List Char
  isName : name? text = some text

structure Variable extends Identifier where
  plain : ∀ t ∈ words, t ≠ .underscore → t.spelling ≠ text

structure Decimal where
  digits : List Char
  suffix : List Char
  first : ∃ c ∈ digits.head?, c.isDigit = true
  all : ∀ c ∈ digits, isNumberPart c = true
  typed : suffix = [] ∨ suffix ∈ intSuffixes

def Decimal.text (n : Decimal) : List Char := n.digits ++ n.suffix

inductive Term where
  | var (v : Variable)
  | int (n : Decimal)
  | unary (op : UnaryOp) (operand : Term)
  | binary (op : BinaryOp) (left right : Term)
  | call (callee : Term) (args : List Term)
  | methodCall (receiver : Term) (member : Identifier) (args : List Term)
  | index (subject position : Term)

namespace Term

def rank : Term → Nat
  | .binary op _ _ => op.level.rank
  | .unary _ _ => 6
  | _ => 7

def leftRank (op : BinaryOp) : Nat :=
  if op.level.chains then op.level.rank else op.level.rank + 1

def enclosed (loose : Bool) (tokens : List (List Char)) : List (List Char) :=
  if loose then ['('] :: (tokens ++ [[')']]) else tokens

mutual

def tokens : Term → List (List Char)
  | .var v => [v.text]
  | .int n => [n.text]
  | .unary op operand =>
      op.terminals.map spelling ++ enclosed (operand.rank < 6) operand.tokens
  | .binary op left right =>
      enclosed (left.rank < leftRank op) left.tokens ++ op.terminal.spelling ::
        enclosed (right.rank < op.level.rank + 1) right.tokens
  | .call callee args => enclosed (callee.rank < 7) callee.tokens ++ ['('] :: argsTokens args
  | .methodCall receiver member args =>
      enclosed (receiver.rank < 7) receiver.tokens ++ ['.'] :: member.text :: ['('] :: argsTokens args
  | .index subject position =>
      enclosed (subject.rank < 7) subject.tokens ++ ['['] :: (position.tokens ++ [[']']])

def argsTokens : List Term → List (List Char)
  | [] => [[')']]
  | [t] => t.tokens ++ [[')']]
  | t :: ts => t.tokens ++ [','] :: argsTokens ts

end

def text (t : Term) : List Char :=
  [' '].intercalate
    ([['f', 'n'], ['f'], ['('], [')'], ['\x7b']] ++ (t.tokens ++ [['\x7d']]))

mutual

def Shows : Term → Expr → Prop
  | .var v, e => ∃ t x, e.bare = .path [t] x ∧ t.text = v.text
  | .int n, e => ∃ t, e.bare = .int t ∧ t.text = n.text
  | .unary op operand, e => ∃ e' x, e.bare = .unary op e' x ∧ operand.Shows e'
  | .binary op left right, e =>
      ∃ l r x, e.bare = .binary op l r x ∧ left.Shows l ∧ right.Shows r
  | .call callee args, e => ∃ f es x, e.bare = .call f es x ∧ callee.Shows f ∧ showsAll args es
  | .methodCall receiver member args, e =>
      ∃ r t es x, e.bare = .methodCall r t es x ∧ receiver.Shows r ∧ t.text = member.text ∧
        showsAll args es
  | .index subject position, e =>
      ∃ s p x, e.bare = .index s p x ∧ subject.Shows s ∧ position.Shows p

def showsAll : List Term → List Expr → Prop
  | [], es => es = []
  | t :: ts, es => ∃ e es', es = e :: es' ∧ t.Shows e ∧ showsAll ts es'

end

theorem Shows.paren {t : Term} {e : Expr} (h : t.Shows e) (x : Extent) : t.Shows (.paren e x) := by
  cases t <;> exact h

end Term

structure Ends (r : Nat) (u : Terminal) : Prop where
  pathSep : u ≠ .pathSep
  bang : u ≠ .bang
  suffix : u.opensSuffix = true → r = 7
  level : ∀ l : Level, l.takes u = true → l.rank ≤ r

theorem Ends.mono {r r' : Nat} {u : Terminal} (h : Ends r u) (hr : r ≤ r') (hr' : r' ≤ 7) :
    Ends r' u := by
  refine ⟨h.pathSep, h.bang, fun hs => ?_, fun l hl => Nat.le_trans (h.level l hl) hr⟩
  have := h.suffix hs
  omega

theorem ends_suffix {u : Terminal} (h : u.opensSuffix = true) : Ends 7 u := by
  refine ⟨?_, ?_, fun _ => rfl, fun l hl => ?_⟩
  · rintro rfl
    cases h
  · rintro rfl
    cases h
  · cases l <;> decide

namespace Expr

def Calm (e : Expr) : Prop := ∀ u, Ends e.rank u → e.edge u = false

theorem Calm.suffix {e : Expr} (he : e.Calm) (hr : 7 ≤ e.rank) {u : Terminal}
    (hu : u.opensSuffix = true) : e.rank = 7 ∧ e.edge u = false := by
  have hrank : e.rank = 7 := Nat.le_antisymm e.rank_le hr
  refine ⟨hrank, he u ?_⟩
  rw [hrank]
  exact ends_suffix hu

theorem calm_path (t : Token) (x : Extent) : (Expr.path [t] x).Calm := by
  intro u hu
  simp [edge, hu.pathSep, hu.bang]

theorem Calm.loops {e : Expr} (he : e.Calm) {k : Nat} {u : Terminal} (hu : Ends k u) (hk : k < e.rank)
    (hk' : k < 7) : e.edge u = false ∧ loops (k + 1) e.rank u = false := by
  refine ⟨he u (hu.mono (Nat.le_of_lt hk) e.rank_le), loops_eq_false.mpr ⟨fun _ => ?_, ?_, nofun⟩⟩
  · cases hs : u.opensSuffix with
    | false => rfl
    | true =>
        have := hu.suffix hs
        omega
  · intro l hl _
    cases ht : l.takes u with
    | false => rfl
    | true =>
        have := hu.level l ht
        omega

theorem calm_unary (op : UnaryOp) {e : Expr} (he : e.Calm) (hr : 6 ≤ e.rank) (x : Extent) :
    (Expr.unary op e x).Calm := by
  intro u hu
  have hle := e.rank_le
  have hs : u.opensSuffix = false := by
    cases hs : u.opensSuffix with
    | false => rfl
    | true => cases hu.suffix hs
  have hloops : Expr.loops 6 e.rank u = false := by
    by_cases h : e.rank = 6
    · rw [h, loops_prefix]
    · rw [show e.rank = 7 by omega, loops_suffix hs]
  simp [edge, he u (hu.mono hr hle), hloops]

theorem calm_binary (op : BinaryOp) (left : Expr) {right : Expr} (h : right.Calm)
    (hr : op.level.rank < right.rank) (x : Extent) : (Expr.binary op left right x).Calm := by
  intro u hu
  have hlevel : op.level.rank < 7 := by cases op <;> decide
  obtain ⟨hedge, hloops⟩ := h.loops (k := op.level.rank) hu hr hlevel
  simp [edge, hedge, hloops]

end Expr

def WrittenExpr (E : Expectation) (ts : List (List Char)) (P : Expr → Prop) : Prop :=
  ∃ F, Expectation.terminals.operandFollow ⊆ F.terminals ∧
    Written E ts F fun us => ∃ e, Spells (.expr e) us ∧ P e

section

variable {E F G : Expectation} {ts ts' : List (List Char)} {P : Expr → Prop}

theorem WrittenExpr.mono (h : WrittenExpr E ts P) {Q : Expr → Prop} (hPQ : ∀ e, P e → Q e) :
    WrittenExpr E ts Q := by
  obtain ⟨F, hF, h⟩ := h
  exact ⟨F, hF, h.mono fun us ⟨e, he, hP⟩ => ⟨e, he, hPQ e hP⟩⟩

theorem WrittenExpr.before {t : Terminal} {Q R : List Lexeme → Prop} (h : WrittenExpr E ts P)
    (ht : t ∈ symbols) (hE : t ∈ Expectation.terminals.operandFollow) (hrest : Written F ts' G Q)
    (hR : ∀ e us (k : Token) vs, Spells (.expr e) us → P e → k.terminal = t → Q vs →
      R (us ++ ⟨k, F⟩ :: vs)) : Written E (ts ++ t.spelling :: ts') G R := by
  obtain ⟨H, hH, h⟩ := h
  have hsymbol : Written H (t.spelling :: ts') G fun us =>
      ∃ (k : Token) (vs : List Lexeme), us = ⟨k, F⟩ :: vs ∧ k.terminal = t ∧ Q vs :=
    .symbol ht (hH hE) hrest fun k vs hk hvs => ⟨k, vs, rfl, hk, hvs⟩
  refine h.append hsymbol ?_
  rintro us _ ⟨e, he, hP⟩ ⟨k, vs, rfl, hk, hvs⟩
  exact hR e us k vs he hP hk hvs

end

theorem blankRun_decimal (n : Decimal) : blankRun false n.text = [] := by
  obtain ⟨c, hc, hdigit⟩ := n.first
  cases hd : n.digits with
  | nil =>
      rw [hd] at hc
      cases hc
  | cons d ds =>
      rw [hd] at hc
      cases hc
      have hbreak := isBreak_of_isNumberPart (n.all c (by rw [hd]; exact List.mem_cons_self))
      rw [Decimal.text, hd, List.cons_append]
      refine blankRun_eq_nil.mpr ⟨?_, ?_⟩
      · simp only [isBreak, Bool.or_eq_false_iff] at hbreak
        exact hbreak.1.1.1.1.1.1.1.1
      · rintro ⟨rfl, -⟩
        cases hdigit

section

variable {E : Expectation} (hE : operandStart ⊆ E.terminals)

include hE

theorem underscore_not_mem : Terminal.underscore ∉ E.terminals := by
  cases E <;> first | decide | exact absurd hE (by decide)

theorem stands_variable (v : Variable) : Word.Stands ⟨.name, v.text, .afterName⟩ E := by
  refine ⟨scan_alone_name (hE (by decide)) v.isName fun t ht htE => v.plain t ht ?_, ?_⟩
  · rintro rfl
    exact underscore_not_mem hE htE
  · simpa using blankRun_name v.isName []

theorem stands_decimal (n : Decimal) : Word.Stands ⟨.int, n.text, .afterOperand⟩ E :=
  ⟨scan_decimal (hE (by decide)) n.first n.all n.typed, blankRun_decimal n⟩

theorem written_prefix (op : UnaryOp) : ∃ F, operandStart ⊆ F.terminals ∧
    Written E (op.terminals.map spelling) F (SpellsPrefix op) := by
  cases op with
  | neg =>
      exact ⟨.operand, by decide, .lastSymbol (t := .minus) (by decide) (hE (by decide)) fun k hk => .neg hk⟩
  | not =>
      exact ⟨.operand, by decide, .lastSymbol (t := .bang) (by decide) (hE (by decide)) fun k hk => .not hk⟩
  | deref =>
      exact ⟨.operand, by decide, .lastSymbol (t := .star) (by decide) (hE (by decide)) fun k hk => .deref hk⟩
  | ref =>
      exact ⟨.operandOrMut, by decide,
        .lastSymbol (t := .amp) (by decide) (hE (by decide)) fun k hk => .ref hk⟩
  | refMut =>
      have hmut : Word.Stands ⟨.mutWord, ['m', 'u', 't'], .operand⟩ .operandOrMut := ⟨rfl, rfl⟩
      have hword : Written .operandOrMut [['m', 'u', 't']] .operand fun us =>
          ∃ m : Token, us = [⟨m, .operand⟩] ∧ m.terminal = .mutWord :=
        .one hmut fun m hm _ => ⟨m, rfl, hm⟩
      refine ⟨.operand, by decide, .symbol (t := .amp) (by decide) (hE (by decide)) hword ?_⟩
      rintro k us hk ⟨m, rfl, hm⟩
      exact .refMut hk hm

end

namespace Term

def Readable (t : Term) : Prop :=
  ∀ E : Expectation, operandStart ⊆ E.terminals →
    WrittenExpr E t.tokens fun e => t.Shows e ∧ e.rank = t.rank ∧ e.Calm

theorem Readable.paren {t : Term} (h : t.Readable) {E : Expectation}
    (hE : operandStart ⊆ E.terminals) :
    WrittenExpr E (['('] :: (t.tokens ++ [[')']])) fun e => t.Shows e ∧ e.rank = 7 ∧ e.Calm := by
  have hinner := h .expression (by decide)
  have hclosed : Written .expression (t.tokens ++ [[')']]) .afterOperand fun us =>
      ∃ e ws, ∃ k : Token, us = ws ++ [⟨k, .afterOperand⟩] ∧ Spells (.expr e) ws ∧ t.Shows e ∧
        k.terminal = .rparen := by
    refine hinner.before (t := .rparen) (by decide) (by decide) .nil ?_
    rintro e ws k _ he ⟨ht, -, -⟩ hk rfl
    exact ⟨e, ws, k, rfl, he, ht, hk⟩
  refine ⟨.afterOperand, List.Subset.refl _, .symbol (t := .lparen) (by decide) (hE (by decide)) hclosed ?_⟩
  rintro k _ hk ⟨e, ws, k', rfl, he, ht, hk'⟩
  exact ⟨_, .paren hk he hk', ht.paren _, rfl, fun _ _ => rfl⟩

theorem Readable.enclosed {t : Term} (h : t.Readable) {E : Expectation}
    (hE : operandStart ⊆ E.terminals) {k : Nat} (hk : k ≤ 7) :
    WrittenExpr E (enclosed (t.rank < k) t.tokens) fun e => t.Shows e ∧ k ≤ e.rank ∧ e.Calm := by
  by_cases hr : t.rank < k
  · rw [Term.enclosed, if_pos (by simpa using hr)]
    refine (h.paren hE).mono fun e ⟨hs, he, hcalm⟩ => ⟨hs, by omega, hcalm⟩
  · rw [Term.enclosed, if_neg (by simpa using hr)]
    refine (h E hE).mono fun e ⟨hs, he, hcalm⟩ => ⟨hs, by omega, hcalm⟩

theorem Readable.unary (op : UnaryOp) {t : Term} (h : t.Readable) : (Term.unary op t).Readable := by
  intro E hE
  obtain ⟨F, hF, hop⟩ := written_prefix hE op
  obtain ⟨G, hG, ht⟩ := h.enclosed hF (k := 6) (by decide)
  refine ⟨G, hG, hop.append ht ?_⟩
  rintro us vs hus ⟨e, he, hs, hr, hcalm⟩
  exact ⟨_, .unary hus he hr, ⟨e, _, rfl, hs⟩, rfl, Expr.calm_unary op hcalm hr _⟩

theorem Readable.binary (op : BinaryOp) {left right : Term} (hl : left.Readable)
    (hr : right.Readable) : (Term.binary op left right).Readable := by
  intro E hE
  have hlevel : op.level.rank < 6 := by cases op <;> decide
  have hleftRank : op.level.rank ≤ leftRank op ∧ leftRank op ≤ 7 ∧
      (leftRank op = op.level.rank → op.level.chains = true) := by
    cases op <;> decide
  have hopen : op.level.operator? op.terminal = some op := by cases op <;> rfl
  have hsymbol : op.terminal ∈ symbols ∧ op.terminal ∈ Expectation.terminals.operandFollow := by
    cases op <;> decide
  obtain ⟨hle, hle', hchains⟩ := hleftRank
  obtain ⟨G, hG, hright⟩ := hr.enclosed (E := .operand) (by decide) (k := op.level.rank + 1) (by omega)
  refine ⟨G, hG, (hl.enclosed hE hle').before hsymbol.1 hsymbol.2 hright ?_⟩
  rintro l us k vs hus ⟨hsl, hrl, hcalml⟩ hk ⟨r, hvs, hsr, hrr, hcalmr⟩
  rw [← hk] at hopen
  have hends : Ends l.rank k.terminal := by
    refine ⟨?_, ?_, ?_, fun l' hl' => ?_⟩
    · rw [hk]
      cases op <;> decide
    · rw [hk]
      cases op <;> decide
    · rw [hk]
      cases op <;> exact nofun
    · have htakes : op.level.takes k.terminal = true := by
        rw [Level.takes, hopen]
        rfl
      rw [Level.eq_of_takes hl' htakes]
      omega
  have hlr : op.level.rank < l.rank ∨ op.level.rank = l.rank ∧ op.level.chains = true := by
    by_cases h : op.level.rank < l.rank
    · exact .inl h
    · exact .inr ⟨by omega, hchains (by omega)⟩
  exact ⟨_, .binary hopen hus hlr (hcalml _ hends) hvs hrr, ⟨l, r, _, rfl, hsl, hsr⟩, rfl,
    Expr.calm_binary op l hcalmr hrr _⟩

def ReadableArgs (ts : List Term) : Prop :=
  ∀ E : Expectation, operandStart ⊆ E.terminals → .rparen ∈ E.terminals →
    Written E (argsTokens ts) .afterOperand fun us =>
      ∃ es stop, Spells (.args .rparen es stop) us ∧ showsAll ts es

theorem ReadableArgs.nil : ReadableArgs [] := by
  intro E _ hE
  refine .lastSymbol (t := .rparen) (by decide) hE fun k hk => ?_
  exact ⟨[], _, .argsNil hk, rfl⟩

theorem ReadableArgs.last {t : Term} (h : t.Readable) : ReadableArgs [t] := by
  intro E hE _
  refine (h E hE).before (t := .rparen) (by decide) (by decide) .nil ?_
  rintro e us k _ he ⟨hs, -, -⟩ hk rfl
  exact ⟨[e], _, .argsLast he hk, e, [], rfl, hs, rfl⟩

theorem ReadableArgs.cons {t u : Term} {ts : List Term} (h : t.Readable)
    (hts : ReadableArgs (u :: ts)) : ReadableArgs (t :: u :: ts) := by
  intro E hE _
  have hrest := hts .expressionOrClose (by decide) (by decide)
  refine (h E hE).before (t := .comma) (by decide) (by decide) hrest ?_
  rintro e us k vs he ⟨hs, -, -⟩ hk ⟨es, stop, hes, hall⟩
  exact ⟨e :: es, stop, .argsCons he hk hes, e, es, rfl, hs, hall⟩

theorem ReadableArgs.opened {ts : List Term} (h : ReadableArgs ts) :
    Written .expressionOrParen (argsTokens ts) .afterOperand fun us =>
      ∃ es stop, Spells (.args .rparen es stop) us ∧ showsAll ts es :=
  h .expressionOrParen (by decide) (by decide)

theorem Readable.call {callee : Term} {args : List Term} (hf : callee.Readable)
    (hargs : ReadableArgs args) : (Term.call callee args).Readable := by
  intro E hE
  refine ⟨.afterOperand, List.Subset.refl _,
    (hf.enclosed hE (Nat.le_refl 7)).before (t := .lparen) (by decide) (by decide) hargs.opened ?_⟩
  rintro f us k vs hus ⟨hs, hr, hcalm⟩ hk ⟨es, stop, hvs, hall⟩
  obtain ⟨hrank, hedge⟩ := hcalm.suffix hr (u := .lparen) rfl
  exact ⟨_, .call hus hrank hedge hk hvs, ⟨f, es, _, rfl, hs, hall⟩, rfl, fun _ _ => rfl⟩

theorem Readable.methodCall {receiver : Term} (member : Identifier) {args : List Term}
    (hf : receiver.Readable) (hargs : ReadableArgs args) :
    (Term.methodCall receiver member args).Readable := by
  intro E hE
  have hname : Word.Stands ⟨.name, member.text, .afterOperand⟩ .memberName := by
    refine ⟨scan_alone_name (by decide) member.isName fun t ht htE => ?_, ?_⟩
    · exact absurd htE (by revert t; decide)
    · simpa using blankRun_name member.isName []
  have hopened : Written .afterOperand (['('] :: argsTokens args) .afterOperand fun us =>
      ∃ (k : Token) (vs : List Lexeme), us = ⟨k, .expressionOrParen⟩ :: vs ∧ k.terminal = .lparen ∧
        ∃ es stop, Spells (.args .rparen es stop) vs ∧ showsAll args es :=
    .symbol (t := .lparen) (by decide) (by decide) hargs.opened fun k vs hk hvs =>
      ⟨k, vs, rfl, hk, hvs⟩
  have hcalled : Written .memberName (member.text :: ['('] :: argsTokens args) .afterOperand
      fun us => ∃ (t k : Token) (vs : List Lexeme), us = ⟨t, .afterOperand⟩ ::
        ⟨k, .expressionOrParen⟩ :: vs ∧ t.terminal = .name ∧ t.text = member.text ∧
          k.terminal = .lparen ∧ ∃ es stop, Spells (.args .rparen es stop) vs ∧ showsAll args es := by
    refine .cons hname hopened ?_
    rintro t _ ht htext ⟨k, vs, rfl, hk, hvs⟩
    exact ⟨t, k, vs, rfl, ht, htext, hk, hvs⟩
  refine ⟨.afterOperand, List.Subset.refl _,
    (hf.enclosed hE (Nat.le_refl 7)).before (t := .dot) (by decide) (by decide) hcalled ?_⟩
  rintro r us dot _ hus ⟨hs, hr, hcalm⟩ hdot ⟨t, k, vs, rfl, ht, htext, hk, es, stop, hvs, hall⟩
  obtain ⟨hrank, hedge⟩ := hcalm.suffix hr (u := .dot) rfl
  exact ⟨_, .methodCall hus hrank hedge hdot ht hk hvs, ⟨r, t, es, _, rfl, hs, htext, hall⟩, rfl,
    fun _ _ => rfl⟩

theorem Readable.index {subject position : Term} (hf : subject.Readable)
    (hp : position.Readable) : (Term.index subject position).Readable := by
  intro E hE
  have hclosed : Written .expression (position.tokens ++ [[']']]) .afterOperand fun us =>
      ∃ e ws, ∃ k : Token, us = ws ++ [⟨k, .afterOperand⟩] ∧ Spells (.expr e) ws ∧
        position.Shows e ∧ k.terminal = .rbracket := by
    refine (hp .expression (by decide)).before (t := .rbracket) (by decide) (by decide) .nil ?_
    rintro e ws k _ he ⟨hs, -, -⟩ hk rfl
    exact ⟨e, ws, k, rfl, he, hs, hk⟩
  refine ⟨.afterOperand, List.Subset.refl _, (hf.enclosed hE (Nat.le_refl 7)).before
    (t := .lbracket) (by decide) (by decide) hclosed ?_⟩
  rintro r us k _ hus ⟨hs, hr, hcalm⟩ hk ⟨e, ws, k', rfl, he, hs', hk'⟩
  obtain ⟨hrank, hedge⟩ := hcalm.suffix hr (u := .lbracket) rfl
  exact ⟨_, .index hus hrank hedge hk he hk', ⟨r, e, _, rfl, hs, hs'⟩, rfl, fun _ _ => rfl⟩

mutual

theorem readable : (t : Term) → t.Readable
  | .var v => by
      intro E hE
      refine ⟨.afterName, by decide, .one (stands_variable hE v) fun t ht htext => ?_⟩
      exact ⟨_, .path ht .nil, ⟨t, _, rfl, htext⟩, rfl, Expr.calm_path t _⟩
  | .int n => by
      intro E hE
      refine ⟨.afterOperand, List.Subset.refl _, .one (stands_decimal hE n) fun t ht htext => ?_⟩
      exact ⟨_, .int ht, ⟨t, rfl, htext⟩, rfl, fun _ _ => rfl⟩
  | .unary op t => (readable t).unary op
  | .binary op left right => (readable left).binary op (readable right)
  | .call callee args => (readable callee).call (readableArgs args)
  | .methodCall receiver member args => (readable receiver).methodCall member (readableArgs args)
  | .index subject position => (readable subject).index (readable position)

theorem readableArgs : (ts : List Term) → ReadableArgs ts
  | [] => .nil
  | [t] => .last (readable t)
  | t :: u :: ts => .cons (readable t) (readableArgs (u :: ts))

end

theorem exists_parse (t : Term) : ∃ name e w x y tokens,
    parse t.text = .ok (⟨[⟨name, [], none, .mk [.exprItem e false w] x, y⟩]⟩, tokens) ∧
      t.Shows e := by
  obtain ⟨F, hF, words, hwords, hrow, hspells⟩ := t.readable .statement (by decide)
  have hopening : Word.Row Tail.opening .fileStart .statement :=
    ⟨⟨rfl, rfl⟩, ⟨rfl, rfl⟩, ⟨rfl, rfl⟩, ⟨rfl, rfl⟩, ⟨rfl, rfl⟩, rfl⟩
  have hbody := (Word.row_append.mpr ⟨_, hopening, hrow⟩).splits ['\x7d']
  have hclosing : Word.Splits [Tail.closing] F (' ' :: ['\x7d']) .afterBlock [] :=
    ⟨[], (Word.IsFirst.mark (t := .rbrace) (by decide) (hF (by decide)) []).lead (b := [' '])
      (by decide) (by decide), rfl, rfl⟩
  have hall := Word.splits_append.mpr ⟨_, _, hbody, hclosing⟩
  have hstart : t.text = ['f', 'n'] ++
      ([['f'], ['('], [')'], ['\x7b']] ++ (t.tokens ++ [['\x7d']])).flatMap (' ' :: ·) :=
    intercalate_space _ _
  have htext : (Tail.opening ++ words).flatMap (fun w => ' ' :: w.text) ++ ' ' :: ['\x7d'] =
      [' '] ++ t.text := by
    rw [hstart, ← hwords]
    simp [Tail.opening, List.flatMap_map]
  rw [htext, List.append_assoc] at hall
  obtain ⟨us, hus, hparse⟩ := Tail.exists_parse (hall.unlead (by rw [hstart]; rfl)) rfl
  obtain ⟨e, he, hs, -⟩ := hspells us hus
  obtain ⟨name, x, y, tokens, hparse⟩ := hparse e he
  exact ⟨name, e, _, x, y, tokens, hparse, hs⟩

end Term

end Surface

end ChainLint
