import ChainLint.Proofs.Grammar.Balance
import ChainLint.Proofs.Tree.Plain

namespace ChainLint

open Lexer

theorem parensOf_opens {ws : List Lexeme} (h : ∀ w ∈ ws, w.terminal = .lparen) (n : Nat)
    (ps : List Char) : depth n (parensOf ws ++ ps) = depth (n + ws.length) ps := by
  induction ws generalizing n with
  | nil => rfl
  | cons w ws ih =>
      rw [parensOf_cons, h w List.mem_cons_self]
      change depth (n + 1) (parensOf ws ++ ps) = _
      rw [ih fun v hv => h v (List.mem_cons_of_mem w hv), List.length_cons, Nat.add_right_comm,
        Nat.add_assoc]

theorem parensOf_closes {ws : List Lexeme} (h : ∀ w ∈ ws, w.terminal = .rparen)
    (hnested : (depth 0 (parensOf ws)).isSome = true) : ws = [] := by
  cases ws with
  | nil => rfl
  | cons w ws =>
      rw [parensOf_cons, h w List.mem_cons_self] at hnested
      cases hnested

namespace Surface

def Expr.bare : Expr → Expr
  | .paren inner _ => inner.bare
  | e => e

theorem Placed.isInfix {a b : Nat} {ws ws' : List Lexeme} (h : Placed a ws b) (hin : ws' <:+: ws) :
    Placed a ws' b := by
  obtain ⟨before, after, rfl⟩ := hin
  obtain ⟨m, h, hafter⟩ := placed_append.mp h
  obtain ⟨m', hbefore, h⟩ := placed_append.mp h
  exact h.mono hbefore.le hafter.le

theorem Spells.bare : (e : Expr) → {ws : List Lexeme} → Spells (.expr e) ws →
    ∃ ws', ws' <:+: ws ∧ Spells (.expr e.bare) ws'
  | .paren inner _, _, h => by
      cases h with
      | @paren opening closing e ws ho he hc =>
          obtain ⟨ws', hin, h⟩ := Spells.bare inner he
          exact ⟨ws', hin.trans ⟨[⟨opening, .expression⟩], [⟨closing, .afterOperand⟩], rfl⟩, h⟩
  | .int _, ws, h | .float _, ws, h | .string _, ws, h | .bool _ _, ws, h | .path _ _, ws, h
  | .macroCall _ _ _, ws, h | .tuple _ _, ws, h | .array _ _, ws, h | .block _, ws, h
  | .cond _ _ _ _, ws, h | .whileLoop _ _ _, ws, h | .loop _ _, ws, h | .forLoop _ _ _ _, ws, h
  | .ret _ _, ws, h | .brk _, ws, h | .cont _, ws, h | .unary _ _ _, ws, h | .binary _ _ _ _, ws, h
  | .range _ _ _, ws, h | .call _ _ _, ws, h | .methodCall _ _ _ _, ws, h | .field _ _ _, ws, h
  | .index _ _ _, ws, h | .closure _ _ _ _, ws, h => ⟨ws, List.infix_rfl, h⟩

theorem Spells.argument {e : Expr} {stop : Position} {ws : List Lexeme}
    (h : Spells (.args .rparen [e] stop) ws) : ∃ we commas closing,
      ws = we ++ (commas ++ [⟨closing, .afterOperand⟩]) ∧ Spells (.expr e) we ∧
        closing.terminal = .rparen ∧ closing.stop = stop ∧
          (commas = [] ∨ ∃ comma, comma.terminal = .comma ∧
            commas = [⟨comma, .expressionOrClose⟩]) := by
  cases h with
  | argsLast he hc => exact ⟨_, [], _, rfl, he, hc, rfl, .inl rfl⟩
  | argsCons he hcomma hes =>
      cases hes with
      | argsNil hc => exact ⟨_, [_], _, rfl, he, hc, rfl, .inr ⟨_, hcomma, rfl⟩⟩

end Surface

namespace Tree

open Surface Build

theorem Plain.expr_bare (file : Option String) :
    (e : Surface.Expr) → Plain.expr file e.bare = Plain.expr file e
  | .paren inner _ => Plain.expr_bare file inner
  | .int _ | .float _ | .string _ | .bool _ _ | .path _ _ | .macroCall _ _ _ | .tuple _ _
  | .array _ _ | .block _ | .cond _ _ _ _ | .whileLoop _ _ _ | .loop _ _ | .forLoop _ _ _ _
  | .ret _ _ | .brk _ | .cont _ | .unary _ _ _ | .binary _ _ _ _ | .range _ _ _ | .call _ _ _
  | .methodCall _ _ _ _ | .field _ _ _ | .index _ _ _ | .closure _ _ _ _ => rfl

theorem Builds.expr_bare : (e : Surface.Expr) → Builds.expr e.bare = Builds.expr e
  | .paren inner _ => Builds.expr_bare inner
  | .int _ | .float _ | .string _ | .bool _ _ | .path _ _ | .macroCall _ _ _ | .tuple _ _
  | .array _ _ | .block _ | .cond _ _ _ _ | .whileLoop _ _ _ | .loop _ _ | .forLoop _ _ _ _
  | .ret _ _ | .brk _ | .cont _ | .unary _ _ _ | .binary _ _ _ _ | .range _ _ _ | .call _ _ _
  | .methodCall _ _ _ _ | .field _ _ _ | .index _ _ _ | .closure _ _ _ _ => rfl

/-- The span of an expression covers some of its tokens, without parentheses that open before them
or close behind them. If these are balanced, they spell the expression without its parentheses. -/
structure Covers (file : Option String) (e : Surface.Expr) (ws pre mid post : List Lexeme) :
    Prop where
  split : ws = pre ++ (mid ++ post)
  ne_nil : mid ≠ []
  span : (Plain.expr file e).span = .between file (startOf mid) (stopOf mid)
  opens : ∀ w ∈ pre, w.terminal = .lparen
  closes : ∀ w ∈ post, w.terminal = .rparen
  spells : depth 0 (parensOf mid) = some 0 → Spells (.expr e.bare) mid

namespace Covers

variable {file : Option String} {e : Surface.Expr} {ws pre mid post : List Lexeme}

theorem all (h : Spells (.expr e) ws) (hbare : e.bare = e)
    (hspan : (Plain.expr file e).span = spanOf file e.extent) : Covers file e ws [] ws [] where
  split := by rw [List.append_nil, List.nil_append]
  ne_nil := h.extends.1
  span := by
    obtain ⟨-, hstart, hstop⟩ := h.extends
    rw [hspan, spanOf, hstart, hstop]
  opens := nofun
  closes := nofun
  spells _ := by rwa [hbare]

theorem left_nil (h : Covers file e ws pre mid post) (hs : Spells (.expr e) ws) {d : Nat}
    (hd : depth 0 (parensOf (mid ++ post)) = some d) : pre = [] := by
  have hall : depth 0 (parensOf ws) = some 0 := hs.balanced rfl 0
  rw [h.split, parensOf_append, parensOf_opens h.opens] at hall
  have hadd := depth_add hd pre.length
  rw [hall, Option.some.injEq] at hadd
  exact List.eq_nil_of_length_eq_zero (by omega)

theorem right_nil (h : Covers file e ws pre mid post) (hs : Spells (.expr e) ws)
    (hd : depth 0 (parensOf (pre ++ mid)) = some 0) : post = [] := by
  have hall : depth 0 (parensOf ws) = some 0 := hs.balanced rfl 0
  rw [h.split, ← List.append_assoc, parensOf_append, depth_append, hd, Option.bind_some] at hall
  exact parensOf_closes h.closes (by rw [hall]; rfl)

end Covers

theorem Covers.binary {file : Option String} {op : BinaryOp} {t : Token} {left right : Surface.Expr}
    {x : Extent} {ws ws' pre pre' mid mid' post post' : List Lexeme}
    (h : Spells (.expr (.binary op left right x)) (ws ++ ⟨t, .operand⟩ :: ws'))
    (hop : op.level.operator? t.terminal = some op)
    (hl : Spells (.expr left) ws) (hr : Spells (.expr right) ws')
    (hcl : Covers file left ws pre mid post) (hcr : Covers file right ws' pre' mid' post') :
    Covers file (.binary op left right x) (ws ++ ⟨t, .operand⟩ :: ws') pre
      ((mid ++ post) ++ ⟨t, .operand⟩ :: (pre' ++ mid')) post' where
  split := by simp only [hcl.split, hcr.split, List.append_assoc, List.cons_append]
  ne_nil := by simp
  span := by
    have hspan : (Plain.expr file (.binary op left right x)).span =
        (Plain.expr file left).span.join (Plain.expr file right).span := rfl
    rw [hspan, hcl.span, hcr.span, startOf_append (by simp [hcl.ne_nil]),
      startOf_append hcl.ne_nil, stopOf_append (List.cons_ne_nil _ _),
      stopOf_cons (by simp [hcr.ne_nil]), stopOf_append hcr.ne_nil]
    rfl
  opens := hcl.opens
  closes := hcr.closes
  spells hd := by
    have hparen : parensOf (⟨t, .operand⟩ :: (pre' ++ mid')) = parensOf (pre' ++ mid') := by
      rw [parensOf_cons, Lexeme.terminal, operator_paren hop, List.nil_append]
    rw [parensOf_append, hparen, depth_append] at hd
    cases hleft : depth 0 (parensOf (mid ++ post)) with
    | none =>
        rw [hleft] at hd
        cases hd
    | some d =>
        have hpre := hcl.left_nil hl hleft
        have hws : mid ++ post = ws := by rw [hcl.split, hpre, List.nil_append]
        rw [hws, hl.balanced rfl 0, Option.bind_some] at hd
        have hpost := hcr.right_nil hr hd
        have hws' : pre' ++ mid' = ws' := by rw [hcr.split, hpost, List.append_nil]
        rw [hws, hws']
        exact h

theorem Covers.paren {file : Option String} {opening closing : Token} {e : Surface.Expr}
    {ws pre mid post : List Lexeme} (ho : opening.terminal = .lparen)
    (hc : closing.terminal = .rparen) (h : Covers file e ws pre mid post) :
    Covers file (.paren e ⟨opening.start, closing.stop⟩)
      (⟨opening, .expression⟩ :: (ws ++ [⟨closing, .afterOperand⟩])) (⟨opening, .expression⟩ :: pre)
      mid (post ++ [⟨closing, .afterOperand⟩]) where
  split := by simp only [h.split, List.append_assoc, List.cons_append]
  ne_nil := h.ne_nil
  span := h.span
  opens := List.forall_mem_cons.mpr ⟨ho, h.opens⟩
  closes w hw := by
    rcases List.mem_append.mp hw with hw | hw
    · exact h.closes w hw
    · rw [List.mem_singleton.mp hw]
      exact hc
  spells := h.spells

theorem Plain.span_int (file : Option String) (t : Token) :
    (intExpr file t).span = spanOf file (.ofToken t) := by
  unfold intExpr
  split <;> rfl

theorem Plain.span_string (file : Option String) (t : Token) :
    (stringExpr file t).span = spanOf file (.ofToken t) := by
  unfold stringExpr
  split <;> rfl

theorem exists_covers (file : Option String) : (e : Surface.Expr) → {ws : List Lexeme} →
    Spells (.expr e) ws → ∃ pre mid post, Covers file e ws pre mid post
  | .paren inner _, _, .paren ho he hc => by
      obtain ⟨pre, mid, post, h⟩ := exists_covers file inner he
      exact ⟨_, _, _, h.paren ho hc⟩
  | .binary _ left right _, _, h@(.binary hop hl _ _ hr _) => by
      obtain ⟨pre, mid, post, hcl⟩ := exists_covers file left hl
      obtain ⟨pre', mid', post', hcr⟩ := exists_covers file right hr
      exact ⟨_, _, _, .binary h hop hl hr hcl hcr⟩
  | .int t, ws, h => ⟨[], ws, [], .all h rfl (Plain.span_int file t)⟩
  | .string t, ws, h => ⟨[], ws, [], .all h rfl (Plain.span_string file t)⟩
  | .float _, ws, h | .bool _ _, ws, h | .path _ _, ws, h | .macroCall _ _ _, ws, h
  | .tuple _ _, ws, h | .array _ _, ws, h | .block _, ws, h | .cond _ _ _ _, ws, h
  | .whileLoop _ _ _, ws, h | .loop _ _, ws, h | .forLoop _ _ _ _, ws, h | .ret _ _, ws, h
  | .brk _, ws, h | .cont _, ws, h | .unary _ _ _, ws, h | .range _ _ _, ws, h | .call _ _ _, ws, h
  | .methodCall _ _ _ _, ws, h | .field _ _ _, ws, h | .index _ _ _, ws, h
  | .closure _ _ _ _, ws, h => ⟨[], ws, [], .all h rfl rfl⟩

theorem span_within (file : Option String) {e : Surface.Expr} {ws : List Lexeme}
    (h : Spells (.expr e) ws) {a b : Nat} (hp : Placed a ws b) :
    (a : Int) ≤ (Plain.expr file e).span.lo ∧
      (Plain.expr file e).span.lo < (Plain.expr file e).span.hi ∧
        (Plain.expr file e).span.hi ≤ b := by
  obtain ⟨pre, mid, post, hc⟩ := exists_covers file e h
  rw [hc.split] at hp
  obtain ⟨m, hpre, hp⟩ := placed_append.mp hp
  obtain ⟨m', hmid, hpost⟩ := placed_append.mp hp
  obtain ⟨h₁, h₂, h₃, -⟩ := hmid.tight hc.ne_nil
  have hm := hpre.le
  have hm' := hpost.le
  rw [hc.span, Span.between]
  simp only
  omega

theorem Plain.eq_methodCall {file : Option String} {i : Info} {r : Expr} {name : String} {s : Span}
    {args : List Expr} : (e : Surface.Expr) →
      Plain.expr file e = .methodCall i r name s args →
        ∃ receiver t es x, e.bare = .methodCall receiver t es x ∧ i = infoOf file x ∧
          Plain.expr file receiver = r ∧ spell t = name ∧ spanOf file (.ofToken t) = s ∧
            Plain.exprs file es = args
  | .paren inner _, h => Plain.eq_methodCall inner h
  | .methodCall receiver t es x, h => by
      obtain ⟨rfl, rfl, rfl, rfl, rfl⟩ := Expr.methodCall.inj h
      exact ⟨receiver, t, es, x, rfl, rfl, rfl, rfl, rfl, rfl⟩
  | .int t, h => by
      rw [Plain.expr, Plain.intExpr] at h
      split at h <;> cases h
  | .string t, h => by
      rw [Plain.expr, Plain.stringExpr] at h
      split at h <;> cases h

theorem Plain.exprs_singleton {file : Option String} {es : List Surface.Expr} {t : Expr}
    (h : Plain.exprs file es = [t]) : ∃ e, es = [e] ∧ Plain.expr file e = t := by
  match es, h with
  | [e], h => exact ⟨e, rfl, List.singleton_inj.mp h⟩

structure PlacedCall (a b : Int) (whole receiver name : Span) (length : Nat) (arg : Span) :
    Prop where
  start : a ≤ receiver.lo
  before : receiver.lo < receiver.hi
  dot : receiver.hi + 1 ≤ name.lo
  named : name.hi = name.lo + length
  opening : name.hi + 1 ≤ arg.lo
  inside : arg.lo < arg.hi
  closing : arg.hi + 1 ≤ whole.hi
  stop : whole.hi ≤ b

theorem PlacedCall.of_inRoot {a b : Int} {whole receiver name arg : Span} {length : Nat}
    (h : PlacedCall a b whole.inRoot receiver.inRoot name.inRoot length arg.inRoot) :
    PlacedCall a b whole receiver name length arg :=
  ⟨h.start, h.before, h.dot, h.named, h.opening, h.inside, h.closing, h.stop⟩

theorem placedCall {file : Option String} {e : Surface.Expr} {ws : List Lexeme}
    (h : Spells (.expr e) ws) {a b : Nat} (hp : Placed a ws b)
    (hlen : ∀ w ∈ ws, w.token.stop.offset = w.token.start.offset + w.token.text.length)
    {i : Info} {receiver : Expr} {name : String} {nameSpan : Span} {arg : Expr}
    (he : Plain.expr file e = .methodCall i receiver name nameSpan [arg]) :
    PlacedCall a b i.span receiver.span nameSpan name.toList.length arg.span := by
  obtain ⟨r, t, es, x, hbare, rfl, rfl, rfl, rfl, hes⟩ := Plain.eq_methodCall e he
  obtain ⟨f, rfl, rfl⟩ := Plain.exprs_singleton hes
  obtain ⟨ws', hin, h⟩ := h.bare
  rw [hbare] at h
  have hp := hp.isInfix hin
  cases h with
  | @methodCall dot _ opening _ _ stop wr wargs hr hrank hedge hd hn ho hargs =>
      obtain ⟨wf, commas, closing, rfl, hf, hc, rfl, hcommas⟩ := hargs.argument
      have hname := hlen ⟨t, .afterOperand⟩ (hin.mem (by simp))
      obtain ⟨m, hwr, h₁, h₂, h₃, h₄, h₅, h₆, h₇⟩ := placed_append.mp hp
      obtain ⟨m', hwf, h₈⟩ := placed_append.mp h₇
      obtain ⟨m'', hcommas, h₉, h₁₀, h₁₁⟩ := placed_append.mp h₈
      have hcommas := hcommas.le
      obtain ⟨hr₁, hr₂, hr₃⟩ := span_within file hr hwr
      obtain ⟨hf₁, hf₂, hf₃⟩ := span_within file hf hwf
      have hstop : closing.stop.offset ≤ b := h₁₁
      simp only at h₁ h₂ h₃ h₄ h₅ h₆ h₉ h₁₀ hname hf₁
      have hlength : (spell t).toList.length = t.text.length := by
        rw [spell, String.toList_ofList]
      constructor
      · exact hr₁
      · exact hr₂
      · simp only [spanOf, Span.between, Extent.ofToken]
        omega
      · simp only [spanOf, Span.between, Extent.ofToken, hlength]
        omega
      · simp only [spanOf, Span.between, Extent.ofToken]
        omega
      · exact hf₂
      · simp only [infoOf, spanOf, Span.between]
        omega
      · simp only [infoOf, spanOf, Span.between]
        omega

end Tree

end ChainLint
