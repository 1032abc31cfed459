import ChainLint.Proofs.Grammar.Derivation

namespace ChainLint.Surface

open Parser Cursor

theorem segments_sound {n : Nat} {c d : Cursor} {ts : List Token}
    (h : Runs (segments n) c ts d) :
    ∃ ws, Reads ws c d ∧ SpellsSegments ts ws ∧ d.terminal ≠ .pathSep := by
  induction n generalizing c ts with
  | zero => cases h
  | succ n ih =>
      rw [segments, runs_peek_bind] at h
      split at h
      · next hsep =>
          obtain ⟨c₁, h₁, h⟩ := runs_shift_bind.mp h
          obtain ⟨ht, c₂, h₂, h⟩ := runs_expect_bind.mp h
          obtain ⟨ts', c₃, h₃, h⟩ := runs_bind.mp h
          obtain ⟨rfl, rfl⟩ := runs_pure.mp h
          obtain ⟨ws, hws, hs, hstop⟩ := ih h₃
          exact ⟨_, .cons h₁ (.cons h₂ hws), .cons hsep ht hs, hstop⟩
      · next hsep =>
          obtain ⟨rfl, rfl⟩ := runs_pure.mp h
          exact ⟨[], .nil, .nil, hsep⟩

structure PatSound (n : Nat) : Prop where
  one {c d : Cursor} {p : Pat} (h : Runs (pattern n) c p d) :
    ∃ ws, Reads ws c d ∧ SpellsPat (.one p) ws
  elems {c d : Cursor} {ps : List Pat} {stop : Position}
    (h : Runs (patternElems n) c (ps, stop) d) :
    ∃ ws, Reads ws c d ∧ SpellsPat (.elems ps stop) ws

theorem PatSound.zero : PatSound 0 where
  one h := nomatch h
  elems h := nomatch h

theorem PatSound.pattern {n : Nat} (ih : PatSound n) {c d : Cursor} {p : Pat}
    (h : Runs (pattern (n + 1)) c p d) : ∃ ws, Reads ws c d ∧ SpellsPat (.one p) ws := by
  rw [Parser.pattern, runs_peek_bind] at h
  split at h
  · next ht =>
      obtain ⟨c₁, h₁, h⟩ := runs_shift_bind.mp h
      obtain ⟨rfl, rfl⟩ := runs_pure.mp h
      exact ⟨_, .one h₁, .binding ht⟩
  · next hm =>
      obtain ⟨c₁, h₁, h⟩ := runs_shift_bind.mp h
      obtain ⟨ht, c₂, h₂, h⟩ := runs_expect_bind.mp h
      obtain ⟨rfl, rfl⟩ := runs_pure.mp h
      exact ⟨_, .cons h₁ (.one h₂), .mutBinding hm ht⟩
  · next ht =>
      obtain ⟨c₁, h₁, h⟩ := runs_shift_bind.mp h
      obtain ⟨rfl, rfl⟩ := runs_pure.mp h
      exact ⟨_, .one h₁, .wild ht⟩
  · next ho =>
      obtain ⟨c₁, h₁, h⟩ := runs_shift_bind.mp h
      obtain ⟨⟨ps, stop⟩, c₂, h₂, h⟩ := runs_bind.mp h
      obtain ⟨rfl, rfl⟩ := runs_pure.mp h
      obtain ⟨ws, hws, hs⟩ := ih.elems h₂
      exact ⟨_, .cons h₁ hws, .tuple ho hs⟩
  · exact absurd h not_runs_fail

theorem PatSound.patternElems {n : Nat} (ih : PatSound n) {c d : Cursor} {ps : List Pat}
    {stop : Position} (h : Runs (patternElems (n + 1)) c (ps, stop) d) :
    ∃ ws, Reads ws c d ∧ SpellsPat (.elems ps stop) ws := by
  rw [Parser.patternElems, runs_peek_bind] at h
  split at h
  · next hc =>
      obtain ⟨c₁, h₁, h⟩ := runs_shift_bind.mp h
      obtain ⟨he, rfl⟩ := runs_pure.mp h
      cases he
      exact ⟨_, .one h₁, .elemsNil hc⟩
  · obtain ⟨p, c₁, h₁, h⟩ := runs_bind.mp h
    obtain ⟨ws, hws, hp⟩ := ih.one h₁
    rw [runs_peek_bind] at h
    split at h
    · next hc =>
        obtain ⟨c₂, h₂, h⟩ := runs_shift_bind.mp h
        obtain ⟨⟨ps', stop'⟩, c₃, h₃, h⟩ := runs_bind.mp h
        obtain ⟨he, rfl⟩ := runs_pure.mp h
        cases he
        obtain ⟨ws', hws', hps⟩ := ih.elems h₃
        exact ⟨_, hws.append (.cons h₂ hws'), .elemsCons hp hc hps⟩
    · obtain ⟨hc, c₂, h₂, h⟩ := runs_expect_bind.mp h
      obtain ⟨he, rfl⟩ := runs_pure.mp h
      cases he
      exact ⟨_, hws.append (.one h₂), .elemsLast hp hc⟩

theorem PatSound.all (n : Nat) : PatSound n := by
  induction n with
  | zero => exact .zero
  | succ n ih => exact ⟨ih.pattern, ih.patternElems⟩

structure TypeSound (n : Nat) : Prop where
  one {c d : Cursor} {t : TypeExpr} (h : Runs (typeExpr n) c t d) :
    ∃ ws, Reads ws c d ∧ SpellsType (.one t) ws
  args {c d : Cursor} {ts : List TypeExpr} {stop : Position}
    (h : Runs (typeArgs n) c (ts, stop) d) :
    ∃ ws, Reads ws c d ∧ SpellsType (.args ts stop) ws
  elems {c d : Cursor} {ts : List TypeExpr} {stop : Position}
    (h : Runs (typeElems n) c (ts, stop) d) :
    ∃ ws, Reads ws c d ∧ SpellsType (.elems ts stop) ws

theorem TypeSound.zero : TypeSound 0 where
  one h := nomatch h
  args h := nomatch h
  elems h := nomatch h

theorem TypeSound.typeExpr {n : Nat} (ih : TypeSound n) {c d : Cursor} {t : TypeExpr}
    (h : Runs (typeExpr (n + 1)) c t d) : ∃ ws, Reads ws c d ∧ SpellsType (.one t) ws := by
  rw [Parser.typeExpr, runs_peek_bind] at h
  split at h
  · next ht =>
      obtain ⟨c₁, h₁, h⟩ := runs_shift_bind.mp h
      obtain ⟨ts, c₂, h₂, h⟩ := runs_bind.mp h
      obtain ⟨ws, hws, hts, -⟩ := segments_sound h₂
      rw [runs_peek_bind] at h
      split at h
      · next hl =>
          obtain ⟨c₃, h₃, h⟩ := runs_shift_bind.mp h
          obtain ⟨⟨args, stop⟩, c₄, h₄, h⟩ := runs_bind.mp h
          obtain ⟨rfl, rfl⟩ := runs_pure.mp h
          obtain ⟨ws', hws', hargs⟩ := ih.args h₄
          exact ⟨_, .cons h₁ (hws.append (.cons h₃ hws')), .applied ht hts hl hargs⟩
      · obtain ⟨rfl, rfl⟩ := runs_pure.mp h
        exact ⟨_, .cons h₁ hws, .name ht hts⟩
  · next ha =>
      obtain ⟨c₁, h₁, h⟩ := runs_shift_bind.mp h
      rw [runs_peek_bind] at h
      split at h
      · next hm =>
          obtain ⟨c₂, h₂, h⟩ := runs_shift_bind.mp h
          obtain ⟨u, c₃, h₃, h⟩ := runs_bind.mp h
          obtain ⟨rfl, rfl⟩ := runs_pure.mp h
          obtain ⟨ws, hws, hu⟩ := ih.one h₃
          exact ⟨_, .cons h₁ (.cons h₂ hws), .mutRef ha hm hu⟩
      · obtain ⟨u, c₂, h₂, h⟩ := runs_bind.mp h
        obtain ⟨rfl, rfl⟩ := runs_pure.mp h
        obtain ⟨ws, hws, hu⟩ := ih.one h₂
        exact ⟨_, .cons h₁ hws, .ref ha hu⟩
  · next ho =>
      obtain ⟨c₁, h₁, h⟩ := runs_shift_bind.mp h
      obtain ⟨u, c₂, h₂, h⟩ := runs_bind.mp h
      obtain ⟨hc, c₃, h₃, h⟩ := runs_expect_bind.mp h
      obtain ⟨rfl, rfl⟩ := runs_pure.mp h
      obtain ⟨ws, hws, hu⟩ := ih.one h₂
      exact ⟨_, .cons h₁ (hws.append (.one h₃)), .slice ho hu hc⟩
  · next ho =>
      obtain ⟨c₁, h₁, h⟩ := runs_shift_bind.mp h
      rw [runs_peek_bind] at h
      split at h
      · next hc =>
          obtain ⟨c₂, h₂, h⟩ := runs_shift_bind.mp h
          obtain ⟨rfl, rfl⟩ := runs_pure.mp h
          exact ⟨_, .cons h₁ (.one h₂), .unit ho hc⟩
      · obtain ⟨u, c₂, h₂, h⟩ := runs_bind.mp h
        obtain ⟨hc, c₃, h₃, h⟩ := runs_expect_bind.mp h
        obtain ⟨⟨us, stop⟩, c₄, h₄, h⟩ := runs_bind.mp h
        obtain ⟨rfl, rfl⟩ := runs_pure.mp h
        obtain ⟨ws, hws, hu⟩ := ih.one h₂
        obtain ⟨ws', hws', hus⟩ := ih.elems h₄
        exact ⟨_, .cons h₁ (hws.append (.cons h₃ hws')), .tuple ho hu hc hus⟩
  · exact absurd h not_runs_fail

theorem TypeSound.typeArgs {n : Nat} (ih : TypeSound n) {c d : Cursor} {ts : List TypeExpr}
    {stop : Position} (h : Runs (typeArgs (n + 1)) c (ts, stop) d) :
    ∃ ws, Reads ws c d ∧ SpellsType (.args ts stop) ws := by
  rw [Parser.typeArgs] at h
  obtain ⟨u, c₁, h₁, h⟩ := runs_bind.mp h
  obtain ⟨ws, hws, hu⟩ := ih.one h₁
  rw [runs_peek_bind] at h
  split at h
  · next hc =>
      obtain ⟨c₂, h₂, h⟩ := runs_shift_bind.mp h
      obtain ⟨⟨us, stop'⟩, c₃, h₃, h⟩ := runs_bind.mp h
      obtain ⟨he, rfl⟩ := runs_pure.mp h
      cases he
      obtain ⟨ws', hws', hus⟩ := ih.args h₃
      exact ⟨_, hws.append (.cons h₂ hws'), .argsCons hu hc hus⟩
  · obtain ⟨hc, c₂, h₂, h⟩ := runs_expect_bind.mp h
    obtain ⟨he, rfl⟩ := runs_pure.mp h
    cases he
    exact ⟨_, hws.append (.one h₂), .argsLast hu hc⟩

theorem TypeSound.typeElems {n : Nat} (ih : TypeSound n) {c d : Cursor} {ts : List TypeExpr}
    {stop : Position} (h : Runs (typeElems (n + 1)) c (ts, stop) d) :
    ∃ ws, Reads ws c d ∧ SpellsType (.elems ts stop) ws := by
  rw [Parser.typeElems, runs_peek_bind] at h
  split at h
  · next hc =>
      obtain ⟨c₁, h₁, h⟩ := runs_shift_bind.mp h
      obtain ⟨he, rfl⟩ := runs_pure.mp h
      cases he
      exact ⟨_, .one h₁, .elemsNil hc⟩
  · obtain ⟨u, c₁, h₁, h⟩ := runs_bind.mp h
    obtain ⟨ws, hws, hu⟩ := ih.one h₁
    rw [runs_peek_bind] at h
    split at h
    · next hc =>
        obtain ⟨c₂, h₂, h⟩ := runs_shift_bind.mp h
        obtain ⟨⟨us, stop'⟩, c₃, h₃, h⟩ := runs_bind.mp h
        obtain ⟨he, rfl⟩ := runs_pure.mp h
        cases he
        obtain ⟨ws', hws', hus⟩ := ih.elems h₃
        exact ⟨_, hws.append (.cons h₂ hws'), .elemsCons hu hc hus⟩
    · obtain ⟨hc, c₂, h₂, h⟩ := runs_expect_bind.mp h
      obtain ⟨he, rfl⟩ := runs_pure.mp h
      cases he
      exact ⟨_, hws.append (.one h₂), .elemsLast hu hc⟩

theorem TypeSound.all (n : Nat) : TypeSound n := by
  induction n with
  | zero => exact .zero
  | succ n ih => exact ⟨ih.typeExpr, ih.typeArgs, ih.typeElems⟩

theorem closureParam_sound {n : Nat} {c d : Cursor} {p : Param}
    (h : Runs (closureParam n) c p d) : ∃ ws, Reads ws c d ∧ SpellsParam p ws := by
  rw [closureParam] at h
  obtain ⟨q, c₁, h₁, h⟩ := runs_bind.mp h
  obtain ⟨ws, hws, hq⟩ := (PatSound.all n).one h₁
  rw [runs_peek_bind] at h
  split at h
  · next hc =>
      obtain ⟨c₂, h₂, h⟩ := runs_shift_bind.mp h
      obtain ⟨u, c₃, h₃, h⟩ := runs_bind.mp h
      obtain ⟨rfl, rfl⟩ := runs_pure.mp h
      obtain ⟨ws', hws', hu⟩ := (TypeSound.all n).one h₃
      exact ⟨_, hws.append (.cons h₂ hws'), .mk hq (.some hc hu)⟩
  · obtain ⟨rfl, rfl⟩ := runs_pure.mp h
    exact ⟨_, hws.append .nil, .mk hq .none⟩

theorem closureParams_sound {n : Nat} {c d : Cursor} {ps : List Param}
    (h : Runs (closureParams n) c ps d) : ∃ ws, Reads ws c d ∧ SpellsBars ps ws := by
  induction n generalizing c ps with
  | zero => cases h
  | succ n ih =>
      rw [closureParams] at h
      obtain ⟨p, c₁, h₁, h⟩ := runs_bind.mp h
      obtain ⟨ws, hws, hp⟩ := closureParam_sound h₁
      rw [runs_peek_bind] at h
      split at h
      · next hc =>
          obtain ⟨c₂, h₂, h⟩ := runs_shift_bind.mp h
          obtain ⟨ps', c₃, h₃, h⟩ := runs_bind.mp h
          obtain ⟨rfl, rfl⟩ := runs_pure.mp h
          obtain ⟨ws', hws', hps⟩ := ih h₃
          exact ⟨_, hws.append (.cons h₂ hws'), .cons hp hc hps⟩
      · obtain ⟨hc, c₂, h₂, h⟩ := runs_expect_bind.mp h
        obtain ⟨rfl, rfl⟩ := runs_pure.mp h
        exact ⟨_, hws.append (.one h₂), .last hp hc⟩

theorem closureHead_sound {n : Nat} {c d : Cursor} {ps : List Param}
    (h : Runs (closureHead n) c ps d) : ∃ ws, Reads ws c d ∧ SpellsHead ps ws := by
  rw [closureHead, runs_peek_bind] at h
  split at h
  · next hb =>
      obtain ⟨c₁, h₁, h⟩ := runs_shift_bind.mp h
      obtain ⟨rfl, rfl⟩ := runs_pure.mp h
      exact ⟨_, .one h₁, .joined hb⟩
  · obtain ⟨ho, c₁, h₁, h⟩ := runs_expect_bind.mp h
    rw [runs_peek_bind] at h
    split at h
    · next hc =>
        obtain ⟨c₂, h₂, h⟩ := runs_shift_bind.mp h
        obtain ⟨rfl, rfl⟩ := runs_pure.mp h
        exact ⟨_, .cons h₁ (.one h₂), .empty ho hc⟩
    · obtain ⟨ws, hws, hps⟩ := closureParams_sound h
      exact ⟨_, .cons h₁ hws, .params ho hps⟩

theorem SpellsHead.ne_nil {ps : List Param} {ws : List Lexeme} (h : SpellsHead ps ws) :
    ws ≠ [] := by
  cases h <;> simp

/-- What the parsers with fuel `n` accept. The loops over operators and suffixes start from an
expression that is already read. -/
structure Sound (n : Nat) : Prop where
  expr {c d : Cursor} {e : Expr} (h : Runs (expr n) c e d) :
    ∃ ws, Reads ws c d ∧ Spells (.expr e) ws ∧ e.opens 0 d.terminal = false
  upper {lower : Option Expr} {start stop : Position} {c d : Cursor} {e : Expr}
    (h : Runs (upperBound n lower start stop) c e d) :
    (e = .range lower none ⟨start, stop⟩ ∧ c = d ∧ startsOperand d.terminal = false) ∨
      ∃ u ws, Reads ws c d ∧ Spells (.expr u) ws ∧ 1 ≤ u.rank ∧ u.opens 1 d.terminal = false ∧
        e = .range lower (some u) ⟨start, u.extent.stop⟩
  level {l : Level} {c d : Cursor} {e : Expr} (h : Runs (level n l) c e d) :
    ∃ ws, Reads ws c d ∧ Spells (.expr e) ws ∧ l.rank ≤ e.rank ∧ e.opens l.rank d.terminal = false
  operand {l : Level} {c d : Cursor} {e : Expr} (h : Runs (operand n l) c e d) :
    ∃ ws, Reads ws c d ∧ Spells (.expr e) ws ∧ l.rank < e.rank ∧
      e.opens (l.rank + 1) d.terminal = false
  levelRest {l : Level} {left e : Expr} {ws : List Lexeme} {c d : Cursor}
    (h : Runs (levelRest n l left) c e d) (hl : Spells (.expr left) ws)
    (hr : l.rank < left.rank ∨ l.rank = left.rank ∧ l.chains = true)
    (ho : left.opens (l.rank + 1) c.terminal = false) :
    ∃ ws', Reads ws' c d ∧ Spells (.expr e) (ws ++ ws') ∧ l.rank ≤ e.rank ∧
      e.opens l.rank d.terminal = false
  unary {c d : Cursor} {e : Expr} (h : Runs (unary n) c e d) :
    ∃ ws, Reads ws c d ∧ Spells (.expr e) ws ∧ 6 ≤ e.rank ∧ e.opens 6 d.terminal = false
  prefixed {op : UnaryOp} {first : Token} {c d : Cursor} {e : Expr}
    (h : Runs (prefixed n op first) c e d) :
    ∃ u ws, Reads ws c d ∧ Spells (.expr u) ws ∧ 6 ≤ u.rank ∧ u.opens 6 d.terminal = false ∧
      e = .unary op u ⟨first.start, u.extent.stop⟩
  suffixes {base e : Expr} {ws : List Lexeme} {c d : Cursor}
    (h : Runs (suffixes n base) c e d) (hb : Spells (.expr base) ws) (hr : base.rank = 7)
    (ho : base.edge c.terminal = false) :
    ∃ ws', Reads ws' c d ∧ Spells (.expr e) (ws ++ ws') ∧ e.rank = 7 ∧
      e.edge d.terminal = false ∧ d.terminal.opensSuffix = false
  arguments {close : Terminal} {c d : Cursor} {es : List Expr} {stop : Position}
    (h : Runs (arguments n close) c (es, stop) d) :
    ∃ ws, Reads ws c d ∧ Spells (.args close es stop) ws
  primary {c d : Cursor} {e : Expr} (h : Runs (primary n) c e d) :
    ∃ ws, Reads ws c d ∧ Spells (.expr e) ws ∧ e.rank = 7 ∧ e.edge d.terminal = false
  cond {c d : Cursor} {e : Expr} (h : Runs (cond n) c e d) :
    ∃ test yes no x word ws, e = .cond test yes no x ∧ word.terminal = .ifWord ∧
      Reads (⟨word, .expression⟩ :: ws) c d ∧ Spells (.expr e) (⟨word, .expression⟩ :: ws) ∧
      e.edge d.terminal = false
  block {c d : Cursor} {b : Block} (h : Runs (block n) c b d) :
    ∃ ws, Reads ws c d ∧ Spells (.block b) ws ∧ c.terminal = .lbrace
  items {c d : Cursor} {is : List Item} (h : Runs (items n) c is d) :
    ∃ ws, Reads ws c d ∧ Spells (.items is) ws
  letItem {c d : Cursor} {i : Item} (h : Runs (letItem n) c i d) :
    ∃ ws, Reads ws c d ∧ Spells (.letItem i) ws
  declared {c d : Cursor} {o : Option TypeExpr} (h : Runs ( annotation n) c o d) :
    ∃ ws, Reads ws c d ∧ SpellsDeclared o ws
  init {c d : Cursor} {o : Option Expr} (h : Runs (initializer n) c o d) :
    ∃ ws, Reads ws c d ∧ Spells (.init o) ws

theorem Sound.zero : Sound 0 where
  expr h := nomatch h
  upper h := nomatch h
  level h := nomatch h
  operand h := nomatch h
  levelRest h := nomatch h
  unary h := nomatch h
  prefixed h := nomatch h
  suffixes h := nomatch h
  arguments h := nomatch h
  primary h := nomatch h
  cond h := nomatch h
  block h := nomatch h
  items h := nomatch h
  letItem h := nomatch h
  declared h := nomatch h
  init h := nomatch h

namespace Sound

variable {n : Nat} (ih : Sound n) {c d : Cursor} {e : Expr}

include ih

theorem closure_step {isMove : Bool} {ws : List Lexeme} {c₀ : Cursor}
    (hm : SpellsMove isMove ws) (hws : Reads ws c₀ c)
    (h : Runs (do
      let params ← closureHead n
      let body ← Parser.expr n
      return Expr.closure isMove params body ⟨c₀.token.start, body.extent.stop⟩) c e d) :
    ∃ ws, Reads ws c₀ d ∧ Spells (.expr e) ws ∧ e.opens 0 d.terminal = false := by
  obtain ⟨ps, c₁, h₁, h⟩ := runs_bind.mp h
  obtain ⟨body, c₂, h₂, h⟩ := runs_bind.mp h
  obtain ⟨rfl, rfl⟩ := runs_pure.mp h
  obtain ⟨ws', hws', hps⟩ := closureHead_sound h₁
  obtain ⟨ws'', hws'', hb, ho⟩ := ih.expr h₂
  have hhead := hws.append hws'
  have hstart := startOf_eq hhead (List.append_ne_nil_of_right_ne_nil _ hps.ne_nil)
  refine ⟨_, hws.append (hws'.append hws''), ?_, Expr.opens_eq_false ho (Expr.loops_loosest _ _)⟩
  rw [← hstart]
  exact .closure hm hps hb

theorem range_step {dots : Token} {c₀ : Cursor} {lower : Option Expr} {start : Position}
    {ws : List Lexeme} (hws : Reads ws c₀ c)
    (hall : Spells (.expr (.range lower none ⟨start, dots.stop⟩)) ws)
    (hupper : ∀ {u ws'}, Spells (.expr u) ws' → 1 ≤ u.rank →
      Spells (.expr (.range lower (some u) ⟨start, u.extent.stop⟩)) (ws ++ ws'))
    (h : Runs (upperBound n lower start dots.stop) c e d) :
    ∃ ws, Reads ws c₀ d ∧ Spells (.expr e) ws ∧ e.opens 0 d.terminal = false := by
  rcases ih.upper h with ⟨rfl, rfl, ho⟩ | ⟨u, ws', hws', hu, hr, ho, rfl⟩
  · exact ⟨ws, hws, hall, Expr.opens_eq_false ho (Expr.loops_loosest _ _)⟩
  · exact ⟨_, hws.append hws', hupper hu hr, Expr.opens_eq_false ho (Expr.loops_loosest _ _)⟩

theorem expr_succ (h : Runs (Parser.expr (n + 1)) c e d) :
    ∃ ws, Reads ws c d ∧ Spells (.expr e) ws ∧ e.opens 0 d.terminal = false := by
  rw [Parser.expr, runs_peek_bind] at h
  have closure (h : Runs (do
      let start ← place
      let params ← closureHead n
      let body ← Parser.expr n
      return Expr.closure false params body ⟨start, body.extent.stop⟩) c e d) :=
    ih.closure_step .none .nil (runs_place_bind.mp h)
  split at h
  · next hw =>
      obtain ⟨c₁, h₁, h⟩ := runs_shift_bind.mp h
      exact ih.closure_step (.some hw) (.one h₁) h
  · exact closure h
  · exact closure h
  · next hd =>
      obtain ⟨c₁, h₁, h⟩ := runs_shift_bind.mp h
      exact ih.range_step (.one h₁) (.rangeAll hd) (fun hu hr => .rangeTo hd hu hr) h
  · obtain ⟨lower, c₁, h₁, h⟩ := runs_bind.mp h
    obtain ⟨ws, hws, hl, hr, ho⟩ := ih.level h₁
    rw [runs_peek_bind] at h
    split at h
    · next hd =>
        obtain ⟨c₂, h₂, h⟩ := runs_shift_bind.mp h
        have hedge : lower.edge .dotDot = false := by
          rw [← hd]
          exact Expr.edge_of_opens ho
        refine ih.range_step (hws.append (.one h₂)) (.rangeFrom hd hl hr hedge) ?_ h
        intro u ws' hu hur
        rw [List.append_assoc]
        exact .range hd hl hr hedge hu hur
    · next hd =>
        obtain ⟨rfl, rfl⟩ := runs_pure.mp h
        exact ⟨ws, hws, hl, Expr.opens_zero ho hd⟩

theorem upper_succ {lower : Option Expr} {start stop : Position}
    (h : Runs (upperBound (n + 1) lower start stop) c e d) :
    (e = .range lower none ⟨start, stop⟩ ∧ c = d ∧ startsOperand d.terminal = false) ∨
      ∃ u ws, Reads ws c d ∧ Spells (.expr u) ws ∧ 1 ≤ u.rank ∧ u.opens 1 d.terminal = false ∧
        e = .range lower (some u) ⟨start, u.extent.stop⟩ := by
  rw [upperBound, runs_peek_bind] at h
  split at h
  · obtain ⟨u, c₁, h₁, h⟩ := runs_bind.mp h
    obtain ⟨rfl, rfl⟩ := runs_pure.mp h
    obtain ⟨ws, hws, hu, hr, ho⟩ := ih.level h₁
    exact .inr ⟨u, ws, hws, hu, hr, ho, rfl⟩
  · next hs =>
      obtain ⟨rfl, rfl⟩ := runs_pure.mp h
      exact .inl ⟨rfl, rfl, Bool.eq_false_iff.mpr hs⟩

theorem level_succ {l : Level} (h : Runs (Parser.level (n + 1) l) c e d) :
    ∃ ws, Reads ws c d ∧ Spells (.expr e) ws ∧ l.rank ≤ e.rank ∧
      e.opens l.rank d.terminal = false := by
  rw [Parser.level] at h
  obtain ⟨left, c₁, h₁, h⟩ := runs_bind.mp h
  obtain ⟨ws, hws, hl, hr, ho⟩ := ih.operand h₁
  obtain ⟨ws', hws', he, hre, hoe⟩ := ih.levelRest h hl (.inl hr) ho
  exact ⟨_, hws.append hws', he, hre, hoe⟩

theorem operand_succ {l : Level} (h : Runs (Parser.operand (n + 1) l) c e d) :
    ∃ ws, Reads ws c d ∧ Spells (.expr e) ws ∧ l.rank < e.rank ∧
      e.opens (l.rank + 1) d.terminal = false := by
  rw [Parser.operand] at h
  cases l with
  | product => exact ih.unary h
  | disjunction | conjunction | comparison | sum => exact ih.level h

theorem levelRest_succ {l : Level} {left : Expr} {ws : List Lexeme}
    (h : Runs (Parser.levelRest (n + 1) l left) c e d) (hl : Spells (.expr left) ws)
    (hr : l.rank < left.rank ∨ l.rank = left.rank ∧ l.chains = true)
    (ho : left.opens (l.rank + 1) c.terminal = false) :
    ∃ ws', Reads ws' c d ∧ Spells (.expr e) (ws ++ ws') ∧ l.rank ≤ e.rank ∧
      e.opens l.rank d.terminal = false := by
  rw [Parser.levelRest, runs_peek_bind] at h
  split at h
  · next hnone =>
      obtain ⟨rfl, rfl⟩ := runs_pure.mp h
      refine ⟨[], .nil, by rwa [List.append_nil], by omega, Expr.opens_level ho fun _ => ?_⟩
      rw [Level.takes, hnone]
      rfl
  · next op hop =>
      obtain ⟨c₁, h₁, h⟩ := runs_shift_bind.mp h
      obtain ⟨right, c₂, h₂, h⟩ := runs_bind.mp h
      obtain ⟨ws', hws', hright, hrr, hor⟩ := ih.operand h₂
      cases Level.level_of_operator hop
      have hwhole := Spells.binary hop hl hr (Expr.edge_of_opens ho) hright hrr
      have hopens {t : Terminal} (ht : right.opens (op.level.rank + 1) t = false) :
          (Expr.binary op left right ⟨left.extent.start, right.extent.stop⟩).opens
            (op.level.rank + 1) t = false :=
        Expr.opens_eq_false ht (Expr.loops_tighter t (Nat.lt_succ_self _)
          (by cases op <;> simp [Expr.rank, BinaryOp.level, Level.rank]))
      have hreads := Reads.cons h₁ hws'
      simp only at h
      split at h
      · next hchains =>
          obtain ⟨ws'', hws'', he, hre, hoe⟩ := ih.levelRest h hwhole (.inr ⟨rfl, hchains⟩)
            (hopens hor)
          refine ⟨_, hreads.append hws'', ?_, hre, hoe⟩
          rwa [← List.append_assoc]
      · next hchains =>
          obtain ⟨rfl, rfl⟩ := runs_pure.mp h
          refine ⟨_, hreads, hwhole, Nat.le_refl _, Expr.opens_level (hopens hor) ?_⟩
          rintro (hlt | ⟨-, hc⟩)
          · exact absurd hlt (Nat.lt_irrefl _)
          · exact absurd hc hchains

theorem prefixed_step {op : UnaryOp} {first : Token} {ws : List Lexeme} {c₀ : Cursor}
    (hop : SpellsPrefix op ws) (hws : Reads ws c₀ c) (hf : first = c₀.token)
    (h : Runs (Parser.prefixed n op first) c e d) :
    ∃ ws, Reads ws c₀ d ∧ Spells (.expr e) ws ∧ 6 ≤ e.rank ∧ e.opens 6 d.terminal = false := by
  obtain ⟨u, ws', hws', hu, hr, ho, rfl⟩ := ih.prefixed h
  have hstart := startOf_eq hws (by cases hop <;> simp)
  refine ⟨_, hws.append hws', ?_, Nat.le_refl _, Expr.opens_eq_false ho (Expr.loops_prefix _)⟩
  rw [hf, ← hstart]
  exact .unary hop hu hr

theorem unary_succ (h : Runs (Parser.unary (n + 1)) c e d) :
    ∃ ws, Reads ws c d ∧ Spells (.expr e) ws ∧ 6 ≤ e.rank ∧ e.opens 6 d.terminal = false := by
  rw [Parser.unary, runs_peek_bind] at h
  split at h
  · next ht =>
      obtain ⟨c₁, h₁, h⟩ := runs_shift_bind.mp h
      exact ih.prefixed_step (.neg ht) (.one h₁) rfl h
  · next ht =>
      obtain ⟨c₁, h₁, h⟩ := runs_shift_bind.mp h
      exact ih.prefixed_step (.not ht) (.one h₁) rfl h
  · next ht =>
      obtain ⟨c₁, h₁, h⟩ := runs_shift_bind.mp h
      exact ih.prefixed_step (.deref ht) (.one h₁) rfl h
  · next ht =>
      obtain ⟨c₁, h₁, h⟩ := runs_shift_bind.mp h
      rw [runs_peek_bind] at h
      split at h
      · next hm =>
          obtain ⟨c₂, h₂, h⟩ := runs_shift_bind.mp h
          exact ih.prefixed_step (.refMut ht hm) (.cons h₁ (.one h₂)) rfl h
      · exact ih.prefixed_step (.ref ht) (.one h₁) rfl h
  · obtain ⟨base, c₁, h₁, h⟩ := runs_bind.mp h
    obtain ⟨ws, hws, hb, hr, ho⟩ := ih.primary h₁
    obtain ⟨ws', hws', he, hre, hoe, hs⟩ := ih.suffixes h hb hr ho
    refine ⟨_, hws.append hws', he, by omega, Expr.opens_eq_false hoe ?_⟩
    rw [hre]
    exact Expr.loops_suffix hs

theorem prefixed_succ {op : UnaryOp} {first : Token}
    (h : Runs (Parser.prefixed (n + 1) op first) c e d) :
    ∃ u ws, Reads ws c d ∧ Spells (.expr u) ws ∧ 6 ≤ u.rank ∧ u.opens 6 d.terminal = false ∧
      e = .unary op u ⟨first.start, u.extent.stop⟩ := by
  rw [Parser.prefixed] at h
  obtain ⟨u, c₁, h₁, h⟩ := runs_bind.mp h
  obtain ⟨rfl, rfl⟩ := runs_pure.mp h
  obtain ⟨ws, hws, hu, hr, ho⟩ := ih.unary h₁
  exact ⟨u, ws, hws, hu, hr, ho, rfl⟩

theorem suffix_step {whole : Expr} {ws ws' : List Lexeme} {c₀ : Cursor}
    (h : Runs (Parser.suffixes n whole) c e d) (hws : Reads ws' c₀ c)
    (hw : Spells (.expr whole) (ws ++ ws')) (hr : whole.rank = 7)
    (ho : whole.edge c.terminal = false) :
    ∃ ws', Reads ws' c₀ d ∧ Spells (.expr e) (ws ++ ws') ∧ e.rank = 7 ∧
      e.edge d.terminal = false ∧ d.terminal.opensSuffix = false := by
  obtain ⟨ws'', hws'', he, hrest⟩ := ih.suffixes h hw hr ho
  refine ⟨_, hws.append hws'', ?_, hrest⟩
  rwa [← List.append_assoc]

theorem suffixes_succ {base : Expr} {ws : List Lexeme}
    (h : Runs (Parser.suffixes (n + 1) base) c e d) (hb : Spells (.expr base) ws)
    (hr : base.rank = 7) (ho : base.edge c.terminal = false) :
    ∃ ws', Reads ws' c d ∧ Spells (.expr e) (ws ++ ws') ∧ e.rank = 7 ∧
      e.edge d.terminal = false ∧ d.terminal.opensSuffix = false := by
  rw [Parser.suffixes, runs_peek_bind] at h
  split at h
  · next hd =>
      rw [hd] at ho
      obtain ⟨c₁, h₁, h⟩ := runs_shift_bind.mp h
      rw [runs_peek_bind] at h
      split at h
      · next hn =>
          obtain ⟨c₂, h₂, h⟩ := runs_shift_bind.mp h
          rw [runs_peek_bind] at h
          split at h
          · next hp =>
              obtain ⟨c₃, h₃, h⟩ := runs_shift_bind.mp h
              obtain ⟨⟨es, stop⟩, c₄, h₄, h⟩ := runs_bind.mp h
              obtain ⟨ws', hws', hes⟩ := ih.arguments h₄
              exact ih.suffix_step h (.cons h₁ (.cons h₂ (.cons h₃ hws')))
                (.methodCall hb hr ho hd hn hp hes) rfl rfl
          · next hp =>
              refine ih.suffix_step h (.cons h₁ (.one h₂)) (.field hb hr ho hd (.inl hn)) rfl ?_
              rw [Expr.edge, beq_eq_false_iff_ne.mpr hp, Bool.and_false]
      · next hn =>
          obtain ⟨hi, c₂, h₂, h⟩ := runs_expect_bind.mp h
          refine ih.suffix_step h (.cons h₁ (.one h₂)) (.field hb hr ho hd (.inr hi)) rfl ?_
          have hname : (c₁.token.terminal == .name) = false := beq_eq_false_iff_ne.mpr hn
          rw [Expr.edge, hname, Bool.false_and]
  · next hp =>
      rw [hp] at ho
      obtain ⟨c₁, h₁, h⟩ := runs_shift_bind.mp h
      obtain ⟨⟨es, stop⟩, c₂, h₂, h⟩ := runs_bind.mp h
      obtain ⟨ws', hws', hes⟩ := ih.arguments h₂
      exact ih.suffix_step h (.cons h₁ hws') (.call hb hr ho hp hes) rfl rfl
  · next hp =>
      rw [hp] at ho
      obtain ⟨c₁, h₁, h⟩ := runs_shift_bind.mp h
      obtain ⟨position, c₂, h₂, h⟩ := runs_bind.mp h
      obtain ⟨hc, c₃, h₃, h⟩ := runs_expect_bind.mp h
      obtain ⟨ws', hws', hpos, -⟩ := ih.expr h₂
      exact ih.suffix_step h (.cons h₁ (hws'.append (.one h₃))) (.index hb hr ho hp hpos hc) rfl rfl
  · next h₁ h₂ h₃ =>
      obtain ⟨rfl, rfl⟩ := runs_pure.mp h
      refine ⟨[], .nil, by rwa [List.append_nil], hr, ho, ?_⟩
      cases ht : c.terminal <;> first | rfl | contradiction

theorem arguments_succ {close : Terminal} {es : List Expr} {stop : Position}
    (h : Runs (Parser.arguments (n + 1) close) c (es, stop) d) :
    ∃ ws, Reads ws c d ∧ Spells (.args close es stop) ws := by
  rw [Parser.arguments, runs_peek_bind] at h
  split at h
  · next hc =>
      obtain ⟨c₁, h₁, h⟩ := runs_shift_bind.mp h
      obtain ⟨he, rfl⟩ := runs_pure.mp h
      cases he
      exact ⟨_, .one h₁, .argsNil hc⟩
  · obtain ⟨e, c₁, h₁, h⟩ := runs_bind.mp h
    obtain ⟨ws, hws, he, -⟩ := ih.expr h₁
    rw [runs_peek_bind] at h
    split at h
    · next hc =>
        obtain ⟨c₂, h₂, h⟩ := runs_shift_bind.mp h
        obtain ⟨⟨es', stop'⟩, c₃, h₃, h⟩ := runs_bind.mp h
        obtain ⟨heq, rfl⟩ := runs_pure.mp h
        cases heq
        obtain ⟨ws', hws', hes⟩ := ih.arguments h₃
        exact ⟨_, hws.append (.cons h₂ hws'), .argsCons he hc hes⟩
    · obtain ⟨hc, c₂, h₂, h⟩ := runs_expect_bind.mp h
      obtain ⟨heq, rfl⟩ := runs_pure.mp h
      cases heq
      exact ⟨_, hws.append (.one h₂), .argsLast he hc⟩

theorem block_after {k : Nat} {test : Expr} {b : Block} (ho : test.opens k c.terminal = false)
    (h : Runs (Parser.block n) c b d) :
    ∃ ws, Reads ws c d ∧ Spells (.block b) ws ∧ test.edge .lbrace = false := by
  obtain ⟨ws, hws, hb, hc⟩ := ih.block h
  rw [hc] at ho
  exact ⟨ws, hws, hb, Expr.edge_of_opens ho⟩

theorem cond_succ (h : Runs (Parser.cond (n + 1)) c e d) :
    ∃ test yes no x word ws, e = .cond test yes no x ∧ word.terminal = .ifWord ∧
      Reads (⟨word, .expression⟩ :: ws) c d ∧ Spells (.expr e) (⟨word, .expression⟩ :: ws) ∧
      e.edge d.terminal = false := by
  rw [Parser.cond] at h
  obtain ⟨hw, c₁, h₁, h⟩ := runs_expect_bind.mp h
  obtain ⟨test, c₂, h₂, h⟩ := runs_bind.mp h
  obtain ⟨yes, c₃, h₃, h⟩ := runs_bind.mp h
  obtain ⟨ws, hws, htest, ho⟩ := ih.expr h₂
  obtain ⟨ws', hws', hyes, hedge⟩ := ih.block_after ho h₃
  rw [runs_peek_bind] at h
  split at h
  · next helse =>
      obtain ⟨c₄, h₄, h⟩ := runs_shift_bind.mp h
      rw [runs_peek_bind] at h
      split at h
      · obtain ⟨no, c₅, h₅, h⟩ := runs_bind.mp h
        obtain ⟨rfl, rfl⟩ := runs_pure.mp h
        obtain ⟨test', yes', no', x, word', ws'', rfl, hw', hws'', hno, hon⟩ := ih.cond h₅
        exact ⟨_, _, _, _, _, _, rfl, hw, .cons h₁ (hws.append (hws'.append (.cons h₄ hws''))),
          .condElseIf hw htest hedge hyes helse hw' hno, hon⟩
      · obtain ⟨no, c₅, h₅, h⟩ := runs_bind.mp h
        obtain ⟨rfl, rfl⟩ := runs_pure.mp h
        obtain ⟨ws'', hws'', hno, -⟩ := ih.block h₅
        exact ⟨_, _, _, _, _, _, rfl, hw, .cons h₁ (hws.append (hws'.append (.cons h₄ hws''))),
          .condElse hw htest hedge hyes helse hno, rfl⟩
  · next helse =>
      obtain ⟨rfl, rfl⟩ := runs_pure.mp h
      exact ⟨_, _, _, _, _, _, rfl, hw, .cons h₁ (hws.append hws'), .cond hw htest hedge hyes,
        beq_eq_false_iff_ne.mpr helse⟩

theorem primary_succ (h : Runs (Parser.primary (n + 1)) c e d) :
    ∃ ws, Reads ws c d ∧ Spells (.expr e) ws ∧ e.rank = 7 ∧ e.edge d.terminal = false := by
  rw [Parser.primary, runs_peek_bind] at h
  split at h
  · next ht =>
      obtain ⟨c₁, h₁, h⟩ := runs_shift_bind.mp h
      obtain ⟨rfl, rfl⟩ := runs_pure.mp h
      exact ⟨_, .one h₁, .int ht, rfl, rfl⟩
  · next ht =>
      obtain ⟨c₁, h₁, h⟩ := runs_shift_bind.mp h
      obtain ⟨rfl, rfl⟩ := runs_pure.mp h
      exact ⟨_, .one h₁, .float ht, rfl, rfl⟩
  · next ht =>
      obtain ⟨c₁, h₁, h⟩ := runs_shift_bind.mp h
      obtain ⟨rfl, rfl⟩ := runs_pure.mp h
      exact ⟨_, .one h₁, .string ht, rfl, rfl⟩
  · next ht =>
      obtain ⟨c₁, h₁, h⟩ := runs_shift_bind.mp h
      obtain ⟨rfl, rfl⟩ := runs_pure.mp h
      exact ⟨_, .one h₁, .true ht, rfl, rfl⟩
  · next ht =>
      obtain ⟨c₁, h₁, h⟩ := runs_shift_bind.mp h
      obtain ⟨rfl, rfl⟩ := runs_pure.mp h
      exact ⟨_, .one h₁, .false ht, rfl, rfl⟩
  · next ht =>
      obtain ⟨c₁, h₁, h⟩ := runs_shift_bind.mp h
      rw [runs_peek_bind] at h
      split at h
      · next hb =>
          obtain ⟨c₂, h₂, h⟩ := runs_shift_bind.mp h
          rw [runs_peek_bind] at h
          split at h
          · next ho =>
              obtain ⟨c₃, h₃, h⟩ := runs_shift_bind.mp h
              obtain ⟨⟨es, stop⟩, c₄, h₄, h⟩ := runs_bind.mp h
              obtain ⟨rfl, rfl⟩ := runs_pure.mp h
              obtain ⟨ws, hws, hes⟩ := ih.arguments h₄
              exact ⟨_, .cons h₁ (.cons h₂ (.cons h₃ hws)), .bracketMacro ht hb ho hes, rfl, rfl⟩
          · obtain ⟨ho, c₃, h₃, h⟩ := runs_expect_bind.mp h
            obtain ⟨⟨es, stop⟩, c₄, h₄, h⟩ := runs_bind.mp h
            obtain ⟨rfl, rfl⟩ := runs_pure.mp h
            obtain ⟨ws, hws, hes⟩ := ih.arguments h₄
            exact ⟨_, .cons h₁ (.cons h₂ (.cons h₃ hws)), .macroCall ht hb ho hes, rfl, rfl⟩
      · next hb =>
          obtain ⟨ts, c₂, h₂, h⟩ := runs_bind.mp h
          obtain ⟨rfl, rfl⟩ := runs_pure.mp h
          obtain ⟨ws, hws, hts, hsep⟩ := segments_sound h₂
          refine ⟨_, .cons h₁ hws, .path ht hts, rfl, ?_⟩
          cases ts with
          | nil =>
              cases hts
              cases hws
              rw [Expr.edge, beq_eq_false_iff_ne.mpr hsep, beq_eq_false_iff_ne.mpr hb]
              rfl
          | cons t ts =>
              rw [Expr.edge, beq_eq_false_iff_ne.mpr hsep]
              intro t' ht'
              cases ht'
  · next ho =>
      obtain ⟨c₁, h₁, h⟩ := runs_shift_bind.mp h
      obtain ⟨inner, c₂, h₂, h⟩ := runs_bind.mp h
      obtain ⟨ws, hws, hinner, -⟩ := ih.expr h₂
      rw [runs_peek_bind] at h
      split at h
      · next hc =>
          obtain ⟨c₃, h₃, h⟩ := runs_shift_bind.mp h
          obtain ⟨⟨es, stop⟩, c₄, h₄, h⟩ := runs_bind.mp h
          obtain ⟨rfl, rfl⟩ := runs_pure.mp h
          obtain ⟨ws', hws', hes⟩ := ih.arguments h₄
          exact ⟨_, .cons h₁ (hws.append (.cons h₃ hws')), .tuple ho hinner hc hes, rfl, rfl⟩
      · obtain ⟨hc, c₃, h₃, h⟩ := runs_expect_bind.mp h
        obtain ⟨rfl, rfl⟩ := runs_pure.mp h
        exact ⟨_, .cons h₁ (hws.append (.one h₃)), .paren ho hinner hc, rfl, rfl⟩
  · next ho =>
      obtain ⟨c₁, h₁, h⟩ := runs_shift_bind.mp h
      obtain ⟨⟨es, stop⟩, c₂, h₂, h⟩ := runs_bind.mp h
      obtain ⟨rfl, rfl⟩ := runs_pure.mp h
      obtain ⟨ws, hws, hes⟩ := ih.arguments h₂
      exact ⟨_, .cons h₁ hws, .array ho hes, rfl, rfl⟩
  · obtain ⟨b, c₁, h₁, h⟩ := runs_bind.mp h
    obtain ⟨rfl, rfl⟩ := runs_pure.mp h
    obtain ⟨ws, hws, hb, -⟩ := ih.block h₁
    exact ⟨ws, hws, .block hb, rfl, rfl⟩
  · obtain ⟨test, yes, no, x, word, ws, rfl, -, hws, he, ho⟩ := ih.cond h
    exact ⟨_, hws, he, rfl, ho⟩
  · next hw =>
      obtain ⟨c₁, h₁, h⟩ := runs_shift_bind.mp h
      obtain ⟨test, c₂, h₂, h⟩ := runs_bind.mp h
      obtain ⟨body, c₃, h₃, h⟩ := runs_bind.mp h
      obtain ⟨rfl, rfl⟩ := runs_pure.mp h
      obtain ⟨ws, hws, htest, ho⟩ := ih.expr h₂
      obtain ⟨ws', hws', hbody, hedge⟩ := ih.block_after ho h₃
      exact ⟨_, .cons h₁ (hws.append hws'), .whileLoop hw htest hedge hbody, rfl, rfl⟩
  · next hw =>
      obtain ⟨c₁, h₁, h⟩ := runs_shift_bind.mp h
      obtain ⟨body, c₂, h₂, h⟩ := runs_bind.mp h
      obtain ⟨rfl, rfl⟩ := runs_pure.mp h
      obtain ⟨ws, hws, hbody, -⟩ := ih.block h₂
      exact ⟨_, .cons h₁ hws, .loop hw hbody, rfl, rfl⟩
  · next hw =>
      obtain ⟨c₁, h₁, h⟩ := runs_shift_bind.mp h
      obtain ⟨p, c₂, h₂, h⟩ := runs_bind.mp h
      obtain ⟨hi, c₃, h₃, h⟩ := runs_expect_bind.mp h
      obtain ⟨iterable, c₄, h₄, h⟩ := runs_bind.mp h
      obtain ⟨body, c₅, h₅, h⟩ := runs_bind.mp h
      obtain ⟨rfl, rfl⟩ := runs_pure.mp h
      obtain ⟨ws, hws, hp⟩ := (PatSound.all n).one h₂
      obtain ⟨ws', hws', hiter, ho⟩ := ih.expr h₄
      obtain ⟨ws'', hws'', hbody, hedge⟩ := ih.block_after ho h₅
      exact ⟨_, .cons h₁ (hws.append (.cons h₃ (hws'.append hws''))),
        .forLoop hw hp hi hiter hedge hbody, rfl, rfl⟩
  · next hw =>
      obtain ⟨c₁, h₁, h⟩ := runs_shift_bind.mp h
      rw [runs_peek_bind] at h
      split at h
      · obtain ⟨value, c₂, h₂, h⟩ := runs_bind.mp h
        obtain ⟨rfl, rfl⟩ := runs_pure.mp h
        obtain ⟨ws, hws, hv, ho⟩ := ih.expr h₂
        exact ⟨_, .cons h₁ hws, .ret hw hv, rfl, ho⟩
      · next hs =>
          obtain ⟨rfl, rfl⟩ := runs_pure.mp h
          exact ⟨_, .one h₁, .retNone hw, rfl, Bool.eq_false_iff.mpr hs⟩
  · next hw =>
      obtain ⟨c₁, h₁, h⟩ := runs_shift_bind.mp h
      obtain ⟨rfl, rfl⟩ := runs_pure.mp h
      exact ⟨_, .one h₁, .brk hw, rfl, rfl⟩
  · next hw =>
      obtain ⟨c₁, h₁, h⟩ := runs_shift_bind.mp h
      obtain ⟨rfl, rfl⟩ := runs_pure.mp h
      exact ⟨_, .one h₁, .cont hw, rfl, rfl⟩
  · exact absurd h not_runs_fail

theorem block_succ {b : Block} (h : Runs (Parser.block (n + 1)) c b d) :
    ∃ ws, Reads ws c d ∧ Spells (.block b) ws ∧ c.terminal = .lbrace := by
  rw [Parser.block] at h
  obtain ⟨ho, c₁, h₁, h⟩ := runs_expect_bind.mp h
  obtain ⟨is, c₂, h₂, h⟩ := runs_bind.mp h
  obtain ⟨hc, c₃, h₃, h⟩ := runs_expect_bind.mp h
  obtain ⟨rfl, rfl⟩ := runs_pure.mp h
  obtain ⟨ws, hws, his⟩ := ih.items h₂
  exact ⟨_, .cons h₁ (hws.append (.one h₃)), .mkBlock ho his hc, ho⟩

theorem items_succ {is : List Item} (h : Runs (Parser.items (n + 1)) c is d) :
    ∃ ws, Reads ws c d ∧ Spells (.items is) ws := by
  rw [Parser.items, runs_peek_bind] at h
  split at h
  · next hs =>
      obtain ⟨c₁, h₁, h⟩ := runs_shift_bind.mp h
      obtain ⟨is', c₂, h₂, h⟩ := runs_bind.mp h
      obtain ⟨rfl, rfl⟩ := runs_pure.mp h
      obtain ⟨ws, hws, his⟩ := ih.items h₂
      exact ⟨_, .cons h₁ hws, .itemsEmpty hs his⟩
  · obtain ⟨i, c₁, h₁, h⟩ := runs_bind.mp h
    obtain ⟨is', c₂, h₂, h⟩ := runs_bind.mp h
    obtain ⟨rfl, rfl⟩ := runs_pure.mp h
    obtain ⟨ws, hws, hi⟩ := ih.letItem h₁
    obtain ⟨ws', hws', his⟩ := ih.items h₂
    exact ⟨_, hws.append hws', .itemsLet hi his⟩
  · split at h
    · obtain ⟨e, c₁, h₁, h⟩ := runs_bind.mp h
      obtain ⟨ws, hws, he, ho⟩ := ih.expr h₁
      rw [runs_peek_bind] at h
      split at h
      · next hs =>
          obtain ⟨c₂, h₂, h⟩ := runs_shift_bind.mp h
          obtain ⟨is', c₃, h₃, h⟩ := runs_bind.mp h
          obtain ⟨rfl, rfl⟩ := runs_pure.mp h
          obtain ⟨ws', hws', his⟩ := ih.items h₃
          exact ⟨_, hws.append (.cons h₂ hws'), .itemsSemi he hs his⟩
      · next hs =>
          obtain ⟨is', c₂, h₂, h⟩ := runs_bind.mp h
          obtain ⟨rfl, rfl⟩ := runs_pure.mp h
          obtain ⟨ws', hws', his⟩ := ih.items h₂
          refine ⟨_, hws.append hws', .itemsExpr he (fun w hw => ?_) his⟩
          cases ws' with
          | nil => cases hw
          | cons w' ws' =>
              cases hw
              rw [← hws'.terminal_head]
              exact ⟨ho, hs⟩
    · obtain ⟨rfl, rfl⟩ := runs_pure.mp h
      exact ⟨[], .nil, .itemsNil⟩

theorem letItem_succ {i : Item} (h : Runs (Parser.letItem (n + 1)) c i d) :
    ∃ ws, Reads ws c d ∧ Spells (.letItem i) ws := by
  rw [Parser.letItem] at h
  obtain ⟨hw, c₁, h₁, h⟩ := runs_expect_bind.mp h
  obtain ⟨p, c₂, h₂, h⟩ := runs_bind.mp h
  obtain ⟨declared, c₃, h₃, h⟩ := runs_bind.mp h
  obtain ⟨value, c₄, h₄, h⟩ := runs_bind.mp h
  obtain ⟨hs, c₅, h₅, h⟩ := runs_expect_bind.mp h
  obtain ⟨rfl, rfl⟩ := runs_pure.mp h
  obtain ⟨ws, hws, hp⟩ := (PatSound.all n).one h₂
  obtain ⟨ws', hws', hd⟩ := ih.declared h₃
  obtain ⟨ws'', hws'', hv⟩ := ih.init h₄
  exact ⟨_, .cons h₁ (hws.append (hws'.append (hws''.append (.one h₅)))), .letItem hw hp hd hv hs⟩

theorem init_succ {o : Option Expr} (h : Runs (initializer (n + 1)) c o d) :
    ∃ ws, Reads ws c d ∧ Spells (.init o) ws := by
  rw [initializer, runs_peek_bind] at h
  split at h
  · next hq =>
      obtain ⟨c₁, h₁, h⟩ := runs_shift_bind.mp h
      obtain ⟨e, c₂, h₂, h⟩ := runs_bind.mp h
      obtain ⟨rfl, rfl⟩ := runs_pure.mp h
      obtain ⟨ws, hws, he, -⟩ := ih.expr h₂
      exact ⟨_, .cons h₁ hws, .init hq he⟩
  · obtain ⟨rfl, rfl⟩ := runs_pure.mp h
    exact ⟨[], .nil, .initNone⟩

end Sound

theorem annotation_sound {n : Nat} {c d : Cursor} {o : Option TypeExpr}
    (h : Runs ( annotation n) c o d) : ∃ ws, Reads ws c d ∧ SpellsDeclared o ws := by
  cases n with
  | zero => cases h
  | succ n =>
      rw [ annotation, runs_peek_bind] at h
      split at h
      · next hc =>
          obtain ⟨c₁, h₁, h⟩ := runs_shift_bind.mp h
          obtain ⟨u, c₂, h₂, h⟩ := runs_bind.mp h
          obtain ⟨rfl, rfl⟩ := runs_pure.mp h
          obtain ⟨ws, hws, hu⟩ := (TypeSound.all n).one h₂
          exact ⟨_, .cons h₁ hws, .some hc hu⟩
      · obtain ⟨rfl, rfl⟩ := runs_pure.mp h
        exact ⟨[], .nil, .none⟩

theorem Sound.all (n : Nat) : Sound n := by
  induction n with
  | zero => exact .zero
  | succ n ih =>
      exact {
        expr := ih.expr_succ
        upper := ih.upper_succ
        level := ih.level_succ
        operand := ih.operand_succ
        levelRest := ih.levelRest_succ
        unary := ih.unary_succ
        prefixed := ih.prefixed_succ
        suffixes := ih.suffixes_succ
        arguments := ih.arguments_succ
        primary := ih.primary_succ
        cond := ih.cond_succ
        block := ih.block_succ
        items := ih.items_succ
        letItem := ih.letItem_succ
        declared := annotation_sound
        init := ih.init_succ }

theorem param_sound {n : Nat} {c d : Cursor} {p : Param} (h : Runs (param n) c p d) :
    ∃ ws, Reads ws c d ∧ SpellsParam p ws ∧ p.declared.isSome = true := by
  rw [param] at h
  obtain ⟨q, c₁, h₁, h⟩ := runs_bind.mp h
  obtain ⟨hc, c₂, h₂, h⟩ := runs_expect_bind.mp h
  obtain ⟨u, c₃, h₃, h⟩ := runs_bind.mp h
  obtain ⟨rfl, rfl⟩ := runs_pure.mp h
  obtain ⟨ws, hws, hq⟩ := (PatSound.all n).one h₁
  obtain ⟨ws', hws', hu⟩ := (TypeSound.all n).one h₃
  exact ⟨_, hws.append (.cons h₂ hws'), .mk hq (.some hc hu), rfl⟩

theorem params_sound {n : Nat} {c d : Cursor} {ps : List Param} (h : Runs (params n) c ps d) :
    ∃ ws, Reads ws c d ∧ SpellsParams ps ws := by
  induction n generalizing c ps with
  | zero => cases h
  | succ n ih =>
      rw [params, runs_peek_bind] at h
      split at h
      · next hc =>
          obtain ⟨c₁, h₁, h⟩ := runs_shift_bind.mp h
          obtain ⟨rfl, rfl⟩ := runs_pure.mp h
          exact ⟨_, .one h₁, .nil hc⟩
      · obtain ⟨p, c₁, h₁, h⟩ := runs_bind.mp h
        obtain ⟨ws, hws, hp, hd⟩ := param_sound h₁
        rw [runs_peek_bind] at h
        split at h
        · next hc =>
            obtain ⟨c₂, h₂, h⟩ := runs_shift_bind.mp h
            obtain ⟨ps', c₃, h₃, h⟩ := runs_bind.mp h
            obtain ⟨rfl, rfl⟩ := runs_pure.mp h
            obtain ⟨ws', hws', hps⟩ := ih h₃
            exact ⟨_, hws.append (.cons h₂ hws'), .cons hp hd hc hps⟩
        · obtain ⟨hc, c₂, h₂, h⟩ := runs_expect_bind.mp h
          obtain ⟨rfl, rfl⟩ := runs_pure.mp h
          exact ⟨_, hws.append (.one h₂), .last hp hd hc⟩

theorem function_sound {n : Nat} {c d : Cursor} {f : Function} (h : Runs (function n) c f d) :
    ∃ ws, Reads ws c d ∧ SpellsFunction f ws := by
  rw [function] at h
  obtain ⟨hw, c₁, h₁, h⟩ := runs_expect_bind.mp h
  obtain ⟨hn, c₂, h₂, h⟩ := runs_expect_bind.mp h
  obtain ⟨ho, c₃, h₃, h⟩ := runs_expect_bind.mp h
  obtain ⟨ps, c₄, h₄, h⟩ := runs_bind.mp h
  obtain ⟨ws, hws, hps⟩ := params_sound h₄
  rw [runs_peek_bind] at h
  split at h
  · next ha =>
      obtain ⟨c₅, h₅, h⟩ := runs_shift_bind.mp h
      obtain ⟨u, c₆, h₆, h⟩ := runs_bind.mp h
      obtain ⟨_, _, hsome, h⟩ := runs_bind.mp h
      obtain ⟨rfl, rfl⟩ := runs_pure.mp hsome
      obtain ⟨body, c₇, h₇, h⟩ := runs_bind.mp h
      obtain ⟨rfl, rfl⟩ := runs_pure.mp h
      obtain ⟨ws', hws', hu⟩ := (TypeSound.all n).one h₆
      obtain ⟨ws'', hws'', hb, -⟩ := (Sound.all n).block h₇
      exact ⟨_, .cons h₁ (.cons h₂ (.cons h₃ (hws.append (.append (.cons h₅ hws') hws'')))),
        .mk hw hn ho hps (.some ha hu) hb⟩
  · obtain ⟨_, _, hnone, h⟩ := runs_bind.mp h
    obtain ⟨rfl, rfl⟩ := runs_pure.mp hnone
    obtain ⟨body, c₅, h₅, h⟩ := runs_bind.mp h
    obtain ⟨rfl, rfl⟩ := runs_pure.mp h
    obtain ⟨ws'', hws'', hb, -⟩ := (Sound.all n).block h₅
    exact ⟨_, .cons h₁ (.cons h₂ (.cons h₃ (hws.append (.append .nil hws'')))),
      .mk hw hn ho hps .none hb⟩

theorem functions_sound {n : Nat} {c d : Cursor} {fs : List Function}
    (h : Runs (functions n) c fs d) :
    ∃ ws, Reads ws c d ∧ SpellsFunctions fs ws ∧ d.terminal = .eof := by
  induction n generalizing c fs with
  | zero => cases h
  | succ n ih =>
      rw [functions, runs_peek_bind] at h
      split at h
      · next he =>
          obtain ⟨rfl, rfl⟩ := runs_pure.mp h
          exact ⟨[], .nil, .nil, he⟩
      · obtain ⟨f, c₁, h₁, h⟩ := runs_bind.mp h
        obtain ⟨fs', c₂, h₂, h⟩ := runs_bind.mp h
        obtain ⟨rfl, rfl⟩ := runs_pure.mp h
        obtain ⟨ws, hws, hf⟩ := function_sound h₁
        obtain ⟨ws', hws', hfs, he⟩ := ih h₂
        exact ⟨_, hws.append hws', .cons hf hfs, he⟩

theorem parse_eq_ok {text : List Char} {m : Module} {tokens : List Token} :
    parse text = .ok (m, tokens) ↔ ∃ c d, Cursor.ofText text = .ok c ∧
      Runs (functions (depthFor text.length)) c m.functions d ∧ tokens = d.past.reverse := by
  unfold parse
  cases hc : Cursor.ofText text with
  | error e =>
      constructor
      · intro h
        cases h
      · rintro ⟨c, d, h, -⟩
        cases h
  | ok c =>
      simp only [bind, Except.bind, Runs]
      cases hf : functions (depthFor text.length) c with
      | error e =>
          constructor
          · intro h
            cases h
          · rintro ⟨c', d, h, h', -⟩
            cases h
            rw [hf] at h'
            cases h'
      | ok r =>
          constructor
          · intro h
            cases h
            exact ⟨c, r.2, rfl, hf, rfl⟩
          · rintro ⟨c', d, h, h', rfl⟩
            cases h
            rw [hf] at h'
            cases h'
            rfl

end ChainLint.Surface
