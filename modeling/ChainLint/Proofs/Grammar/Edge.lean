import ChainLint.Surface.Parser

namespace ChainLint

def Level.rank : Level → Nat
  | .disjunction => 1
  | .conjunction => 2
  | .comparison => 3
  | .sum => 4
  | .product => 5

def Level.takes (l : Level) (t : Terminal) : Bool := (l.operator? t).isSome

def BinaryOp.level : BinaryOp → Level
  | .or => .disjunction
  | .and => .conjunction
  | .eq | .ne | .lt | .le | .gt | .ge => .comparison
  | .add | .sub => .sum
  | .mul | .div | .mod => .product

theorem Level.level_of_operator {l : Level} {t : Terminal} {op : BinaryOp}
    (h : l.operator? t = some op) : op.level = l := by
  cases l <;> cases t <;> cases h <;> rfl

theorem Level.level_of_takes {l : Level} {t : Terminal} (h : l.takes t = true) :
    ∃ op : BinaryOp, l.operator? t = some op ∧ op.level = l := by
  obtain ⟨op, hop⟩ := Option.isSome_iff_exists.mp h
  exact ⟨op, hop, level_of_operator hop⟩

theorem Level.operator_unique {l l' : Level} {t : Terminal} {op op' : BinaryOp}
    (h : l.operator? t = some op) (h' : l'.operator? t = some op') : op = op' := by
  cases t <;> cases l <;> cases h <;> cases l' <;> cases h' <;> rfl

theorem Level.eq_of_takes {l l' : Level} {t : Terminal} (h : l.takes t = true)
    (h' : l'.takes t = true) : l = l' := by
  obtain ⟨op, hop, hl⟩ := level_of_takes h
  obtain ⟨op', hop', hl'⟩ := level_of_takes h'
  rw [← hl, ← hl', operator_unique hop hop']

theorem Level.rank_injective {l l' : Level} (h : l.rank = l'.rank) : l = l' := by
  cases l <;> cases l' <;> first | rfl | cases h

namespace Terminal

def opensSuffix : Terminal → Bool
  | .dot | .lparen | .lbracket => true
  | _ => false

def closes : Terminal → Bool
  | .rparen | .rbracket | .rbrace | .comma | .semi => true
  | _ => false

end Terminal

namespace Surface

namespace Expr

/-- How tight an expression binds: as loosely as a range or a closure, as the operators of a level,
as a prefix operator, or as an operand with its suffixes. -/
def rank : Expr → Nat
  | .closure .. | .range .. => 0
  | .binary op .. => op.level.rank
  | .unary .. => 6
  | _ => 7

def loops (k r : Nat) (t : Terminal) : Bool :=
  (r == 7 && t.opensSuffix)
    || [Level.disjunction, .conjunction, .comparison, .sum, .product].any (fun l =>
        k ≤ l.rank && (l.rank < r || (l.rank == r && l.chains)) && l.takes t)
    || (k == 0 && 1 ≤ r && t == .dotDot)

end Expr

mutual

def Expr.edge (t : Terminal) : Expr → Bool
  | .path [_] _ => t == .pathSep || t == .bang
  | .path _ _ => t == .pathSep
  | .cond _ _ no _ => elseEdge t no
  | .ret none _ => Parser.startsExpr t
  | .ret (some value) _ => value.edge t || Expr.loops 0 value.rank t
  | .range _ none _ => Parser.startsOperand t
  | .range _ (some upper) _ => upper.edge t || Expr.loops 1 upper.rank t
  | .unary _ operand _ => operand.edge t || Expr.loops 6 operand.rank t
  | .binary op _ right _ => right.edge t || Expr.loops (op.level.rank + 1) right.rank t
  | .field _ name _ => name.terminal == .name && t == .lparen
  | .closure _ _ body _ => body.edge t || Expr.loops 0 body.rank t
  | _ => false

def elseEdge (t : Terminal) : Option Expr → Bool
  | none => t == .elseWord
  | some no => no.edge t

end

namespace Expr

def opens (k : Nat) (e : Expr) (t : Terminal) : Bool := e.edge t || loops k e.rank t

theorem edge_of_opens {k : Nat} {e : Expr} {t : Terminal} (h : e.opens k t = false) :
    e.edge t = false :=
  (Bool.or_eq_false_iff.mp h).1

theorem loops_of_opens {k : Nat} {e : Expr} {t : Terminal} (h : e.opens k t = false) :
    loops k e.rank t = false :=
  (Bool.or_eq_false_iff.mp h).2

theorem opens_eq_false {k : Nat} {e : Expr} {t : Terminal} (h : e.edge t = false)
    (h' : loops k e.rank t = false) : e.opens k t = false :=
  Bool.or_eq_false_iff.mpr ⟨h, h'⟩

theorem loops_eq_false {k r : Nat} {t : Terminal} : loops k r t = false ↔
    (r = 7 → t.opensSuffix = false) ∧
      (∀ l : Level, k ≤ l.rank → (l.rank < r ∨ l.rank = r ∧ l.chains = true) → l.takes t = false) ∧
      (k = 0 → 1 ≤ r → t ≠ .dotDot) := by
  have hall (p : Level → Bool) :
      [Level.disjunction, .conjunction, .comparison, .sum, .product].any p = false ↔
        ∀ l, p l = false := by
    constructor
    · intro h l
      simp only [List.any_cons, List.any_nil, Bool.or_eq_false_iff] at h
      cases l <;> simp [h]
    · intro h
      simp [h]
  simp only [loops, Bool.or_eq_false_iff, hall]
  simp only [Bool.and_eq_false_iff, Bool.or_eq_false_iff, beq_eq_false_iff_ne, ne_eq,
    decide_eq_false_iff_not, Nat.not_le, Nat.not_lt]
  constructor
  · rintro ⟨⟨hs, hl⟩, hd⟩
    refine ⟨fun hr => hs.resolve_left (not_not_intro hr), fun l hk hr => ?_, fun hk hr => ?_⟩
    · rcases hl l with (h | ⟨h, h' | h'⟩) | h
      · omega
      · rcases hr with hr | ⟨hr, -⟩
        · omega
        · exact absurd hr h'
      · rcases hr with hr | ⟨-, hr⟩
        · omega
        · rw [hr] at h'
          cases h'
      · exact h
    · rcases hd with (h | h) | h
      · exact absurd hk h
      · omega
      · exact h
  · rintro ⟨hs, hl, hd⟩
    refine ⟨⟨?_, fun l => ?_⟩, ?_⟩
    · by_cases hr : r = 7
      · exact .inr (hs hr)
      · exact .inl hr
    · by_cases hk : k ≤ l.rank
      · by_cases hr : l.rank < r ∨ l.rank = r ∧ l.chains = true
        · exact .inr (hl l hk hr)
        · refine .inl (.inr ⟨by omega, ?_⟩)
          by_cases he : l.rank = r
          · exact .inr (by simpa [he] using hr)
          · exact .inl he
      · exact .inl (.inl (by omega))
    · by_cases hk : k = 0
      · by_cases hr : 1 ≤ r
        · exact .inr (hd hk hr)
        · exact .inl (.inr (by omega))
      · exact .inl (.inl hk)

theorem loops_loosest (k : Nat) (t : Terminal) : loops k 0 t = false := by
  refine loops_eq_false.mpr ⟨nofun, fun l _ hr => ?_, fun _ hr => ?_⟩
  · cases l <;> simp [Level.rank] at hr
  · cases hr

theorem loops_tighter {k r : Nat} (t : Terminal) (h : r < k) (hr : r ≠ 7) :
    loops k r t = false := by
  refine loops_eq_false.mpr ⟨fun he => absurd he hr, fun l hk hl => ?_, fun hk => ?_⟩
  · omega
  · omega

theorem loops_prefix (t : Terminal) : loops 6 6 t = false := by
  refine loops_eq_false.mpr ⟨nofun, fun l hk _ => ?_, nofun⟩
  cases l <;> simp [Level.rank] at hk

theorem loops_suffix {t : Terminal} (h : t.opensSuffix = false) : loops 6 7 t = false := by
  refine loops_eq_false.mpr ⟨fun _ => h, fun l hk _ => ?_, nofun⟩
  cases l <;> simp [Level.rank] at hk

theorem opens_level {l : Level} {e : Expr} {t : Terminal} (h : e.opens (l.rank + 1) t = false)
    (hl : l.rank < e.rank ∨ l.rank = e.rank ∧ l.chains = true → l.takes t = false) :
    e.opens l.rank t = false := by
  obtain ⟨hs, hlevels, -⟩ := loops_eq_false.mp (loops_of_opens h)
  refine opens_eq_false (edge_of_opens h) (loops_eq_false.mpr ⟨hs, fun l' hk hr => ?_, ?_⟩)
  · by_cases he : l.rank = l'.rank
    · cases Level.rank_injective he
      exact hl hr
    · exact hlevels l' (by omega) hr
  · intro hk
    cases l <;> cases hk

theorem opens_zero {e : Expr} {t : Terminal} (h : e.opens 1 t = false) (hd : t ≠ .dotDot) :
    e.opens 0 t = false := by
  obtain ⟨hs, hlevels, -⟩ := loops_eq_false.mp (loops_of_opens h)
  refine opens_eq_false (edge_of_opens h) (loops_eq_false.mpr ⟨hs, fun l _ => ?_, fun _ _ => hd⟩)
  exact hlevels l (by cases l <;> simp [Level.rank])

end Expr

end Surface

end ChainLint
