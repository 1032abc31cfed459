import ChainLint.Proofs.Grammar.Borders

namespace ChainLint.Surface

open Parser Cursor

theorem segments_complete {ts : List Token} {ws : List Lexeme} (h : SpellsSegments ts ws)
    {n : Nat} {c d : Cursor} (hws : Reads ws c d) (hd : d.terminal ≠ .pathSep)
    (hn : ws.length < n) : Runs (segments n) c ts d := by
  induction h generalizing n c with
  | nil =>
      cases hws
      obtain ⟨m, rfl⟩ : ∃ m, n = m + 1 := ⟨n - 1, by simp at hn; omega⟩
      rw [segments, runs_peek_bind]
      split
      · next h => exact absurd h hd
      · exact .done
  | @cons sep t ts ws hsep ht hts ih =>
      obtain ⟨rfl, c₁, h₁, rfl, c₂, h₂, hws⟩ := hws
      simp only [List.length_cons] at hn
      obtain ⟨m, rfl⟩ : ∃ m, n = m + 1 := ⟨n - 1, by omega⟩
      rw [segments, runs_peek_bind, terminal, hsep]
      exact .shift h₁ (.expect ht h₂ (.bind (ih hws (by omega)) .done))

theorem SpellsPat.head_ne {p : Pat} {ws : List Lexeme} (h : SpellsPat (.one p) ws) {c d : Cursor}
    (hws : Reads ws c d) : c.terminal ≠ .rparen ∧ c.terminal ≠ .bar := by
  cases h with
  | binding ht | mutBinding ht | wild ht | tuple ht =>
      rw [hws.terminal_head, Lexeme.terminal, ht]
      decide

def PatPhrase.Complete (ws : List Lexeme) : PatPhrase → Prop
  | .one p => ∀ {n : Nat} {c d : Cursor}, Reads ws c d → 2 * ws.length ≤ n → Runs (pattern n) c p d
  | .elems ps stop => ∀ {n : Nat} {c d : Cursor}, Reads ws c d → 2 * ws.length ≤ n →
      Runs (patternElems n) c (ps, stop) d

theorem SpellsPat.complete {p : PatPhrase} {ws : List Lexeme} (h : SpellsPat p ws) :
    p.Complete ws := by
  induction h with
  | binding ht =>
      rintro (_ | n) c d ⟨rfl, c₁, h₁, rfl⟩ hn
      · cases hn
      · rw [pattern, runs_peek_bind, terminal, ht]
        exact .shift h₁ .done
  | mutBinding hm ht =>
      rintro (_ | n) c d ⟨rfl, c₁, h₁, rfl, c₂, h₂, rfl⟩ hn
      · cases hn
      · rw [pattern, runs_peek_bind, terminal, hm]
        exact .shift h₁ (.expect ht h₂ .done)
  | wild ht =>
      rintro (_ | n) c d ⟨rfl, c₁, h₁, rfl⟩ hn
      · cases hn
      · rw [pattern, runs_peek_bind, terminal, ht]
        exact .shift h₁ .done
  | tuple ho hps ih =>
      rintro (_ | n) c d ⟨rfl, c₁, h₁, hws⟩ hn <;> simp only [List.length_cons] at hn
      · omega
      · rw [pattern, runs_peek_bind, terminal, ho]
        exact .shift h₁ (.bind (ih hws (by omega)) .done)
  | elemsNil hc =>
      rintro (_ | n) c d ⟨rfl, c₁, h₁, rfl⟩ hn
      · cases hn
      · rw [patternElems, runs_peek_bind, terminal, hc]
        exact .shift h₁ .done
  | elemsLast hp hc ih =>
      intro n c d hws hn
      simp only [List.length_append, List.length_cons, List.length_nil] at hn
      obtain ⟨c₁, hp', rfl, c₂, h₂, rfl⟩ := reads_append.mp hws
      obtain ⟨m, rfl⟩ : ∃ m, n = m + 1 := ⟨n - 1, by omega⟩
      rw [patternElems, runs_peek_bind]
      split
      · next h => exact absurd h (hp.head_ne hp').1
      · refine .bind (ih hp' (by omega)) ?_
        rw [runs_peek_bind, terminal, hc]
        exact .expect hc h₂ .done
  | elemsCons hp hc hps ih ihs =>
      intro n c d hws hn
      simp only [List.length_append, List.length_cons] at hn
      obtain ⟨c₁, hp', rfl, c₂, h₂, hps'⟩ := reads_append.mp hws
      obtain ⟨m, rfl⟩ : ∃ m, n = m + 1 := ⟨n - 1, by omega⟩
      rw [patternElems, runs_peek_bind]
      split
      · next h => exact absurd h (hp.head_ne hp').1
      · refine .bind (ih hp' (by omega)) ?_
        rw [runs_peek_bind, terminal, hc]
        exact .shift h₂ (.bind (ihs hps' (by omega)) .done)

def EndsType (t : Terminal) : Prop := t ≠ .pathSep ∧ t ≠ .less

instance : DecidablePred EndsType := fun t => inferInstanceAs (Decidable (t ≠ _ ∧ t ≠ _))

theorem endsType_of {t u : Terminal} (h : u = t) (ht : EndsType t := by decide) : EndsType u :=
  h ▸ ht

theorem SpellsType.head_ne {u : TypeExpr} {ws : List Lexeme} (h : SpellsType (.one u) ws)
    {c d : Cursor} (hws : Reads ws c d) : c.terminal ≠ .rparen ∧ c.terminal ≠ .mutWord := by
  cases h with
  | name ht | applied ht | ref ht | mutRef ht | slice ht | unit ht | tuple ht =>
      rw [hws.terminal_head, Lexeme.terminal, ht]
      decide

def TypePhrase.Complete (ws : List Lexeme) : TypePhrase → Prop
  | .one u => ∀ {n : Nat} {c d : Cursor}, Reads ws c d → EndsType d.terminal →
      2 * ws.length ≤ n → Runs (typeExpr n) c u d
  | .args us stop => ∀ {n : Nat} {c d : Cursor}, Reads ws c d → 2 * ws.length ≤ n →
      Runs (typeArgs n) c (us, stop) d
  | .elems us stop => ∀ {n : Nat} {c d : Cursor}, Reads ws c d → 2 * ws.length ≤ n →
      Runs (typeElems n) c (us, stop) d

theorem SpellsType.complete {p : TypePhrase} {ws : List Lexeme} (h : SpellsType p ws) :
    p.Complete ws := by
  induction h with
  | name ht hts =>
      rintro (_ | n) c d ⟨rfl, c₁, h₁, hws⟩ hd hn <;> simp only [List.length_cons] at hn
      · omega
      · rw [typeExpr, runs_peek_bind, terminal, ht]
        refine .shift h₁ (.bind (segments_complete hts hws hd.1 (by omega)) ?_)
        rw [runs_peek_bind]
        split
        · next h => exact absurd h hd.2
        · exact .done
  | applied ht hts hl hargs ih =>
      rintro (_ | n) c d ⟨rfl, c₁, h₁, hws⟩ hd hn <;>
        simp only [List.length_cons, List.length_append] at hn
      · omega
      · obtain ⟨c₂, hts', rfl, c₃, h₃, hargs'⟩ := reads_append.mp hws
        rw [typeExpr, runs_peek_bind, terminal, ht]
        refine .shift h₁ (.bind (segments_complete hts hts' ?_ (by omega)) ?_)
        · rw [terminal, hl]
          decide
        · rw [runs_peek_bind, terminal, hl]
          exact .shift h₃ (.bind (ih hargs' (by omega)) .done)
  | ref ha hu ih =>
      rintro (_ | n) c d ⟨rfl, c₁, h₁, hws⟩ hd hn <;> simp only [List.length_cons] at hn
      · omega
      · rw [typeExpr, runs_peek_bind, terminal, ha]
        refine .shift h₁ ?_
        rw [runs_peek_bind]
        split
        · next h => exact absurd h (hu.head_ne hws).2
        · exact .bind (ih hws hd (by omega)) .done
  | mutRef ha hm hu ih =>
      rintro (_ | n) c d ⟨rfl, c₁, h₁, rfl, c₂, h₂, hws⟩ hd hn <;>
        simp only [List.length_cons] at hn
      · omega
      · rw [typeExpr, runs_peek_bind, terminal, ha]
        refine .shift h₁ ?_
        rw [runs_peek_bind, terminal, hm]
        exact .shift h₂ (.bind (ih hws hd (by omega)) .done)
  | slice ho hu hc ih =>
      rintro (_ | n) c d ⟨rfl, c₁, h₁, hws⟩ hd hn <;>
        simp only [List.length_cons, List.length_append, List.length_nil] at hn
      · omega
      · obtain ⟨c₂, hu', rfl, c₃, h₃, rfl⟩ := reads_append.mp hws
        rw [typeExpr, runs_peek_bind, terminal, ho]
        exact .shift h₁ (.bind (ih hu' (endsType_of hc) (by omega)) (.expect hc h₃ .done))
  | unit ho hc =>
      rintro (_ | n) c d ⟨rfl, c₁, h₁, rfl, c₂, h₂, rfl⟩ hd hn
      · cases hn
      · rw [typeExpr, runs_peek_bind, terminal, ho]
        refine .shift h₁ ?_
        rw [runs_peek_bind, terminal, hc]
        exact .shift h₂ .done
  | tuple ho hu hc hus ih ihs =>
      rintro (_ | n) c d ⟨rfl, c₁, h₁, hws⟩ hd hn <;>
        simp only [List.length_cons, List.length_append] at hn
      · omega
      · obtain ⟨c₂, hu', rfl, c₃, h₃, hus'⟩ := reads_append.mp hws
        rw [typeExpr, runs_peek_bind, terminal, ho]
        refine .shift h₁ ?_
        rw [runs_peek_bind]
        split
        · next h => exact absurd h (hu.head_ne hu').1
        · refine .bind (ih hu' (endsType_of hc) (by omega)) (.expect hc h₃ ?_)
          exact .bind (ihs hus' (by omega)) .done
  | argsLast hu hc ih =>
      rintro (_ | n) c d hws hn <;>
        simp only [List.length_cons, List.length_append, List.length_nil] at hn
      · omega
      · obtain ⟨c₁, hu', rfl, c₂, h₂, rfl⟩ := reads_append.mp hws
        rw [typeArgs]
        refine .bind (ih hu' (endsType_of hc) (by omega)) ?_
        rw [runs_peek_bind, terminal, hc]
        exact .expect hc h₂ .done
  | argsCons hu hc hus ih ihs =>
      rintro (_ | n) c d hws hn <;> simp only [List.length_cons, List.length_append] at hn
      · omega
      · obtain ⟨c₁, hu', rfl, c₂, h₂, hus'⟩ := reads_append.mp hws
        rw [typeArgs]
        refine .bind (ih hu' (endsType_of hc) (by omega)) ?_
        rw [runs_peek_bind, terminal, hc]
        exact .shift h₂ (.bind (ihs hus' (by omega)) .done)
  | elemsNil hc =>
      rintro (_ | n) c d ⟨rfl, c₁, h₁, rfl⟩ hn
      · cases hn
      · rw [typeElems, runs_peek_bind, terminal, hc]
        exact .shift h₁ .done
  | elemsLast hu hc ih =>
      rintro (_ | n) c d hws hn <;>
        simp only [List.length_cons, List.length_append, List.length_nil] at hn
      · omega
      · obtain ⟨c₁, hu', rfl, c₂, h₂, rfl⟩ := reads_append.mp hws
        rw [typeElems, runs_peek_bind]
        split
        · next h => exact absurd h (hu.head_ne hu').1
        · refine .bind (ih hu' (endsType_of hc) (by omega)) ?_
          rw [runs_peek_bind, terminal, hc]
          exact .expect hc h₂ .done
  | elemsCons hu hc hus ih ihs =>
      rintro (_ | n) c d hws hn <;> simp only [List.length_cons, List.length_append] at hn
      · omega
      · obtain ⟨c₁, hu', rfl, c₂, h₂, hus'⟩ := reads_append.mp hws
        rw [typeElems, runs_peek_bind]
        split
        · next h => exact absurd h (hu.head_ne hu').1
        · refine .bind (ih hu' (endsType_of hc) (by omega)) ?_
          rw [runs_peek_bind, terminal, hc]
          exact .shift h₂ (.bind (ihs hus' (by omega)) .done)

theorem SpellsParam.complete_closure {p : Param} {ws : List Lexeme} (h : SpellsParam p ws)
    {n : Nat} {c d : Cursor} (hws : Reads ws c d) (hd : EndsType d.terminal)
    (hcolon : d.terminal ≠ .colon) (hn : 2 * ws.length ≤ n) : Runs (closureParam n) c p d := by
  cases h with
  | mk hp ho =>
      obtain ⟨c₁, hp', ho'⟩ := reads_append.mp hws
      rw [List.length_append] at hn
      refine .bind (hp.complete hp' (by omega)) ?_
      rw [runs_peek_bind]
      cases ho with
      | none =>
          cases ho'
          split
          · next h => exact absurd h hcolon
          · exact .done
      | some hc hu =>
          obtain ⟨rfl, c₂, h₂, hu'⟩ := ho'
          rw [List.length_cons] at hn
          rw [terminal, hc]
          exact .shift h₂ (.bind (hu.complete hu' hd (by omega)) .done)

theorem SpellsBars.complete {ps : List Param} {ws : List Lexeme} (h : SpellsBars ps ws)
    {n : Nat} {c d : Cursor} (hws : Reads ws c d) (hn : 2 * ws.length ≤ n) :
    Runs (closureParams n) c ps d := by
  induction h generalizing n c with
  | last hp hc =>
      simp only [List.length_append, List.length_cons, List.length_nil] at hn
      obtain ⟨m, rfl⟩ : ∃ m, n = m + 1 := ⟨n - 1, by omega⟩
      obtain ⟨c₁, hp', rfl, c₂, h₂, rfl⟩ := reads_append.mp hws
      rw [closureParams]
      refine .bind (hp.complete_closure hp' (endsType_of hc) ?_ (by omega)) ?_
      · rw [terminal, hc]
        decide
      · rw [runs_peek_bind, terminal, hc]
        exact .expect hc h₂ .done
  | cons hp hc hps ih =>
      simp only [List.length_append, List.length_cons] at hn
      obtain ⟨m, rfl⟩ : ∃ m, n = m + 1 := ⟨n - 1, by omega⟩
      obtain ⟨c₁, hp', rfl, c₂, h₂, hps'⟩ := reads_append.mp hws
      rw [closureParams]
      refine .bind (hp.complete_closure hp' (endsType_of hc) ?_ (by omega)) ?_
      · rw [terminal, hc]
        decide
      · rw [runs_peek_bind, terminal, hc]
        exact .shift h₂ (.bind (ih hps' (by omega)) .done)

theorem SpellsParam.head_ne {p : Param} {ws ws' : List Lexeme} (h : SpellsParam p ws)
    {c d : Cursor} (hws : Reads (ws ++ ws') c d) : c.terminal ≠ .rparen ∧ c.terminal ≠ .bar := by
  cases h with
  | mk hp ho =>
      rw [List.append_assoc] at hws
      obtain ⟨c₁, hp', -⟩ := reads_append.mp hws
      exact hp.head_ne hp'

theorem SpellsHead.complete {ps : List Param} {ws : List Lexeme} (h : SpellsHead ps ws)
    {n : Nat} {c d : Cursor} (hws : Reads ws c d) (hn : 2 * ws.length ≤ n) :
    Runs (closureHead n) c ps d := by
  cases h with
  | joined hb =>
      obtain ⟨rfl, c₁, h₁, rfl⟩ := hws
      rw [closureHead, runs_peek_bind, terminal, hb]
      exact .shift h₁ .done
  | empty ho hc =>
      obtain ⟨rfl, c₁, h₁, rfl, c₂, h₂, rfl⟩ := hws
      rw [closureHead, runs_peek_bind, terminal, ho]
      refine .expect ho h₁ ?_
      rw [runs_peek_bind, terminal, hc]
      exact .shift h₂ .done
  | params ho hps =>
      obtain ⟨rfl, c₁, h₁, hws⟩ := hws
      rw [List.length_cons] at hn
      rw [closureHead, runs_peek_bind, terminal, ho]
      refine .expect ho h₁ ?_
      rw [runs_peek_bind]
      split
      · next h =>
          cases hps with
          | last hp | cons hp => exact absurd h (hp.head_ne hws).2
      · exact hps.complete hws (by omega)

def Expr.isCond : Expr → Bool
  | .cond .. => true
  | _ => false

def readerAt (n : Nat) : Nat → Parser Expr
  | 0 => expr n
  | 1 => level n .disjunction
  | 2 => level n .conjunction
  | 3 => level n .comparison
  | 4 => level n .sum
  | 5 => level n .product
  | _ => unary n

theorem readerAt_level (n : Nat) (l : Level) : readerAt n l.rank = level n l := by
  cases l <;> rfl

theorem operand_succ (n : Nat) (l : Level) : operand (n + 1) l = readerAt n (l.rank + 1) := by
  cases l <;> rfl

/-- What the parsers do with the tokens of an expression. The loops over operators and suffixes do
not end with the expression: they go on from it. -/
structure Complete (e : Expr) (ws : List Lexeme) : Prop where
  runs {k n : Nat} {c d : Cursor} (hk : k ≤ e.rank) (hk' : k ≤ 6) (hws : Reads ws c d)
    (ho : e.opens k d.terminal = false) (hn : 16 * ws.length ≤ n + (2 * k - 1)) :
    Runs (readerAt n k) c e d
  goesOn {n : Nat} {c d : Cursor} (hr : e.rank = 7) (hws : Reads ws c d)
    (ho : e.edge d.terminal = false) (hn : 16 * ws.length ≤ n + 11) :
    ∃ m, n ≤ m + ws.length ∧ unary n c = suffixes m e d
  chains {l : Level} {n : Nat} {c d : Cursor}
    (hr : l.rank < e.rank ∨ l.rank = e.rank ∧ l.chains = true) (hws : Reads ws c d)
    (ho : e.opens (l.rank + 1) d.terminal = false) (hn : 16 * ws.length ≤ n + (2 * l.rank - 1)) :
    ∃ m, n ≤ m + ws.length ∧ level n l c = levelRest m l e d
  asPrimary {n : Nat} {c d : Cursor} (hc : e.isCond = true) (hws : Reads ws c d)
    (ho : e.edge d.terminal = false) (hn : 16 * ws.length ≤ n + 12) : Runs (primary n) c e d

theorem Expr.opens_mono {k k' : Nat} {e : Expr} {t : Terminal} (h : e.opens k t = false)
    (hk : k ≤ k') : e.opens k' t = false := by
  obtain ⟨hs, hl, hd⟩ := loops_eq_false.mp (loops_of_opens h)
  refine opens_eq_false (edge_of_opens h) (loops_eq_false.mpr ⟨hs, fun l hl' => ?_, fun hk' => ?_⟩)
  · exact hl l (Nat.le_trans hk hl')
  · exact hd (by omega)

theorem level_eq {n : Nat} {l : Level} {c d : Cursor} {e : Expr} (h : Runs (operand n l) c e d) :
    level (n + 1) l c = levelRest n l e d := by
  rw [level]
  exact bind_eq h

theorem levelRest_done {n : Nat} {l : Level} {d : Cursor} {e : Expr}
    (h : l.takes d.terminal = false) : Runs (levelRest (n + 1) l e) d e d := by
  have hnone : l.operator? d.terminal = none := by simpa [Level.takes] using h
  rw [levelRest, runs_peek_bind, hnone]
  exact .done

theorem suffixes_done {n : Nat} {d : Cursor} {e : Expr} (h : d.terminal.opensSuffix = false) :
    Runs (suffixes (n + 1) e) d e d := by
  rw [suffixes, runs_peek_bind]
  split
  · next ht => rw [ht] at h; cases h
  · next ht => rw [ht] at h; cases h
  · next ht => rw [ht] at h; cases h
  · exact .done

theorem expr_operand {n : Nat} {c : Cursor} (hc : c.terminal ∈ Terminal.operandStart) :
    expr (n + 1) c = (do
      let lower ← level n .disjunction
      match ← peek with
      | .dotDot =>
          let dots ← shift .afterOperand
          upperBound n (some lower) lower.extent.start dots.stop
      | _ => return lower) c := by
  rw [expr, peek_bind]
  generalize c.terminal = t at hc
  cases t <;> first | rfl | exact absurd hc (by decide)

theorem runs_looser {k n : Nat} {c d : Cursor} {e : Expr} (hk : k < e.rank) (hk' : k < 6)
    (hc : c.terminal ∈ Terminal.operandStart) (ho : e.opens k d.terminal = false)
    (h : ∀ {m}, n + (2 * k - 1) ≤ m + (2 * (k + 1) - 1) → Runs (readerAt m (k + 1)) c e d)
    (hn : 3 ≤ n) :
    Runs (readerAt n k) c e d := by
  by_cases hzero : k = 0
  · cases hzero
    obtain ⟨m, rfl⟩ : ∃ m, n = m + 1 := ⟨n - 1, by omega⟩
    have hlevel : Runs (level m .disjunction) c e d := h (by omega)
    change expr (m + 1) c = _
    rw [expr_operand hc]
    refine hlevel.bind ?_
    rw [runs_peek_bind]
    split
    · next ht =>
        exact absurd ht ((Expr.loops_eq_false.mp (Expr.loops_of_opens ho)).2.2 rfl (by omega))
    · exact .done
  · obtain ⟨l, rfl⟩ : ∃ l : Level, l.rank = k := by
      have : k = 1 ∨ k = 2 ∨ k = 3 ∨ k = 4 ∨ k = 5 := by omega
      rcases this with rfl | rfl | rfl | rfl | rfl
      · exact ⟨.disjunction, rfl⟩
      · exact ⟨.conjunction, rfl⟩
      · exact ⟨.comparison, rfl⟩
      · exact ⟨.sum, rfl⟩
      · exact ⟨.product, rfl⟩
    obtain ⟨m, rfl⟩ : ∃ m, n = m + 3 := ⟨n - 3, by omega⟩
    have hoperand : Runs (operand (m + 2) l) c e d := by
      rw [operand_succ]
      exact h (by omega)
    rw [readerAt_level]
    unfold Runs
    rw [level_eq hoperand]
    refine levelRest_done ?_
    exact (Expr.loops_eq_false.mp (Expr.loops_of_opens ho)).2.1 l (Nat.le_refl _) (.inl hk)

theorem Spells.length_pos {e : Expr} {ws : List Lexeme} (h : Spells (.expr e) ws) :
    0 < ws.length := by
  obtain ⟨w, ws', rfl, -⟩ := h.starts_expr
  simp

theorem Complete.of_top {e : Expr} {ws : List Lexeme} (hs : Spells (.expr e) ws)
    (top : ∀ {n c d}, Reads ws c d → e.opens (min e.rank 6) d.terminal = false →
      16 * ws.length ≤ n + (2 * min e.rank 6 - 1) → Runs (readerAt n (min e.rank 6)) c e d)
    (goesOn : ∀ {n c d}, e.rank = 7 → Reads ws c d → e.edge d.terminal = false →
      16 * ws.length ≤ n + 11 → ∃ m, n ≤ m + ws.length ∧ unary n c = suffixes m e d)
    (chains : ∀ {l : Level} {n c d}, l.rank = e.rank ∧ l.chains = true → Reads ws c d →
      e.opens (l.rank + 1) d.terminal = false → 16 * ws.length ≤ n + (2 * l.rank - 1) →
      ∃ m, n ≤ m + ws.length ∧ level n l c = levelRest m l e d)
    (asPrimary : ∀ {n c d}, e.isCond = true → Reads ws c d → e.edge d.terminal = false →
      16 * ws.length ≤ n + 12 → Runs (primary n) c e d) : Complete e ws := by
  have hpos := hs.length_pos
  have runs (j k : Nat) (hj : k + j = min e.rank 6) {n : Nat} {c d : Cursor}
      (hws : Reads ws c d) (ho : e.opens k d.terminal = false)
      (hn : 16 * ws.length ≤ n + (2 * k - 1)) : Runs (readerAt n k) c e d := by
    induction j generalizing k n with
    | zero =>
        cases hj
        exact top hws ho hn
    | succ j ih =>
        have hstart : c.terminal ∈ Terminal.operandStart :=
          Terminal.starters_subset_operandStart (by omega) (hs.terminal_mem hws)
        refine runs_looser (by omega) (by omega) hstart ho (fun hm => ?_) (by omega)
        exact ih (k + 1) (by omega) (Expr.opens_mono ho (by omega)) (by omega)
  refine ⟨fun hk hk' hws ho hn => ?_, goesOn, fun {l n c d} hr hws ho hn => ?_, asPrimary⟩
  · exact runs _ _ (Nat.add_sub_cancel' (Nat.le_min.mpr ⟨hk, hk'⟩)) hws ho hn
  · rcases hr with hr | hr
    · have hl : 1 ≤ l.rank ∧ l.rank ≤ 5 := by cases l <;> decide
      obtain ⟨m, rfl⟩ : ∃ m, n = m + 2 := ⟨n - 2, by omega⟩
      refine ⟨m + 1, by omega, level_eq ?_⟩
      rw [operand_succ]
      refine runs _ _ (Nat.add_sub_cancel' (Nat.le_min.mpr ⟨hr, by omega⟩)) hws ho (by omega)
    · exact chains hr hws ho hn

namespace Complete

variable {e : Expr} {ws : List Lexeme}

theorem of_goesOn (hs : Spells (.expr e) ws) (hr : e.rank = 7)
    (goesOn : ∀ {n c d}, Reads ws c d → e.edge d.terminal = false →
      16 * ws.length ≤ n + 11 → ∃ m, n ≤ m + ws.length ∧ unary n c = Parser.suffixes m e d)
    (asPrimary : ∀ {n c d}, e.isCond = true → Reads ws c d → e.edge d.terminal = false →
      16 * ws.length ≤ n + 12 → Runs (primary n) c e d) : Complete e ws := by
  refine of_top hs (fun {n c d} hws ho hn => ?_) (fun _ => goesOn) (fun {l _ _ _} hl => ?_) asPrimary
  · rw [hr] at ho hn ⊢
    have hpos := hs.length_pos
    obtain ⟨m, hm, heq⟩ := goesOn hws (Expr.edge_of_opens ho) hn
    obtain ⟨m, rfl⟩ : ∃ m', m = m' + 1 := ⟨m - 1, by omega⟩
    change unary n c = _
    rw [heq]
    exact suffixes_done ((Expr.loops_eq_false.mp (Expr.loops_of_opens ho)).1 hr)
  · have := hl.1
    cases l <;> simp [Level.rank, hr] at this

theorem of_primary (hs : Spells (.expr e) ws) (hr : e.rank = 7)
    (h : ∀ {n c d}, Reads ws c d → e.edge d.terminal = false → 16 * ws.length ≤ n + 13 →
      Runs (primary (n + 1)) c e d) : Complete e ws := by
  have hpos := hs.length_pos
  have hprimary {n : Nat} {c d : Cursor} (hws : Reads ws c d) (ho : e.edge d.terminal = false)
      (hn : 16 * ws.length ≤ n + 12) : Runs (primary n) c e d := by
    obtain ⟨m, rfl⟩ : ∃ m, n = m + 1 := ⟨n - 1, by omega⟩
    exact h hws ho (by omega)
  refine of_goesOn hs hr (fun {n c d} hws ho hn => ?_) fun _ => hprimary
  have hstart := hs.terminal_mem hws
  rw [hr] at hstart
  obtain ⟨m, rfl⟩ : ∃ m, n = m + 1 := ⟨n - 1, by omega⟩
  refine ⟨m, by omega, ?_⟩
  have hunary : unary (m + 1) c = (primary m >>= Parser.suffixes m) c := by
    rw [unary, peek_bind]
    generalize c.terminal = t at hstart
    cases t <;> first | rfl | exact absurd hstart (by decide)
  rw [hunary]
  exact bind_eq (hprimary hws ho (by omega))

theorem of_suffix {base : Expr} {ws' : List Lexeme} (hb : Complete base ws)
    (hbs : Spells (.expr base) ws) (hr : base.rank = 7)
    (hs : Spells (.expr e) (ws ++ ws')) (hr' : e.rank = 7) (hc : e.isCond = false)
    (hedge : ∀ {c d}, Reads ws' c d → base.edge c.terminal = false)
    (h : ∀ {n c d}, Reads ws' c d → e.edge d.terminal = false → 16 * ws'.length ≤ n + 11 →
      Parser.suffixes (n + 1) base c = Parser.suffixes n e d) (hne : 0 < ws'.length) :
    Complete e (ws ++ ws') := by
  refine of_goesOn hs hr' (fun {n c d} hws ho hn => ?_) fun h => ?_
  · have hpos := hbs.length_pos
    rw [List.length_append] at hn ⊢
    obtain ⟨c₁, hws₁, hws₂⟩ := reads_append.mp hws
    obtain ⟨m, hm, heq⟩ := hb.goesOn (n := n) hr hws₁ (hedge hws₂) (by omega)
    obtain ⟨m, rfl⟩ : ∃ m', m = m' + 1 := ⟨m - 1, by omega⟩
    refine ⟨m, by omega, ?_⟩
    rw [heq]
    exact h hws₂ ho (by omega)
  · rw [hc] at h
    cases h

theorem of_unary (hs : Spells (.expr e) ws) (hr : e.rank = 6) (hc : e.isCond = false)
    (h : ∀ {n c d}, Reads ws c d → e.edge d.terminal = false → 16 * ws.length ≤ n + 11 →
      Runs (unary n) c e d) : Complete e ws := by
  refine of_top hs (fun {n c d} hws ho hn => ?_) (fun h => ?_) (fun {l _ _ _} hl => ?_) fun h => ?_
  · rw [hr] at ho hn ⊢
    exact h hws (Expr.edge_of_opens ho) hn
  · omega
  · have := hl.1
    cases l <;> simp [Level.rank, hr] at this
  · rw [hc] at h
    cases h

theorem of_loose (hs : Spells (.expr e) ws) (hr : e.rank = 0)
    (h : ∀ {n c d}, Reads ws c d → e.edge d.terminal = false → 16 * ws.length ≤ n →
      Runs (expr n) c e d) : Complete e ws := by
  refine of_top hs (fun {n c d} hws ho hn => ?_) (fun h => ?_) (fun {l _ _ _} hl => ?_) fun h => ?_
  · rw [hr] at ho hn ⊢
    exact h hws (Expr.edge_of_opens ho) hn
  · omega
  · have := hl.1
    cases l <;> simp [Level.rank, hr] at this
  · cases e <;> simp [Expr.isCond, Expr.rank] at h hr

theorem read {n : Nat} {c d : Cursor} (h : Complete e ws) (hws : Reads ws c d)
    (ho : e.opens 0 d.terminal = false) (hn : 16 * ws.length ≤ n) : Runs (expr n) c e d :=
  h.runs (Nat.zero_le _) (Nat.zero_le _) hws ho hn

theorem read_before {n : Nat} {c d : Cursor} {t : Terminal} (h : Complete e ws)
    (hws : Reads ws c d) (ht : d.terminal = t) (hcloses : t.closes = true)
    (hn : 16 * ws.length ≤ n) : Runs (expr n) c e d :=
  h.read hws (Expr.opens_closes (by rw [ht, hcloses]) 0 e) hn

theorem operand_runs {n : Nat} {c d : Cursor} {l : Level} (h : Complete e ws)
    (hr : l.rank < e.rank) (hws : Reads ws c d) (ho : e.opens (l.rank + 1) d.terminal = false)
    (hn : 16 * ws.length ≤ n + 2 * l.rank) (hpos : 0 < n) : Runs (operand n l) c e d := by
  obtain ⟨m, rfl⟩ : ∃ m, n = m + 1 := ⟨n - 1, by omega⟩
  have hl : l.rank ≤ 5 := by cases l <;> decide
  rw [operand_succ]
  exact h.runs hr (by omega) hws ho (by omega)

end Complete

theorem Expr.loops_operator {l : Level} {t : Terminal} {op : BinaryOp}
    (h : l.operator? t = some op) (r : Nat) : loops (l.rank + 1) r t = false := by
  refine loops_eq_false.mpr ⟨fun _ => ?_, fun l' hk _ => ?_, fun hk => ?_⟩
  · cases l <;> cases t <;> first | rfl | cases h
  · cases htakes : l'.takes t with
    | false => rfl
    | true =>
        have hl : l.takes t = true := by rw [Level.takes, h]; rfl
        rw [Level.eq_of_takes hl htakes] at hk
        omega
  · cases hk

theorem Complete.binary {op : BinaryOp} {t : Token} {left right : Expr} {ws ws' : List Lexeme}
    (hs : Spells (.expr (.binary op left right ⟨left.extent.start, right.extent.stop⟩))
      (ws ++ ⟨t, .operand⟩ :: ws'))
    (hop : op.level.operator? t.terminal = some op) (hl : Complete left ws)
    (hlr : op.level.rank < left.rank ∨ op.level.rank = left.rank ∧ op.level.chains = true)
    (hedge : left.edge t.terminal = false) (hr : Complete right ws')
    (hrr : op.level.rank < right.rank) :
    Complete (.binary op left right ⟨left.extent.start, right.extent.stop⟩)
      (ws ++ ⟨t, .operand⟩ :: ws') := by
  generalize hwhole : Expr.binary op left right ⟨left.extent.start, right.extent.stop⟩ = whole at hs ⊢
  have hrank : whole.rank = op.level.rank := by rw [← hwhole]; rfl
  have hlevel : 1 ≤ op.level.rank ∧ op.level.rank ≤ 5 := by cases op <;> decide
  have step {n : Nat} {c d : Cursor} (hws : Reads (ws ++ ⟨t, .operand⟩ :: ws') c d)
      (ho : whole.edge d.terminal = false)
      (hn : 16 * (ws ++ ⟨t, .operand⟩ :: ws').length ≤ n + (2 * op.level.rank - 1)) :
      ∃ m, n ≤ m + 1 + (ws.length + 1) ∧ level n op.level c =
        (if op.level.chains then levelRest (m + 1) op.level whole else pure whole) d := by
    simp only [List.length_append, List.length_cons] at hn
    obtain ⟨c₁, hws₁, rfl, c₂, h₂, hws₂⟩ := reads_append.mp hws
    have hopens : left.opens (op.level.rank + 1) c₁.terminal = false :=
      Expr.opens_eq_false hedge (Expr.loops_operator hop left.rank)
    obtain ⟨m, hm, heq⟩ := hl.chains (n := n) hlr hws₁ hopens (by omega)
    obtain ⟨m, rfl⟩ : ∃ m', m = m' + 2 := ⟨m - 2, by omega⟩
    refine ⟨m, by omega, ?_⟩
    have hright : Runs (operand (m + 1) op.level) c₂ right d := by
      refine hr.operand_runs hrr hws₂ ?_ (by omega) (by omega)
      rw [← hwhole] at ho
      exact ho
    rw [heq, levelRest, peek_bind, terminal, hop]
    refine (bind_eq (runs_shift.mpr ⟨rfl, h₂⟩)).trans ?_
    refine (bind_eq hright).trans ?_
    simp only [hwhole]
  refine of_top hs (fun {n c d} hws ho hn => ?_) (fun h => ?_) (fun {l n c d} hlc hws ho hn => ?_)
    fun h => ?_
  · have hmin : min whole.rank 6 = op.level.rank := by omega
    rw [hmin] at ho hn ⊢
    rw [readerAt_level]
    obtain ⟨m, hm, heq⟩ := step hws (Expr.edge_of_opens ho) hn
    unfold Runs
    rw [heq]
    split
    · next hchains =>
        refine levelRest_done ?_
        exact (Expr.loops_eq_false.mp (Expr.loops_of_opens ho)).2.1 _ (Nat.le_refl _)
          (.inr ⟨hrank.symm, hchains⟩)
    · rfl
  · omega
  · obtain rfl := Level.rank_injective (hlc.1.trans hrank)
    obtain ⟨m, hm, heq⟩ := step hws (Expr.edge_of_opens ho) hn
    rw [if_pos hlc.2] at heq
    refine ⟨m + 1, ?_, heq⟩
    simp only [List.length_append, List.length_cons]
    omega
  · rw [← hwhole] at h
    cases h

def Phrase.Complete (ws : List Lexeme) : Phrase → Prop
  | .expr e => Surface.Complete e ws
  | .args close es stop => close = .rparen ∨ close = .rbracket → ∀ {n : Nat} {c d : Cursor},
      Reads ws c d → 16 * ws.length ≤ n + 13 → Runs (arguments n close) c (es, stop) d
  | .block b => ∀ {n : Nat} {c d : Cursor}, Reads ws c d → 16 * ws.length ≤ n + 13 →
      Runs (Parser.block n) c b d
  | .items is => ∀ {n : Nat} {c d : Cursor}, Reads ws c d → d.terminal = .rbrace →
      16 * ws.length < n → Runs (Parser.items n) c is d
  | .letItem i => ∀ {n : Nat} {c d : Cursor}, Reads ws c d → 16 * ws.length ≤ n →
      Runs (Parser.letItem n) c i d
  | .init o => ∀ {n : Nat} {c d : Cursor}, Reads ws c d → d.terminal = .semi →
      16 * ws.length < n → Runs (initializer n) c o d

theorem path_complete {t : Token} {ts : List Token} {ws : List Lexeme} (ht : t.terminal = .name)
    (hts : SpellsSegments ts ws) :
    Complete (.path (t :: ts) ⟨t.start, lastStop t ts⟩) (⟨t, .afterName⟩ :: ws) := by
  refine .of_primary (.path ht hts) rfl fun {n c d} hws ho hn => ?_
  obtain ⟨rfl, c₁, h₁, hws⟩ := hws
  rw [List.length_cons] at hn
  have hsep : d.terminal ≠ .pathSep := by
    rintro hd
    rw [hd] at ho
    cases ts <;> cases ho
  have hbang : c₁.terminal ≠ .bang := by
    cases hts with
    | nil =>
        cases hws
        rintro hd
        rw [hd] at ho
        cases ho
    | cons hsep =>
        rw [hws.terminal_head, Lexeme.terminal, hsep]
        decide
  rw [primary, runs_peek_bind, terminal, ht]
  refine .shift h₁ ?_
  rw [runs_peek_bind]
  split
  · next h => exact absurd h hbang
  · exact .bind (segments_complete hts hws hsep (by omega)) .done

theorem Spells.head_eq {e : Expr} {ws : List Lexeme} (h : Spells (.expr e) ws) {c d : Cursor}
    (hws : Reads ws c d) : c.terminal ∈ Terminal.exprStart :=
  Terminal.starters_subset_exprStart _ (h.terminal_mem hws)

theorem Spells.block_head {b : Block} {ws : List Lexeme} (h : Spells (.block b) ws) {c d : Cursor}
    (hws : Reads ws c d) : c.terminal = .lbrace := by
  obtain ⟨w, ws', rfl, hw⟩ : Phrase.Starts ws (.block b) := h.starts
  rw [hws.terminal_head, hw]

theorem Complete.read_test {test : Expr} {ws ws' : List Lexeme} {b : Block}
    (h : Complete test ws) (hedge : test.edge .lbrace = false) (hb : Spells (.block b) ws')
    {n : Nat} {c c' d : Cursor} (hws : Reads ws c c') (hws' : Reads ws' c' d)
    (hn : 16 * ws.length ≤ n) : Runs (expr n) c test c' := by
  refine h.read hws ?_ hn
  rw [hb.block_head hws']
  exact Expr.opens_eq_false hedge (Expr.loops_lbrace _ _)

theorem cond_succ {n : Nat} {test : Expr} {yes : Block} {e : Expr} {c c₁ c₂ c₃ d : Cursor}
    (hw : c.token.terminal = .ifWord) (h₁ : c.advance .expression = .ok c₁)
    (htest : Runs (expr n) c₁ test c₂) (hyes : Runs (block n) c₂ yes c₃)
    (hrest : Runs (do
      match ← peek with
      | .elseWord =>
          let _ ← shift .elseBranch
          match ← peek with
          | .ifWord =>
              let no ← cond n
              return .cond test yes (some no) ⟨c.token.start, no.extent.stop⟩
          | _ =>
              let no ← block n
              return .cond test yes (some (.block no)) ⟨c.token.start, no.extent.stop⟩
      | _ => return .cond test yes none ⟨c.token.start, yes.extent.stop⟩) c₃ e d) :
    Runs (primary (n + 2)) c e d := by
  rw [primary, runs_peek_bind, terminal, hw]
  change Runs (cond (n + 1)) _ _ _
  rw [Parser.cond]
  exact .expect hw h₁ (.bind htest (.bind hyes hrest))

theorem prefixed_runs {n : Nat} {op : UnaryOp} {t : Token} {e : Expr} {ws : List Lexeme}
    {c d : Cursor} (h : Complete e ws) (hr : 6 ≤ e.rank) (hws : Reads ws c d)
    (ho : e.opens 6 d.terminal = false) (hn : 16 * ws.length ≤ n + 10) (hpos : 0 < n) :
    Runs (prefixed n op t) c (.unary op e ⟨t.start, e.extent.stop⟩) d := by
  obtain ⟨m, rfl⟩ : ∃ m, n = m + 1 := ⟨n - 1, by omega⟩
  have hunary : Runs (unary m) c e d :=
    h.runs (k := 6) (n := m) hr (Nat.le_refl _) hws ho (by omega)
  rw [prefixed]
  exact .bind hunary .done

theorem unary_complete {op : UnaryOp} {e : Expr} {ws ws' : List Lexeme} (hop : SpellsPrefix op ws)
    (hs : Spells (.expr e) ws') (he : Complete e ws') (hr : 6 ≤ e.rank) {n : Nat} {c d : Cursor}
    (hws : Reads (ws ++ ws') c d) (ho : e.opens 6 d.terminal = false)
    (hn : 16 * (ws ++ ws').length ≤ n + 11) :
    Runs (unary n) c (.unary op e ⟨startOf ws, e.extent.stop⟩) d := by
  obtain ⟨c₁, hop', he'⟩ := reads_append.mp hws
  have hpos := hs.length_pos
  have hstart := Terminal.starters_subset_operandStart (by omega) (hs.terminal_mem he')
  rw [List.length_append] at hn
  obtain ⟨m, rfl⟩ : ∃ m, n = m + 1 := ⟨n - 1, by omega⟩
  cases hop with
  | neg ht | not ht | deref ht =>
      obtain ⟨rfl, c₂, h₂, rfl⟩ := hop'
      simp only [List.length_cons, List.length_nil] at hn
      rw [unary, runs_peek_bind, terminal, ht]
      exact .shift h₂ (prefixed_runs he hr he' ho (by omega) (by omega))
  | ref ht =>
      obtain ⟨rfl, c₂, h₂, rfl⟩ := hop'
      simp only [List.length_cons, List.length_nil] at hn
      rw [unary, runs_peek_bind, terminal, ht]
      refine .shift h₂ ?_
      rw [runs_peek_bind]
      split
      · next hm =>
          rw [hm] at hstart
          exact absurd hstart (by decide)
      · exact prefixed_runs he hr he' ho (by omega) (by omega)
  | refMut ht hm =>
      obtain ⟨rfl, c₂, h₂, rfl, c₃, h₃, rfl⟩ := hop'
      simp only [List.length_cons, List.length_nil] at hn
      rw [unary, runs_peek_bind, terminal, ht]
      refine .shift h₂ ?_
      rw [runs_peek_bind, terminal, hm]
      exact .shift h₃ (prefixed_runs he hr he' ho (by omega) (by omega))

theorem upperBound_none {n : Nat} {lower : Option Expr} {start stop : Position} {d : Cursor}
    (h : startsOperand d.terminal = false) :
    Runs (upperBound (n + 1) lower start stop) d (.range lower none ⟨start, stop⟩) d := by
  rw [upperBound, runs_peek_bind, if_neg (by simp [h])]
  exact .done

theorem upperBound_some {n : Nat} {lower : Option Expr} {start stop : Position} {upper : Expr}
    {ws : List Lexeme} {c d : Cursor} (hs : Spells (.expr upper) ws) (h : Complete upper ws)
    (hr : 1 ≤ upper.rank) (hws : Reads ws c d) (ho : upper.opens 1 d.terminal = false)
    (hn : 16 * ws.length ≤ n + 1) :
    Runs (upperBound (n + 1) lower start stop) c
      (.range lower (some upper) ⟨start, upper.extent.stop⟩) d := by
  have hstart := Terminal.starters_subset_operandStart hr (hs.terminal_mem hws)
  have hlevel : Runs (level n .disjunction) c upper d :=
    h.runs (k := 1) (n := n) hr (by omega) hws ho hn
  rw [upperBound, runs_peek_bind, if_pos (by simpa [startsOperand] using hstart)]
  exact .bind hlevel .done

theorem Expr.loops_dotDot {k : Nat} (hk : 1 ≤ k) (r : Nat) : loops k r .dotDot = false :=
  loops_eq_false.mpr ⟨fun _ => rfl, fun l _ _ => by cases l <;> rfl, fun h => by omega⟩

theorem rangeFrom_runs {n : Nat} {lower e : Expr} {ws : List Lexeme} {c c₁ c₂ d : Cursor}
    (hs : Spells (.expr lower) ws) (h : Complete lower ws) (hr : 1 ≤ lower.rank)
    (hedge : lower.edge .dotDot = false) (hws : Reads ws c c₁)
    (hd : c₁.token.terminal = .dotDot) (h₁ : c₁.advance .afterOperand = .ok c₂)
    (hn : 16 * ws.length ≤ n + 1)
    (hupper : Runs (upperBound n (some lower) lower.extent.start c₁.token.stop) c₂ e d) :
    Runs (expr (n + 1)) c e d := by
  have hstart := Terminal.starters_subset_operandStart hr (hs.terminal_mem hws)
  have hlevel : Runs (level n .disjunction) c lower c₁ := by
    refine h.runs (k := 1) (n := n) hr (by omega) hws ?_ hn
    rw [terminal, hd]
    exact Expr.opens_eq_false hedge (Expr.loops_dotDot (Nat.le_refl _) _)
  unfold Runs
  rw [expr_operand hstart]
  refine hlevel.bind ?_
  rw [runs_peek_bind, terminal, hd]
  exact .shift h₁ hupper

theorem closure_runs {isMove : Bool} {ps : List Param} {body : Expr} {ws ws' ws'' : List Lexeme}
    (hm : SpellsMove isMove ws) (hh : SpellsHead ps ws') (hb : Complete body ws'') {n : Nat}
    {c d : Cursor} (hws : Reads (ws ++ (ws' ++ ws'')) c d) (ho : body.opens 0 d.terminal = false)
    (hn : 16 * (ws ++ (ws' ++ ws'')).length ≤ n) :
    Runs (expr n) c (.closure isMove ps body ⟨startOf (ws ++ ws'), body.extent.stop⟩) d := by
  obtain ⟨c₁, hm', hws⟩ := reads_append.mp hws
  obtain ⟨c₂, hh', hb'⟩ := reads_append.mp hws
  have hpos : 0 < ws'.length := List.length_pos_iff.mpr (by cases hh <;> simp)
  rw [List.length_append, List.length_append] at hn
  obtain ⟨m, rfl⟩ : ∃ m, n = m + 1 := ⟨n - 1, by omega⟩
  cases hm with
  | none =>
      cases hm'
      have hstart : startOf ([] ++ ws') = c.token.start :=
        startOf_eq hh' (List.length_pos_iff.mp hpos)
      obtain ⟨w, us, hus, hw⟩ := hh.starts
      have hhead : c.terminal = .bar ∨ c.terminal = .orOr := by
        rw [hus] at hh'
        rw [hh'.terminal_head]
        exact hw
      rw [List.length_nil] at hn
      have hbody := (hh.complete (n := m) hh' (by omega)).bind
        (.bind (hb.read (n := m) hb' ho (by omega)) .done)
        (f := fun params => do
          let body ← expr m
          return Expr.closure false params body ⟨c.token.start, body.extent.stop⟩)
      rw [hstart, expr, runs_peek_bind]
      rcases hhead with hhead | hhead
      · rw [hhead]
        exact hbody
      · rw [hhead]
        exact hbody
  | some hw =>
      obtain ⟨rfl, c₃, h₃, rfl⟩ := hm'
      simp only [List.length_cons, List.length_nil] at hn
      rw [expr, runs_peek_bind, terminal, hw]
      exact .shift h₃ (.bind (hh.complete hh' (by omega)) (.bind (hb.read hb' ho (by omega)) .done))

theorem SpellsDeclared.complete {o : Option TypeExpr} {ws : List Lexeme}
    (h : SpellsDeclared o ws) {n : Nat} {c d : Cursor} (hws : Reads ws c d)
    (hd : EndsType d.terminal) (hcolon : d.terminal ≠ .colon) (hn : 2 * ws.length < n) :
    Runs ( annotation n) c o d := by
  obtain ⟨m, rfl⟩ : ∃ m, n = m + 1 := ⟨n - 1, by omega⟩
  rw [ annotation, runs_peek_bind]
  cases h with
  | none =>
      cases hws
      split
      · next h => exact absurd h hcolon
      · exact .done
  | some hc hu =>
      obtain ⟨rfl, c₁, h₁, hws⟩ := hws
      rw [List.length_cons] at hn
      rw [terminal, hc]
      exact .shift h₁ (.bind (hu.complete hws hd (by omega)) .done)

theorem init_head {o : Option Expr} {semi : Lexeme} {ws : List Lexeme} (h : Spells (.init o) ws)
    {c d : Cursor} (hws : Reads (ws ++ [semi]) c d) (hs : semi.terminal = .semi) :
    c.terminal = .equals ∨ c.terminal = .semi := by
  cases h with
  | initNone => exact .inr (hws.terminal_head.trans hs)
  | init hq => exact .inl (hws.terminal_head.trans hq)

theorem arguments_succ {n : Nat} {close : Terminal} {e : Expr} {ws : List Lexeme} {c d d' : Cursor}
    {r : List Expr × Position} (he : Spells (.expr e) ws)
    (hclose : close = .rparen ∨ close = .rbracket)
    (hws : Reads ws c d) (hrun : Runs (expr n) c e d)
    (hrest : Runs (do
      match ← peek with
      | .comma =>
          let _ ← shift .expressionOrClose
          let (es, stop) ← arguments n close
          return (e :: es, stop)
      | _ =>
          let closing ← expect close .afterOperand
          return ([e], closing.stop)) d r d') : Runs (arguments (n + 1) close) c r d' := by
  rw [arguments, runs_peek_bind]
  split
  · next hc =>
      have hstart := he.head_eq hws
      rw [hc] at hstart
      rcases hclose with rfl | rfl <;> exact absurd hstart (by decide)
  · exact .bind hrun hrest

theorem items_expr {n : Nat} {e : Expr} {ws : List Lexeme} {is : List Item} {c d d' : Cursor}
    (he : Spells (.expr e) ws) (hws : Reads ws c d) (hrun : Runs (expr n) c e d)
    (hrest : Runs (do
      match ← peek with
      | .semi =>
          let semi ← shift .statement
          return .exprItem e true ⟨e.extent.start, semi.stop⟩ :: (← items n)
      | _ => return .exprItem e false e.extent :: (← items n)) d is d') :
    Runs (items (n + 1)) c is d' := by
  have hstart := he.head_eq hws
  have hexpr : startsExpr c.terminal = true := by simpa [startsExpr] using hstart
  rw [items, runs_peek_bind]
  split
  · next h =>
      rw [h] at hstart
      exact absurd hstart (by decide)
  · next h =>
      rw [h] at hstart
      exact absurd hstart (by decide)
  · rw [if_pos hexpr]
    exact .bind hrun hrest

theorem EndsBefore.stops {e : Expr} {ws : List Lexeme} (h : EndsBefore e ws) {c d : Cursor}
    (hws : Reads ws c d) (hd : d.terminal = .rbrace) :
    e.opens 0 c.terminal = false ∧ c.terminal ≠ .semi := by
  cases ws with
  | nil =>
      cases hws
      rw [hd]
      exact ⟨Expr.opens_closes rfl 0 e, by decide⟩
  | cons w ws =>
      rw [hws.terminal_head]
      exact h w rfl

theorem Spells.complete {p : Phrase} {ws : List Lexeme} (h : Spells p ws) : p.Complete ws := by
  induction h with
  | int ht | float ht | string ht | true ht | false ht | brk ht | cont ht =>
      refine .of_primary (by constructor; exact ht) rfl fun {n c d} hws ho hn => ?_
      obtain ⟨rfl, c₁, h₁, rfl⟩ := hws
      rw [primary, runs_peek_bind, terminal, ht]
      exact .shift h₁ .done
  | path ht hts => exact path_complete ht hts
  | bracketMacro ht hb hopen hes ih =>
      refine .of_primary (.bracketMacro ht hb hopen hes) rfl fun {n c d} hws ho hn => ?_
      obtain ⟨rfl, c₁, h₁, rfl, c₂, h₂, rfl, c₃, h₃, hws⟩ := hws
      simp only [List.length_cons] at hn
      rw [primary, runs_peek_bind, terminal, ht]
      refine .shift h₁ ?_
      rw [runs_peek_bind, terminal, hb]
      refine .shift h₂ ?_
      rw [runs_peek_bind, terminal, hopen]
      exact .shift h₃ (.bind (ih (.inr rfl) hws (by omega)) .done)
  | macroCall ht hb hopen hes ih =>
      refine .of_primary (.macroCall ht hb hopen hes) rfl fun {n c d} hws ho hn => ?_
      obtain ⟨rfl, c₁, h₁, rfl, c₂, h₂, rfl, c₃, h₃, hws⟩ := hws
      simp only [List.length_cons] at hn
      rw [primary, runs_peek_bind, terminal, ht]
      refine .shift h₁ ?_
      rw [runs_peek_bind, terminal, hb]
      refine .shift h₂ ?_
      rw [runs_peek_bind, terminal, hopen]
      exact .expect hopen h₃ (.bind (ih (.inl rfl) hws (by omega)) .done)
  | paren hopen he hc ih =>
      refine .of_primary (.paren hopen he hc) rfl fun {n c d} hws ho hn => ?_
      obtain ⟨rfl, c₁, h₁, hws⟩ := hws
      obtain ⟨c₂, he', rfl, c₃, h₃, rfl⟩ := reads_append.mp hws
      simp only [List.length_cons, List.length_append] at hn
      rw [primary, runs_peek_bind, terminal, hopen]
      refine .shift h₁ (.bind (ih.read_before he' hc rfl (by omega)) ?_)
      rw [runs_peek_bind, terminal, hc]
      exact .expect hc h₃ .done
  | tuple hopen he hc hes ih ihs =>
      refine .of_primary (.tuple hopen he hc hes) rfl fun {n c d} hws ho hn => ?_
      obtain ⟨rfl, c₁, h₁, hws⟩ := hws
      obtain ⟨c₂, he', rfl, c₃, h₃, hes'⟩ := reads_append.mp hws
      simp only [List.length_cons, List.length_append] at hn
      rw [primary, runs_peek_bind, terminal, hopen]
      refine .shift h₁ (.bind (ih.read_before he' hc rfl (by omega)) ?_)
      rw [runs_peek_bind, terminal, hc]
      exact .shift h₃ (.bind (ihs (.inl rfl) hes' (by omega)) .done)
  | array hopen hes ih =>
      refine .of_primary (.array hopen hes) rfl fun {n c d} hws ho hn => ?_
      obtain ⟨rfl, c₁, h₁, hws⟩ := hws
      simp only [List.length_cons] at hn
      rw [primary, runs_peek_bind, terminal, hopen]
      exact .shift h₁ (.bind (ih (.inr rfl) hws (by omega)) .done)
  | block hb ih =>
      refine .of_primary (.block hb) rfl fun {n c d} hws ho hn => ?_
      rw [primary, runs_peek_bind, hb.block_head hws]
      exact .bind (ih hws (by omega)) .done
  | cond hw htest hedge hyes iht ihy =>
      refine .of_primary (.cond hw htest hedge hyes) rfl fun {n c d} hws ho hn => ?_
      obtain ⟨rfl, c₁, h₁, hws⟩ := hws
      obtain ⟨c₂, htest', hyes'⟩ := reads_append.mp hws
      simp only [List.length_cons, List.length_append] at hn
      have hpos := htest.length_pos
      obtain ⟨m, rfl⟩ : ∃ m, n = m + 1 := ⟨n - 1, by omega⟩
      refine cond_succ hw h₁ (iht.read_test hedge hyes htest' hyes' (by omega))
        (ihy hyes' (by omega)) ?_
      rw [runs_peek_bind]
      split
      · next h =>
          rw [h] at ho
          cases ho
      · exact .done
  | condElse hw htest hedge hyes hother hno iht ihy ihn =>
      refine .of_primary (.condElse hw htest hedge hyes hother hno) rfl fun {n c d} hws ho hn => ?_
      obtain ⟨rfl, c₁, h₁, hws⟩ := hws
      obtain ⟨c₂, htest', hws⟩ := reads_append.mp hws
      obtain ⟨c₃, hyes', rfl, c₄, h₄, hno'⟩ := reads_append.mp hws
      simp only [List.length_cons, List.length_append] at hn
      have hpos := htest.length_pos
      obtain ⟨m, rfl⟩ : ∃ m, n = m + 1 := ⟨n - 1, by omega⟩
      refine cond_succ hw h₁ (iht.read_test hedge hyes htest' hyes' (by omega))
        (ihy hyes' (by omega)) ?_
      rw [runs_peek_bind, terminal, hother]
      refine .shift h₄ ?_
      rw [runs_peek_bind, hno.block_head hno']
      exact .bind (ihn hno' (by omega)) .done
  | condElseIf hw htest hedge hyes hother hw' hno iht ihy ihn =>
      refine .of_primary (.condElseIf hw htest hedge hyes hother hw' hno) rfl
        fun {n c d} hws ho hn => ?_
      obtain ⟨rfl, c₁, h₁, hws⟩ := hws
      obtain ⟨c₂, htest', hws⟩ := reads_append.mp hws
      obtain ⟨c₃, hyes', rfl, c₄, h₄, hno'⟩ := reads_append.mp hws
      simp only [List.length_cons, List.length_append] at hn
      have hpos := htest.length_pos
      obtain ⟨m, rfl⟩ : ∃ m, n = m + 1 := ⟨n - 1, by omega⟩
      have hhead : c₄.terminal = .ifWord := by rw [hno'.terminal_head, Lexeme.terminal, hw']
      have hprimary := ihn.asPrimary (n := m + 1) rfl hno' ho (by
        simp only [List.length_cons]
        omega)
      rw [primary, runs_peek_bind, hhead] at hprimary
      refine cond_succ hw h₁ (iht.read_test hedge hyes htest' hyes' (by omega))
        (ihy hyes' (by omega)) ?_
      rw [runs_peek_bind, terminal, hother]
      refine .shift h₄ ?_
      rw [runs_peek_bind, hhead]
      exact .bind hprimary .done
  | whileLoop hw htest hedge hbody iht ihb =>
      refine .of_primary (.whileLoop hw htest hedge hbody) rfl fun {n c d} hws ho hn => ?_
      obtain ⟨rfl, c₁, h₁, hws⟩ := hws
      obtain ⟨c₂, htest', hbody'⟩ := reads_append.mp hws
      simp only [List.length_cons, List.length_append] at hn
      rw [primary, runs_peek_bind, terminal, hw]
      refine .shift h₁ (.bind (iht.read_test hedge hbody htest' hbody' (by omega)) ?_)
      exact .bind (ihb hbody' (by omega)) .done
  | loop hw hbody ih =>
      refine .of_primary (.loop hw hbody) rfl fun {n c d} hws ho hn => ?_
      obtain ⟨rfl, c₁, h₁, hws⟩ := hws
      simp only [List.length_cons] at hn
      rw [primary, runs_peek_bind, terminal, hw]
      exact .shift h₁ (.bind (ih hws (by omega)) .done)
  | forLoop hw hp hi hiter hedge hbody ihi ihb =>
      refine .of_primary (.forLoop hw hp hi hiter hedge hbody) rfl fun {n c d} hws ho hn => ?_
      obtain ⟨rfl, c₁, h₁, hws⟩ := hws
      obtain ⟨c₂, hp', rfl, c₃, h₃, hws⟩ := reads_append.mp hws
      obtain ⟨c₄, hiter', hbody'⟩ := reads_append.mp hws
      simp only [List.length_cons, List.length_append] at hn
      rw [primary, runs_peek_bind, terminal, hw]
      refine .shift h₁ (.bind (hp.complete hp' (by omega)) (.expect hi h₃ ?_))
      refine .bind (ihi.read_test hedge hbody hiter' hbody' (by omega)) ?_
      exact .bind (ihb hbody' (by omega)) .done
  | retNone hw =>
      refine .of_primary (.retNone hw) rfl fun {n c d} hws ho hn => ?_
      obtain ⟨rfl, c₁, h₁, rfl⟩ := hws
      rw [primary, runs_peek_bind, terminal, hw]
      refine .shift h₁ ?_
      rw [runs_peek_bind]
      split
      · next h =>
          rw [Expr.edge] at ho
          rw [ho] at h
          cases h
      · exact .done
  | ret hw hv ih =>
      refine .of_primary (.ret hw hv) rfl fun {n c d} hws ho hn => ?_
      obtain ⟨rfl, c₁, h₁, hws⟩ := hws
      simp only [List.length_cons] at hn
      rw [primary, runs_peek_bind, terminal, hw]
      refine .shift h₁ ?_
      rw [runs_peek_bind, if_pos (by simpa [startsExpr] using hv.head_eq hws)]
      exact .bind (ih.read hws ho (by omega)) .done
  | unary hop he hr ih =>
      refine .of_unary (.unary hop he hr) rfl rfl fun {n c d} hws ho hn => ?_
      exact unary_complete hop he ih hr hws ho hn
  | binary hop hl hlr hedge hr hrr ihl ihr =>
      exact .binary (.binary hop hl hlr hedge hr hrr) hop ihl hlr hedge ihr hrr
  | rangeAll hd =>
      refine .of_loose (.rangeAll hd) rfl fun {n c d} hws ho hn => ?_
      obtain ⟨rfl, c₁, h₁, rfl⟩ := hws
      obtain ⟨m, rfl⟩ : ∃ m, n = m + 2 := ⟨n - 2, by simp at hn; omega⟩
      rw [expr, runs_peek_bind, terminal, hd]
      exact .shift h₁ (upperBound_none ho)
  | rangeTo hd hu hur ih =>
      refine .of_loose (.rangeTo hd hu hur) rfl fun {n c d} hws ho hn => ?_
      obtain ⟨rfl, c₁, h₁, hws⟩ := hws
      simp only [List.length_cons] at hn
      obtain ⟨m, rfl⟩ : ∃ m, n = m + 2 := ⟨n - 2, by omega⟩
      rw [expr, runs_peek_bind, terminal, hd]
      exact .shift h₁ (upperBound_some hu ih hur hws ho (by omega))
  | rangeFrom hd hl hlr hedge ih =>
      refine .of_loose (.rangeFrom hd hl hlr hedge) rfl fun {n c d} hws ho hn => ?_
      obtain ⟨c₁, hl', rfl, c₂, h₂, rfl⟩ := reads_append.mp hws
      simp only [List.length_append, List.length_cons, List.length_nil] at hn
      obtain ⟨m, rfl⟩ : ∃ m, n = m + 2 := ⟨n - 2, by omega⟩
      exact rangeFrom_runs hl ih hlr hedge hl' hd h₂ (by omega) (upperBound_none ho)
  | range hd hl hlr hedge hu hur ihl ihu =>
      refine .of_loose (.range hd hl hlr hedge hu hur) rfl fun {n c d} hws ho hn => ?_
      obtain ⟨c₁, hl', rfl, c₂, h₂, hu'⟩ := reads_append.mp hws
      simp only [List.length_append, List.length_cons] at hn
      obtain ⟨m, rfl⟩ : ∃ m, n = m + 2 := ⟨n - 2, by omega⟩
      exact rangeFrom_runs hl ihl hlr hedge hl' hd h₂ (by omega)
        (upperBound_some hu ihu hur hu' ho (by omega))
  | call hf hr hedge hopen hes ihf ihes =>
      refine .of_suffix ihf hf hr (.call hf hr hedge hopen hes) rfl rfl
        (fun {c d} hws => ?_) (fun {n c d} hws ho hn => ?_) (by simp)
      · rw [hws.terminal_head, Lexeme.terminal, hopen]
        exact hedge
      · obtain ⟨rfl, c₁, h₁, hes'⟩ := hws
        simp only [List.length_cons] at hn
        rw [suffixes, peek_bind, terminal, hopen]
        refine (bind_eq (runs_shift.mpr ⟨rfl, h₁⟩)).trans ?_
        exact bind_eq (ihes (.inl rfl) hes' (by omega))
  | methodCall hf hr hedge hd hn' hopen hes ihf ihes =>
      refine .of_suffix ihf hf hr (.methodCall hf hr hedge hd hn' hopen hes) rfl rfl
        (fun {c d} hws => ?_) (fun {n c d} hws ho hn => ?_) (by simp)
      · rw [hws.terminal_head, Lexeme.terminal, hd]
        exact hedge
      · obtain ⟨rfl, c₁, h₁, rfl, c₂, h₂, rfl, c₃, h₃, hes'⟩ := hws
        simp only [List.length_cons] at hn
        rw [suffixes, peek_bind, terminal, hd]
        refine (bind_eq (runs_shift.mpr ⟨rfl, h₁⟩)).trans ?_
        rw [peek_bind, terminal, hn']
        refine (bind_eq (runs_shift.mpr ⟨rfl, h₂⟩)).trans ?_
        rw [peek_bind, terminal, hopen]
        refine (bind_eq (runs_shift.mpr ⟨rfl, h₃⟩)).trans ?_
        exact bind_eq (ihes (.inl rfl) hes' (by omega))
  | field hf hr hedge hd hn' ihf =>
      refine .of_suffix ihf hf hr (.field hf hr hedge hd hn') rfl rfl
        (fun {c d} hws => ?_) (fun {n c d} hws ho hn => ?_) (by simp)
      · rw [hws.terminal_head, Lexeme.terminal, hd]
        exact hedge
      · obtain ⟨rfl, c₁, h₁, rfl, c₂, h₂, rfl⟩ := hws
        rw [suffixes, peek_bind, terminal, hd]
        refine (bind_eq (runs_shift.mpr ⟨rfl, h₁⟩)).trans ?_
        rw [peek_bind, terminal]
        rcases hn' with hn' | hn'
        · rw [hn']
          refine (bind_eq (runs_shift.mpr ⟨rfl, h₂⟩)).trans ?_
          rw [peek_bind]
          have hne : c₂.terminal ≠ .lparen := by
            intro h
            rw [h, Expr.edge, hn'] at ho
            cases ho
          generalize c₂.terminal = t at hne
          cases t <;> first | rfl | exact absurd rfl hne
        · rw [hn']
          exact bind_eq (runs_expect.mpr ⟨hn', rfl, h₂⟩)
  | index hf hr hedge hopen hpos' hc ihf ihpos =>
      refine .of_suffix ihf hf hr (.index hf hr hedge hopen hpos' hc) rfl rfl
        (fun {c d} hws => ?_) (fun {n c d} hws ho hn => ?_) (by simp)
      · rw [hws.terminal_head, Lexeme.terminal, hopen]
        exact hedge
      · obtain ⟨rfl, c₁, h₁, hws⟩ := hws
        obtain ⟨c₂, hpos'', rfl, c₃, h₃, rfl⟩ := reads_append.mp hws
        simp only [List.length_cons, List.length_append] at hn
        rw [suffixes, peek_bind, terminal, hopen]
        refine (bind_eq (runs_shift.mpr ⟨rfl, h₁⟩)).trans ?_
        refine (bind_eq (ihpos.read_before hpos'' hc rfl (by omega))).trans ?_
        exact bind_eq (runs_expect.mpr ⟨hc, rfl, h₃⟩)
  | closure hm hh hb ih =>
      refine .of_loose (.closure hm hh hb) rfl fun {n c d} hws ho hn => ?_
      exact closure_runs hm hh ih hws ho hn
  | argsNil hc =>
      intro hclose n c d hws hn
      obtain ⟨rfl, c₁, h₁, rfl⟩ := hws
      obtain ⟨m, rfl⟩ : ∃ m, n = m + 1 := ⟨n - 1, by simp at hn; omega⟩
      rw [arguments, runs_peek_bind, terminal, if_pos hc]
      exact .shift h₁ .done
  | argsLast he hc ih =>
      intro hclose n c d hws hn
      obtain ⟨c₁, he', rfl, c₂, h₂, rfl⟩ := reads_append.mp hws
      have hpos := he.length_pos
      simp only [List.length_append, List.length_cons, List.length_nil] at hn
      obtain ⟨m, rfl⟩ : ∃ m, n = m + 1 := ⟨n - 1, by omega⟩
      have hcloses : Terminal.closes c₁.token.terminal = Bool.true := by
        rw [hc]
        rcases hclose with rfl | rfl <;> rfl
      refine arguments_succ he hclose he' (ih.read_before he' rfl hcloses (by omega)) ?_
      rw [runs_peek_bind]
      split
      · next h =>
          rw [terminal, hc] at h
          rcases hclose with rfl | rfl <;> cases h
      · exact .expect hc h₂ .done
  | argsCons he hc hes ihe ihes =>
      intro hclose n c d hws hn
      obtain ⟨c₁, he', rfl, c₂, h₂, hes'⟩ := reads_append.mp hws
      simp only [List.length_append, List.length_cons] at hn
      obtain ⟨m, rfl⟩ : ∃ m, n = m + 1 := ⟨n - 1, by omega⟩
      refine arguments_succ he hclose he' (ihe.read_before he' hc rfl (by omega)) ?_
      rw [runs_peek_bind, terminal, hc]
      exact .shift h₂ (.bind (ihes hclose hes' (by omega)) .done)
  | mkBlock hopen his hc ih =>
      rintro (_ | n) c d ⟨rfl, c₁, h₁, hws⟩ hn <;>
        simp only [List.length_cons, List.length_append, List.length_nil] at hn
      · omega
      · obtain ⟨c₂, his', rfl, c₃, h₃, rfl⟩ := reads_append.mp hws
        rw [Parser.block]
        exact .expect hopen h₁ (.bind (ih his' hc (by omega)) (.expect hc h₃ .done))
  | itemsNil =>
      rintro (_ | n) c d hws hd hn
      · cases hn
      · cases hws
        rw [Parser.items, runs_peek_bind, hd]
        exact .done
  | itemsEmpty hs his ih =>
      rintro (_ | n) c d ⟨rfl, c₁, h₁, hws⟩ hd hn <;> simp only [List.length_cons] at hn
      · omega
      · rw [Parser.items, runs_peek_bind, terminal, hs]
        exact .shift h₁ (.bind (ih hws hd (by omega)) .done)
  | itemsLet hi his ihi ih =>
      rintro (_ | n) c d hws hd hn
      · cases hn
      · rw [List.length_append] at hn
        obtain ⟨c₁, hi', his'⟩ := reads_append.mp hws
        obtain ⟨w, us, rfl, hw⟩ : Phrase.Starts _ (.letItem _) := hi.starts
        simp only [List.length_cons] at hn
        rw [Parser.items, runs_peek_bind, hi'.terminal_head, hw]
        refine .bind (ihi hi' (by simp only [List.length_cons]; omega)) ?_
        exact .bind (ih his' hd (by omega)) .done
  | itemsSemi he hs his ihe ih =>
      intro n c d hws hd hn
      obtain ⟨c₁, he', rfl, c₂, h₂, his'⟩ := reads_append.mp hws
      simp only [List.length_append, List.length_cons] at hn
      obtain ⟨m, rfl⟩ : ∃ m, n = m + 1 := ⟨n - 1, by omega⟩
      refine items_expr he he' (ihe.read_before he' hs rfl (by omega)) ?_
      rw [runs_peek_bind, terminal, hs]
      exact .shift h₂ (.bind (ih his' hd (by omega)) .done)
  | itemsExpr he hend his ihe ih =>
      intro n c d hws hd hn
      obtain ⟨c₁, he', his'⟩ := reads_append.mp hws
      have hpos := he.length_pos
      rw [List.length_append] at hn
      obtain ⟨m, rfl⟩ : ∃ m, n = m + 1 := ⟨n - 1, by omega⟩
      obtain ⟨hopens, hsemi⟩ := hend.stops his' hd
      refine items_expr he he' (ihe.read he' hopens (by omega)) ?_
      rw [runs_peek_bind]
      split
      · next h => exact absurd h hsemi
      · exact .bind (ih his' hd (by omega)) .done
  | letItem hw hp hd hv hs ih =>
      rintro (_ | n) c d ⟨rfl, c₁, h₁, hws⟩ hn <;>
        simp only [List.length_cons, List.length_append, List.length_nil] at hn
      · omega
      · obtain ⟨c₂, hp', hws⟩ := reads_append.mp hws
        obtain ⟨c₃, hd', hws⟩ := reads_append.mp hws
        have hhead := init_head hv hws hs
        obtain ⟨c₄, hv', rfl, c₅, h₅, rfl⟩ := reads_append.mp hws
        have hends : EndsType c₃.terminal := by
          rcases hhead with h | h <;> exact endsType_of h
        have hcolon : c₃.terminal ≠ .colon := by
          rcases hhead with h | h <;> rw [h] <;> decide
        rw [Parser.letItem]
        refine .expect hw h₁ (.bind (hp.complete hp' (by omega)) ?_)
        refine .bind (hd.complete hd' hends hcolon (by omega)) ?_
        exact .bind (ih hv' hs (by omega)) (.expect hs h₅ .done)
  | initNone =>
      rintro (_ | n) c d hws hd hn
      · cases hn
      · cases hws
        rw [initializer, runs_peek_bind, hd]
        exact .done
  | init hq he ih =>
      rintro (_ | n) c d ⟨rfl, c₁, h₁, hws⟩ hd hn <;> simp only [List.length_cons] at hn
      · omega
      · rw [initializer, runs_peek_bind, terminal, hq]
        exact .shift h₁ (.bind (ih.read_before hws hd rfl (by omega)) .done)

theorem SpellsParam.complete {p : Param} {ws : List Lexeme} (h : SpellsParam p ws)
    (hsome : p.declared.isSome = true) {n : Nat} {c d : Cursor} (hws : Reads ws c d)
    (hd : EndsType d.terminal) (hn : 2 * ws.length ≤ n) : Runs (param n) c p d := by
  cases h with
  | mk hp ho =>
      obtain ⟨c₁, hp', ho'⟩ := reads_append.mp hws
      cases ho with
      | none => cases hsome
      | some hc hu =>
          obtain ⟨rfl, c₂, h₂, hu'⟩ := ho'
          simp only [List.length_append, List.length_cons] at hn
          refine .bind (hp.complete hp' (by omega)) (.expect hc h₂ ?_)
          exact .bind (hu.complete hu' hd (by omega)) .done

theorem params_succ {n : Nat} {p : Param} {ps : List Param} {ws ws' : List Lexeme}
    {c c' d d' : Cursor} (hp : SpellsParam p ws) (hws : Reads (ws ++ ws') c d')
    (hrun : Runs (param n) c p c')
    (hrest : Runs (do
      match ← peek with
      | .comma =>
          let _ ← shift .patternOrClose
          return p :: (← params n)
      | _ =>
          let _ ← expect .rparen .arrowOrBody
          return [p]) c' ps d) : Runs (params (n + 1)) c ps d := by
  rw [params, runs_peek_bind]
  split
  · next h => exact absurd h (hp.head_ne hws).1
  · exact .bind hrun hrest

theorem SpellsParams.complete {ps : List Param} {ws : List Lexeme} (h : SpellsParams ps ws)
    {n : Nat} {c d : Cursor} (hws : Reads ws c d) (hn : 2 * ws.length ≤ n) :
    Runs (params n) c ps d := by
  induction h generalizing n c with
  | nil hc =>
      obtain ⟨rfl, c₁, h₁, rfl⟩ := hws
      obtain ⟨m, rfl⟩ : ∃ m, n = m + 1 := ⟨n - 1, by simp at hn; omega⟩
      rw [params, runs_peek_bind, terminal, hc]
      exact .shift h₁ .done
  | last hp hd hc =>
      obtain ⟨c₁, hp', rfl, c₂, h₂, rfl⟩ := reads_append.mp hws
      simp only [List.length_append, List.length_cons, List.length_nil] at hn
      obtain ⟨m, rfl⟩ : ∃ m, n = m + 1 := ⟨n - 1, by omega⟩
      refine params_succ hp hws (hp.complete hd hp' (endsType_of hc) (by omega)) ?_
      rw [runs_peek_bind, terminal, hc]
      exact .expect hc h₂ .done
  | cons hp hd hc hps ih =>
      obtain ⟨c₁, hp', rfl, c₂, h₂, hps'⟩ := reads_append.mp hws
      simp only [List.length_append, List.length_cons] at hn
      obtain ⟨m, rfl⟩ : ∃ m, n = m + 1 := ⟨n - 1, by omega⟩
      refine params_succ hp hws (hp.complete hd hp' (endsType_of hc) (by omega)) ?_
      rw [runs_peek_bind, terminal, hc]
      exact .shift h₂ (.bind (ih hps' (by omega)) .done)

theorem SpellsFunction.length_pos {f : Function} {ws : List Lexeme} (h : SpellsFunction f ws) :
    0 < ws.length := by
  cases h
  simp

theorem SpellsFunction.head {f : Function} {ws : List Lexeme} (h : SpellsFunction f ws)
    {c d : Cursor} (hws : Reads ws c d) : c.terminal = .fnWord := by
  cases h with
  | mk hw => rw [hws.terminal_head, Lexeme.terminal, hw]

theorem SpellsFunction.complete {f : Function} {ws : List Lexeme} (h : SpellsFunction f ws)
    {n : Nat} {c d : Cursor} (hws : Reads ws c d) (hn : 16 * ws.length ≤ n) :
    Runs (function n) c f d := by
  cases h with
  | mk hw hname hopen hps hr hb =>
      obtain ⟨rfl, c₁, h₁, rfl, c₂, h₂, rfl, c₃, h₃, hws⟩ := hws
      obtain ⟨c₄, hps', hws⟩ := reads_append.mp hws
      obtain ⟨c₅, hr', hb'⟩ := reads_append.mp hws
      simp only [List.length_append, List.length_cons] at hn
      refine .expect hw h₁ (.expect hname h₂ (.expect hopen h₃ ?_))
      refine .bind (hps.complete hps' (by omega)) ?_
      rw [runs_peek_bind]
      cases hr with
      | none =>
          cases hr'
          rw [hb.block_head hb']
          exact .bind .done (.bind (hb.complete hb' (by omega)) .done)
      | some ha hu =>
          obtain ⟨rfl, c₆, h₆, hu'⟩ := hr'
          simp only [List.length_cons] at hn
          rw [terminal, ha]
          refine .shift h₆ (.bind (hu.complete hu' ?_ (by omega)) ?_)
          · exact endsType_of (hb.block_head hb')
          · exact .bind .done (.bind (hb.complete hb' (by omega)) .done)

theorem SpellsFunctions.complete {fs : List Function} {ws : List Lexeme}
    (h : SpellsFunctions fs ws) {n : Nat} {c d : Cursor} (hws : Reads ws c d)
    (hd : d.terminal = .eof) (hn : 16 * ws.length < n) : Runs (functions n) c fs d := by
  induction h generalizing n c with
  | nil =>
      cases hws
      obtain ⟨m, rfl⟩ : ∃ m, n = m + 1 := ⟨n - 1, by omega⟩
      rw [functions, runs_peek_bind, hd]
      exact .done
  | cons hf hfs ih =>
      obtain ⟨c₁, hf', hfs'⟩ := reads_append.mp hws
      rw [List.length_append] at hn
      obtain ⟨m, rfl⟩ : ∃ m, n = m + 1 := ⟨n - 1, by omega⟩
      have hpos := hf.length_pos
      rw [functions, runs_peek_bind, hf.head hf']
      exact .bind (hf.complete hf' (by omega)) (.bind (ih hfs' (by omega)) .done)

end ChainLint.Surface
