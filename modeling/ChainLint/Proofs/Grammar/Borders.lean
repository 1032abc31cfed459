import ChainLint.Proofs.Grammar.Derivation

namespace ChainLint

namespace Terminal

def primaryStart : List Terminal :=
  [.name, .int, .float, .string, .trueWord, .falseWord, .lparen, .lbracket, .lbrace, .ifWord,
    .whileWord, .loopWord, .forWord, .returnWord, .breakWord, .continueWord]

def starters : Nat → List Terminal
  | 0 => exprStart
  | 7 => primaryStart
  | _ => operandStart

theorem primaryStart_subset : primaryStart ⊆ operandStart := by
  decide

theorem starters_subset_exprStart (r : Nat) : starters r ⊆ exprStart := by
  unfold starters
  split
  · exact List.Subset.refl _
  · exact List.Subset.trans primaryStart_subset operandStart_subset_exprStart
  · exact operandStart_subset_exprStart

theorem starters_subset_operandStart {r : Nat} (h : 1 ≤ r) : starters r ⊆ operandStart := by
  unfold starters
  split
  · omega
  · exact primaryStart_subset
  · exact List.Subset.refl _

theorem starters_anti {r r' : Nat} (h : r ≤ r') (h' : r' ≤ 7) : starters r' ⊆ starters r := by
  by_cases hr : r = 0
  · rw [hr]
    exact starters_subset_exprStart r'
  · by_cases hr' : r = r'
    · rw [hr']
      exact List.Subset.refl _
    · have : starters r = operandStart := by
        unfold starters
        split
        · omega
        · omega
        · rfl
      rw [this]
      exact starters_subset_operandStart (by omega)

end Terminal

namespace Surface

theorem Expr.rank_le (e : Expr) : e.rank ≤ 7 := by
  unfold Expr.rank
  split
  · omega
  · omega
  · next op _ _ _ => cases op <;> simp [BinaryOp.level, Level.rank]
  · omega
  · omega

def Phrase.Starts (ws : List Lexeme) : Phrase → Prop
  | .expr e => ∃ w ws', ws = w :: ws' ∧ w.terminal ∈ Terminal.starters e.rank
  | .block _ => ∃ w ws', ws = w :: ws' ∧ w.terminal = .lbrace
  | .letItem _ => ∃ w ws', ws = w :: ws' ∧ w.terminal = .letWord
  | _ => True

theorem SpellsPrefix.starts {op : UnaryOp} {ws : List Lexeme} (h : SpellsPrefix op ws) :
    ∃ w ws', ws = w :: ws' ∧ w.terminal ∈ Terminal.operandStart := by
  cases h with
  | neg ht | not ht | deref ht | ref ht => exact ⟨_, _, rfl, by simp [Lexeme.terminal, ht, Terminal.operandStart]⟩
  | refMut ht hm => exact ⟨_, _, rfl, by simp [Lexeme.terminal, ht, Terminal.operandStart]⟩

theorem SpellsHead.starts {ps : List Param} {ws : List Lexeme} (h : SpellsHead ps ws) :
    ∃ w ws', ws = w :: ws' ∧ (w.terminal = .bar ∨ w.terminal = .orOr) := by
  cases h with
  | joined hb => exact ⟨_, _, rfl, .inr hb⟩
  | empty ho hc => exact ⟨_, _, rfl, .inl ho⟩
  | params ho hps => exact ⟨_, _, rfl, .inl ho⟩

theorem Phrase.Starts.through {e e' : Expr} {ws ws' : List Lexeme}
    (h : Phrase.Starts ws (.expr e)) (hr : e'.rank ≤ e.rank) :
    Phrase.Starts (ws ++ ws') (.expr e') := by
  obtain ⟨w, us, rfl, hw⟩ := h
  exact ⟨w, us ++ ws', rfl, Terminal.starters_anti hr e.rank_le hw⟩

theorem starts_primary {e : Expr} {w : Lexeme} {ws : List Lexeme} (hr : e.rank = 7)
    (hw : w.terminal ∈ Terminal.primaryStart) : Phrase.Starts (w :: ws) (.expr e) := by
  refine ⟨w, ws, rfl, ?_⟩
  rw [hr]
  exact hw

theorem Spells.starts {p : Phrase} {ws : List Lexeme} (h : Spells p ws) : p.Starts ws := by
  induction h with
  | int ht | float ht | string ht | true ht | false ht | path ht | bracketMacro ht | macroCall ht
  | paren ht | tuple ht | array ht | cond ht | condElse ht | condElseIf ht | whileLoop ht
  | loop ht | forLoop ht | retNone ht | ret ht | brk ht | cont ht =>
      exact starts_primary rfl (by simp [Lexeme.terminal, ht, Terminal.primaryStart])
  | block _ ih =>
      obtain ⟨w, ws, rfl, hw⟩ := ih
      exact starts_primary rfl (by simp [hw, Terminal.primaryStart])
  | unary hop =>
      obtain ⟨w, ws, rfl, hw⟩ := hop.starts
      exact ⟨w, _, rfl, hw⟩
  | @binary op _ left _ _ _ _ _ hlr _ _ _ ihl =>
      refine ihl.through ?_
      change op.level.rank ≤ left.rank
      omega
  | rangeAll hd | rangeTo hd =>
      exact ⟨_, _, rfl, by simp [Lexeme.terminal, hd, Terminal.starters, Expr.rank, Terminal.exprStart]⟩
  | rangeFrom _ _ _ _ ihl | range _ _ _ _ _ _ ihl => exact ihl.through (Nat.zero_le _)
  | call _ hr _ _ _ ihf | methodCall _ hr _ _ _ _ _ ihf | field _ hr _ _ _ ihf
  | index _ hr _ _ _ _ ihf => exact ihf.through (Nat.le_of_eq hr.symm)
  | closure hm hh =>
      cases hm with
      | none =>
          obtain ⟨w, ws, rfl, hw⟩ := hh.starts
          refine ⟨w, _, rfl, ?_⟩
          rcases hw with hw | hw <;>
            simp [hw, Terminal.starters, Expr.rank, Terminal.exprStart]
      | some hw =>
          exact ⟨_, _, rfl, by simp [Lexeme.terminal, hw, Terminal.starters, Expr.rank,
            Terminal.exprStart]⟩
  | mkBlock ho => exact ⟨_, _, rfl, ho⟩
  | letItem hw => exact ⟨_, _, rfl, hw⟩
  | argsNil | argsLast | argsCons | itemsNil | itemsEmpty | itemsLet | itemsSemi | itemsExpr
  | initNone | init => trivial

theorem Spells.starts_expr {e : Expr} {ws : List Lexeme} (h : Spells (.expr e) ws) :
    ∃ w ws', ws = w :: ws' ∧ w.terminal ∈ Terminal.starters e.rank :=
  h.starts

theorem Spells.terminal_mem {e : Expr} {ws : List Lexeme} {c d : Cursor}
    (h : Spells (.expr e) ws) (hws : Cursor.Reads ws c d) :
    c.terminal ∈ Terminal.starters e.rank := by
  obtain ⟨w, ws', rfl, hw⟩ := h.starts_expr
  rw [hws.terminal_head]
  exact hw

namespace Expr

theorem loops_inert {t : Terminal} (hs : t.opensSuffix = false)
    (hl : ∀ l : Level, l.takes t = false) (hd : t ≠ .dotDot) (k r : Nat) : loops k r t = false :=
  loops_eq_false.mpr ⟨fun _ => hs, fun l _ _ => hl l, fun _ _ => hd⟩

theorem loops_closes {t : Terminal} (ht : t.closes = true) (k r : Nat) : loops k r t = false := by
  refine loops_inert ?_ (fun l => ?_) ?_ k r
  · cases t <;> first | rfl | cases ht
  · cases t <;> first | (cases l <;> rfl) | cases ht
  · rintro rfl
    cases ht

theorem loops_lbrace (k r : Nat) : loops k r .lbrace = false :=
  loops_inert rfl (fun l => by cases l <;> rfl) (by decide) k r

end Expr

theorem startsExpr_closes {t : Terminal} (ht : t.closes = true) : Parser.startsExpr t = false := by
  cases t <;> first | rfl | cases ht

theorem startsOperand_closes {t : Terminal} (ht : t.closes = true) :
    Parser.startsOperand t = false := by
  cases t <;> first | rfl | cases ht

mutual

theorem Expr.edge_closes {t : Terminal} (ht : t.closes = true) : ∀ e : Expr, e.edge t = false
  | .path ts _ => by
      have hsep : (t == Terminal.pathSep) = false := by cases t <;> first | rfl | cases ht
      have hbang : (t == Terminal.bang) = false := by cases t <;> first | rfl | cases ht
      unfold Expr.edge
      split <;> simp_all
  | .cond _ _ no _ => elseEdge_closes ht no
  | .ret none _ => startsExpr_closes ht
  | .ret (some value) _ =>
      Bool.or_eq_false_iff.mpr ⟨value.edge_closes ht, Expr.loops_closes ht _ _⟩
  | .range _ none _ => startsOperand_closes ht
  | .range _ (some upper) _ =>
      Bool.or_eq_false_iff.mpr ⟨upper.edge_closes ht, Expr.loops_closes ht _ _⟩
  | .unary _ operand _ =>
      Bool.or_eq_false_iff.mpr ⟨operand.edge_closes ht, Expr.loops_closes ht _ _⟩
  | .binary _ _ right _ =>
      Bool.or_eq_false_iff.mpr ⟨right.edge_closes ht, Expr.loops_closes ht _ _⟩
  | .field _ _ _ => by
      have hopen : (t == Terminal.lparen) = false := by cases t <;> first | rfl | cases ht
      simp [Expr.edge, hopen]
  | .closure _ _ body _ =>
      Bool.or_eq_false_iff.mpr ⟨body.edge_closes ht, Expr.loops_closes ht _ _⟩
  | .int _ | .float _ | .string _ | .bool _ _ | .macroCall _ _ _ | .paren _ _ | .tuple _ _
  | .array _ _ | .block _ | .whileLoop _ _ _ | .loop _ _ | .forLoop _ _ _ _ | .brk _ | .cont _
  | .call _ _ _ | .methodCall _ _ _ _ | .index _ _ _ => rfl

theorem elseEdge_closes {t : Terminal} (ht : t.closes = true) :
    ∀ no : Option Expr, elseEdge t no = false
  | none => by cases t <;> first | rfl | cases ht
  | some no => no.edge_closes ht

end

theorem Expr.opens_closes {t : Terminal} (ht : t.closes = true) (k : Nat) (e : Expr) :
    e.opens k t = false :=
  opens_eq_false (e.edge_closes ht) (loops_closes ht k e.rank)

end Surface

end ChainLint
