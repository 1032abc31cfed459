import ChainLint.Proofs.Grammar.Rewording
import ChainLint.Proofs.Token.Parens

namespace ChainLint

open Lexer

def parensOf (ws : List Lexeme) : List Char := ws.flatMap fun w => paren w.terminal

@[simp] theorem parensOf_nil : parensOf [] = [] := rfl

@[simp] theorem parensOf_cons (w : Lexeme) (ws : List Lexeme) :
    parensOf (w :: ws) = paren w.terminal ++ parensOf ws := List.flatMap_cons

@[simp] theorem parensOf_append (ws ws' : List Lexeme) :
    parensOf (ws ++ ws') = parensOf ws ++ parensOf ws' := List.flatMap_append

def Balanced (ps : List Char) : Prop := ∀ n, depth n ps = some n

namespace Balanced

theorem nil : Balanced [] := fun _ => rfl

theorem append {a b : List Char} (ha : Balanced a) (hb : Balanced b) : Balanced (a ++ b) := by
  intro n
  rw [depth_append, ha n]
  exact hb n

theorem before {a : List Char} (ha : Balanced a) (n : Nat) (b : List Char) :
    depth n (a ++ b) = depth n b := by
  rw [depth_append, ha n]
  rfl

end Balanced

namespace Pending

theorem Cuts.parens {ws : List Lexeme} {s s' : Pending} (h : s.Cuts ws s') :
    ∃ consumed, s.text = consumed ++ s'.text ∧
      s'.place.offset = s.place.offset + consumed.length ∧
      ∀ {y}, Follows s'.text y →
        parensFrom .code (consumed ++ y) = parensOf ws ++ parensFrom .code y := by
  induction ws generalizing s with
  | nil =>
      cases h
      exact ⟨[], rfl, rfl, fun _ => rfl⟩
  | cons w ws ih =>
      obtain ⟨rest, hw, h⟩ := h
      obtain ⟨consumed, htext, hplace, hparens⟩ := ih h
      simp only at htext hplace
      refine ⟨blankRun false s.text ++ (w.token.text ++ consumed), ?_, ?_, fun {y} hy => ?_⟩
      · have := hw.text
        rw [htext] at this
        rw [List.append_assoc, List.append_assoc]
        exact this
      · rw [hplace, hw.stop_offset, hw.start, Position.advance_offset]
        simp only [List.length_append]
        omega
      · have hfollows : Follows rest (consumed ++ y) := by
          rw [htext]
          exact hy.append consumed
        have hold : blankRun false (blankRun false s.text ++ (w.token.text ++ rest)) =
            blankRun false s.text := by
          rw [← hw.text]
        have hblank := blankRun_lead hold (by simp [hw.ne_nil])
          (blankRun_follows hfollows hw.ne_nil hw.blank)
        rw [List.append_assoc, List.append_assoc, parens_blank hblank,
          token_parens hw.scan hw.blank hfollows, hparens hy, parensOf_cons, List.append_assoc]
        rfl

end Pending

namespace Surface

theorem SpellsSegments.balanced {ts : List Token} {ws : List Lexeme} (h : SpellsSegments ts ws) :
    parensOf ws = [] := by
  induction h with
  | nil => rfl
  | cons hsep ht _ ih => simp [Lexeme.terminal, hsep, ht, ih, paren]

def PatPhrase.closes : PatPhrase → List Char
  | .one _ => []
  | .elems _ _ => [')']

theorem SpellsPat.depth {p : PatPhrase} {ws : List Lexeme} (h : SpellsPat p ws) (n : Nat) :
    depth n (parensOf ws) = depth n p.closes := by
  induction h generalizing n with
  | _ => simp_all [Lexeme.terminal, paren, PatPhrase.closes, depth_append, Lexer.depth]

def TypePhrase.closes : TypePhrase → List Char
  | .elems _ _ => [')']
  | _ => []

theorem SpellsType.depth {p : TypePhrase} {ws : List Lexeme} (h : SpellsType p ws) (n : Nat) :
    depth n (parensOf ws) = depth n p.closes := by
  induction h generalizing n with
  | name ht hts =>
      have := hts.balanced
      simp_all [Lexeme.terminal, paren, TypePhrase.closes, Lexer.depth]
  | applied ht hts =>
      have := hts.balanced
      simp_all [Lexeme.terminal, paren, TypePhrase.closes, Lexer.depth]
  | _ => simp_all [Lexeme.terminal, paren, TypePhrase.closes, depth_append, Lexer.depth]

theorem SpellsPat.balanced {p : Pat} {ws : List Lexeme} (h : SpellsPat (.one p) ws) :
    Balanced (parensOf ws) :=
  h.depth

theorem SpellsType.balanced {u : TypeExpr} {ws : List Lexeme} (h : SpellsType (.one u) ws) :
    Balanced (parensOf ws) :=
  h.depth

theorem SpellsDeclared.balanced {o : Option TypeExpr} {ws : List Lexeme}
    (h : SpellsDeclared o ws) : Balanced (parensOf ws) := by
  cases h with
  | none => exact .nil
  | some hc hu => simpa [Lexeme.terminal, hc, paren] using hu.balanced

theorem SpellsParam.balanced {p : Param} {ws : List Lexeme} (h : SpellsParam p ws) :
    Balanced (parensOf ws) := by
  cases h with
  | mk hp ho =>
      rw [parensOf_append]
      exact hp.balanced.append ho.balanced

theorem SpellsBars.balanced {ps : List Param} {ws : List Lexeme} (h : SpellsBars ps ws) :
    Balanced (parensOf ws) := by
  induction h with
  | last hp hc => simpa [Lexeme.terminal, hc, paren] using hp.balanced
  | cons hp hc hps ih => simpa [Lexeme.terminal, hc, paren] using hp.balanced.append ih

theorem SpellsHead.balanced {ps : List Param} {ws : List Lexeme} (h : SpellsHead ps ws) :
    Balanced (parensOf ws) := by
  cases h with
  | joined hb => simpa [Lexeme.terminal, hb, paren] using Balanced.nil
  | empty ho hc => simpa [Lexeme.terminal, ho, hc, paren] using Balanced.nil
  | params ho hps => simpa [Lexeme.terminal, ho, paren] using hps.balanced

theorem SpellsPrefix.parens {op : UnaryOp} {ws : List Lexeme} (h : SpellsPrefix op ws) :
    parensOf ws = [] := by
  cases h <;> simp_all [Lexeme.terminal, paren]

theorem SpellsMove.parens {isMove : Bool} {ws : List Lexeme} (h : SpellsMove isMove ws) :
    parensOf ws = [] := by
  cases h <;> simp_all [Lexeme.terminal, paren]

theorem operator_paren {l : Level} {t : Terminal} {op : BinaryOp} (h : l.operator? t = some op) :
    paren t = [] := by
  cases t <;> first | rfl | (cases l <;> cases h)

def Phrase.closes : Phrase → List Char
  | .args close _ _ => paren close
  | _ => []

theorem Spells.depth {p : Phrase} {ws : List Lexeme} (h : Spells p ws) (n : Nat) :
    depth n (parensOf ws) = depth n p.closes := by
  induction h generalizing n with
  | path ht hts =>
      have := hts.balanced
      simp_all [Lexeme.terminal, Lexer.paren, Phrase.closes, Lexer.depth]
  | forLoop hw hp =>
      have := hp.balanced
      simp_all [Lexeme.terminal, Lexer.paren, Phrase.closes, depth_append, Lexer.depth, Balanced]
  | unary hop =>
      have := hop.parens
      simp_all [Phrase.closes, Lexer.depth]
  | binary hop =>
      have := operator_paren hop
      simp_all [Lexeme.terminal, Phrase.closes, depth_append, Lexer.depth]
  | field hf hr hedge hd hn =>
      rcases hn with hn | hn <;>
        simp_all [Lexeme.terminal, Lexer.paren, Phrase.closes, Lexer.depth]
  | closure hm hh =>
      have := hm.parens
      have := hh.balanced
      simp_all [Phrase.closes, depth_append, Lexer.depth, Balanced]
  | letItem hw hp hd =>
      have := hp.balanced
      have := hd.balanced
      simp_all [Lexeme.terminal, Lexer.paren, Phrase.closes, depth_append, Lexer.depth, Balanced]
  | _ => simp_all [Lexeme.terminal, Lexer.paren, Phrase.closes, depth_append, Lexer.depth]

theorem Spells.balanced {p : Phrase} {ws : List Lexeme} (h : Spells p ws)
    (hp : p.closes = [] := by rfl) : Balanced (parensOf ws) := by
  intro n
  rw [h.depth n, hp]
  rfl

end Surface

end ChainLint
