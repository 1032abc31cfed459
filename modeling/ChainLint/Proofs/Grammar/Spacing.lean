import ChainLint.Proofs.Grammar.Parse
import ChainLint.Proofs.Grammar.Placing
import ChainLint.Proofs.Grammar.Slices

namespace ChainLint

open Lexer

def spread (text : List Char) (gap : Token → List Char) : Nat → List Token → List Char
  | place, [] => text.drop place
  | place, t :: ts =>
      slice text place t.stop.offset ++ (gap t ++ spread text gap t.stop.offset ts)

def spaced (text : List Char) (tokens : List Token) (first : List Char) (gap : Token → List Char) :
    List Char := first ++ spread text gap 0 tokens

def Blank (cs : List Char) : Prop := ∀ c ∈ cs, isBlank c = true

instance (cs : List Char) : Decidable (Blank cs) := List.decidableBAll _ cs

namespace Lexer

theorem isBreak_of_isBlank {c : Char} (h : isBlank c = true) : isBreak c = true := by
  simp [isBreak, h]

theorem blankRun_blank {b : List Char} (h : Blank b) (cs : List Char) :
    blankRun false (b ++ cs) = b ++ blankRun false cs := by
  induction b with
  | nil => rfl
  | cons c b ih =>
      obtain ⟨hc, hb⟩ := List.forall_mem_cons.mp h
      rw [List.cons_append, blankRun, if_pos hc, ih hb, List.cons_append]

theorem Follows.blank {a b gap : List Char} (h : Follows a b) (hgap : Blank gap) :
    Follows a (gap ++ b) := by
  cases gap with
  | nil => exact h
  | cons c gap =>
      refine .of_breaks fun d hd => ?_
      cases hd
      exact isBreak_of_isBlank (hgap c List.mem_cons_self)

end Lexer

namespace Pending

variable {text : List Char} {gap : Token → List Char} {ws : List Lexeme} {s s' : Pending}

theorem At.drop (h : s.At text) : text.drop s.place.offset = s.text := by
  obtain ⟨before, htext, hplace⟩ := h
  rw [htext, hplace, List.drop_left]

theorem At.spread_cons (h : s.At text) {w : Lexeme} {rest : List Char}
    (hw : s.CutsOne w.token rest) (ts : List Token) :
    spread text gap s.place.offset (w.token :: ts) = blankRun false s.text ++ (w.token.text ++
      (gap w.token ++ spread text gap w.token.stop.offset ts)) := by
  obtain ⟨before, htext, hplace⟩ := h
  have hslice : slice text s.place.offset w.token.stop.offset =
      blankRun false s.text ++ w.token.text := by
    refine slice_eq before [] rest ?_ hplace ?_
    · rw [htext, List.append_assoc, ← hw.text]
      rfl
    · rw [hw.stop_offset, hw.start, Position.advance_offset, List.length_append, Nat.add_assoc]
  rw [spread, hslice, List.append_assoc]

theorem At.rest (h : s.At text) {w : Lexeme} {rest : List Char} (hw : s.CutsOne w.token rest) :
    At text ⟨w.next, w.token.stop, rest⟩ := by
  have hone : s.Cuts [w] ⟨w.next, w.token.stop, rest⟩ := ⟨rest, hw, rfl⟩
  exact h.cuts hone

theorem Cuts.follows_spread (hgap : ∀ t, Blank (gap t)) (hs : s.At text) (h : s.Cuts ws s') :
    Follows s.text (spread text gap s.place.offset (ws.map Lexeme.token)) := by
  induction ws generalizing s with
  | nil =>
      rw [List.map_nil, spread, hs.drop]
      exact .refl _
  | cons w ws ih =>
      obtain ⟨rest, hw, h⟩ := h
      have hrest := (ih (hs.rest hw) h).blank (hgap w.token)
      have htext : s.text = (blankRun false s.text ++ w.token.text) ++ rest := by
        rw [List.append_assoc]
        exact hw.text
      rw [List.map_cons, hs.spread_cons hw, ← List.append_assoc]
      have := hrest.append (blankRun false s.text ++ w.token.text)
      rwa [← htext] at this

theorem Cuts.splits_spread (hgap : ∀ t, Blank (gap t)) (hs : s.At text) (h : s.Cuts ws s')
    (hend : blankRun false s'.text = s'.text) {first : List Char} (hfirst : Blank first) :
    ∃ ds, blankRun false ds = ds ∧ Word.Splits (ws.map Lexeme.word) s.expected
      (first ++ spread text gap s.place.offset (ws.map Lexeme.token)) s'.expected ds := by
  induction ws generalizing s first with
  | nil =>
      cases h
      refine ⟨_, ?_, rfl, rfl⟩
      rw [List.map_nil, spread, hs.drop, blankRun_blank hfirst, hend]
  | cons w ws ih =>
      obtain ⟨rest, hw, h⟩ := h
      obtain ⟨ds, hds, hsplits⟩ := ih (hs.rest hw) h (hgap w.token)
      refine ⟨ds, hds, ?_⟩
      have hfollows : Follows rest _ := (h.follows_spread hgap (hs.rest hw)).blank (hgap w.token)
      rw [List.map_cons, List.map_cons, hs.spread_cons hw]
      generalize gap w.token ++ spread text gap w.token.stop.offset (ws.map Lexeme.token) = rest'
        at hfollows hsplits
      have hlead : blankRun false (blankRun false s.text ++ (w.token.text ++ rest)) =
          blankRun false s.text := (congrArg _ hw.text).symm
      have hblank := blankRun_rest hlead
      have hlead' : blankRun false (first ++ (blankRun false s.text ++ (w.token.text ++ rest'))) =
          first ++ blankRun false s.text := by
        rw [blankRun_blank hfirst, blankRun_lead hlead (by simp [hw.ne_nil])
          (blankRun_follows hfollows hw.ne_nil hblank)]
      rw [← List.append_assoc] at hlead' ⊢
      exact ⟨rest', .of_blank (w := w.word) hlead' (scan_follows hfollows hw.scan), hsplits⟩

end Pending

namespace Surface

open Cursor Pending

theorem parse_spaced {text first : List Char} {gap : Token → List Char} {m : Module}
    {tokens : List Token} (h : parse text = .ok (m, tokens)) (hfirst : Blank first)
    (hgap : ∀ t, Blank (gap t)) : ∃ (g : Placing) (tokens' : List Token),
      parse (spaced text tokens first gap) = .ok (⟨m.functions.map (Function.place g)⟩, tokens') := by
  obtain ⟨ws, s, hcuts, hend, hspells, rfl⟩ := parse_tokens h
  obtain ⟨ds, hds, hsplits⟩ := hcuts.splits_spread hgap ⟨[], rfl, rfl⟩ hend hfirst
  obtain ⟨us, place, hwords, hus⟩ := hsplits.cuts .start
  obtain ⟨hstarts, hstops⟩ := (placed_of_cuts hcuts).nodup
  obtain ⟨g, rfl⟩ := Placing.exists_lexemes hwords hstarts hstops
  obtain ⟨tokens', hparse⟩ := parse_of_cuts hus hds (hspells.place g)
  exact ⟨g, tokens', hparse⟩

end Surface

end ChainLint
