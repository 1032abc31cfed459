import ChainLint.Proofs.Grammar.Balance
import ChainLint.Proofs.Grammar.Snippets

namespace ChainLint

open Lexer

theorem slice_eq {text core : List Char} {lo hi : Nat} (before b after : List Char)
    (htext : text = before ++ (b ++ (core ++ after))) (hlo : lo = before.length + b.length)
    (hhi : hi = lo + core.length) : slice text lo hi = core := by
  have hsplit : text = (before ++ b) ++ (core ++ after) := by rw [htext, List.append_assoc]
  rw [hsplit, hhi, hlo, ← List.length_append]
  exact slice_append

namespace Pending

def At (text : List Char) (s : Pending) : Prop :=
  ∃ before, text = before ++ s.text ∧ s.place.offset = before.length

variable {text : List Char} {w : Lexeme} {us ws : List Lexeme} {s m s' : Pending}

theorem At.cuts (h : s.At text) (hcuts : s.Cuts ws s') : s'.At text := by
  obtain ⟨before, htext, hplace⟩ := h
  obtain ⟨consumed, hconsumed, hplace'⟩ := hcuts.text
  refine ⟨before ++ consumed, ?_, ?_⟩
  · rw [htext, hconsumed, List.append_assoc]
  · rw [hplace', hplace, List.length_append]

theorem Cuts.place_eq (h : s.Cuts ws s') (hne : ws ≠ []) : s'.place = Surface.stopOf ws := by
  obtain ⟨before, last, hws⟩ := List.eq_nil_or_concat ws |>.resolve_left hne
  rw [List.concat_eq_append] at hws
  rw [hws] at h ⊢
  rw [Surface.stopOf_concat]
  exact h.last.2

theorem characters_of_cuts (hs : s.At text) (h : s.Cuts (w :: ws) s') :
    w.token.text <+: slice text w.token.start.offset s'.place.offset ∧
      parens (slice text w.token.start.offset s'.place.offset) = parensOf (w :: ws) := by
  obtain ⟨before, htext, hplace⟩ := hs
  obtain ⟨consumed, hconsumed, -, hparens⟩ := h.parens
  obtain ⟨rest, hw, hrest⟩ := h
  obtain ⟨tail, htail, hoffset⟩ := hrest.text
  simp only at htail hoffset
  have hsplit := hw.text
  rw [htail] at hsplit
  have hcore : slice text w.token.start.offset s'.place.offset = w.token.text ++ tail := by
    refine slice_eq before (blankRun false s.text) s'.text ?_ ?_ ?_
    · rw [htext, List.append_assoc, ← hsplit]
    · rw [hw.start, Position.advance_offset, hplace]
    · rw [hoffset, hw.stop_offset, List.length_append, Nat.add_assoc]
  refine ⟨hcore ▸ List.prefix_append _ _, ?_⟩
  have hend : Follows rest tail := ⟨tail, [], (List.append_nil _).symm, ⟨_, htail.symm⟩, .inl nofun⟩
  have hblank : blankRun false (w.token.text ++ tail) = [] :=
    blankRun_follows hend hw.ne_nil hw.blank
  have hlead : blankRun false (blankRun false s.text ++ (w.token.text ++ tail)) =
      blankRun false s.text := by
    refine blankRun_lead (y := w.token.text ++ rest) ?_ (by simp [hw.ne_nil]) hblank
    exact (congrArg _ hw.text).symm
  have hall : consumed = blankRun false s.text ++ (w.token.text ++ tail) := by
    refine (List.append_left_inj s'.text).mp ?_
    rw [← hconsumed, List.append_assoc, List.append_assoc]
    exact hsplit
  have := hparens (y := []) (.of_breaks nofun)
  rw [List.append_nil, hall, parens_blank hlead] at this
  rw [hcore, parens, this]
  exact List.append_nil _

theorem parens_before (hs : s.At text) (h : s.Cuts us m) (hw : m.Cuts (w :: ws) s') :
    parens (slice text s.place.offset w.token.start.offset) = parensOf us := by
  obtain ⟨before, htext, hplace⟩ := hs
  obtain ⟨consumed, hconsumed, hoffset, hparens⟩ := h.parens
  obtain ⟨rest, hw, -⟩ := hw
  have hslice : slice text s.place.offset w.token.start.offset =
      consumed ++ blankRun false m.text := by
    refine slice_eq before [] (w.token.text ++ rest) ?_ ?_ ?_
    · rw [htext, hconsumed, List.append_assoc, ← hw.text]
      rfl
    · exact hplace
    · rw [hw.start, Position.advance_offset, hoffset, List.length_append, Nat.add_assoc]
  have hend : Follows m.text (blankRun false m.text) :=
    ⟨blankRun false m.text, [], (List.append_nil _).symm, blankRun_isPrefix _ _, .inl nofun⟩
  have hblank : parensFrom .code (blankRun false m.text) = [] := by
    have := parens_blank (b := blankRun false m.text) (y := []) ?_
    · rwa [List.append_nil] at this
    · exact blankRun_lead (y := w.token.text ++ rest) (congrArg _ hw.text).symm (by simp [hw.ne_nil]) rfl
  rw [hslice, parens, hparens hend, hblank, List.append_nil]

end Pending

end ChainLint
