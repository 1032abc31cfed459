import ChainLint.Proofs.Grammar.Calls
import ChainLint.Proofs.Grammar.Parse
import ChainLint.Proofs.Grammar.Placing

namespace ChainLint

open Lexer

theorem Merges.before_rest {a : Nat} {text out : List Char} {cs : List Change}
    (h : Merges a text cs out) (rest : List Char) : Merges a (text ++ rest) cs (out ++ rest) := by
  induction h with
  | done => exact .done
  | @change a kept old text out c cs hlo hhi h ih =>
      simp only [List.append_assoc]
      exact .change hlo hhi ih

open Surface

variable {text : List Char} {ws vs : List Lexeme} {cs : List Change} {s : Pending}

theorem Moves.cuts (h : Moves text ws cs vs) (hcuts : Pending.Cuts ws ⟨.fileStart, .start, text⟩ s)
    {edits : List Edit} (hin : ∀ e ∈ edits, 0 ≤ e.span.lo ∧ 0 ≤ e.span.hi)
    (hperm : (edits.map Edit.change).Perm cs) :
    ∃ (g : Placing) (s' : Pending), s'.text = s.text ∧
      Pending.Cuts (vs.map g.lexeme) ⟨.fileStart, .start, Edit.applyAll text edits⟩ s' := by
  obtain ⟨b, core, out, hre⟩ := (h.rewords ⟨[], rfl, rfl⟩ hcuts).retexts hcuts
  have htext : text = b ++ (core ++ s.text) := hre.text
  have hmerges : Merges 0 text cs (b ++ (out ++ s.text)) := by
    have hcore : Merges (0 + b.length) core cs out := hre.merges
    rw [htext]
    exact .keep (hcore.before_rest s.text)
  have hfixed := Edit.applyAll_eq hin hperm (hre.merges.before hre.sorted) hmerges
  have hsplits : Word.Splits (vs.map Lexeme.word) .fileStart (Edit.applyAll text edits) s.expected
      s.text := by
    rw [hfixed]
    exact hre.splits (.refl _)
  obtain ⟨us, place, hwords, hus⟩ := hsplits.cuts .start
  obtain ⟨hstarts, hstops⟩ := (placed_of_cuts hcuts).nodup
  have hnodup (key : Position × Position → Position)
      (hkey : ((ws.map Lexeme.place).map key).Nodup) : ((vs.map Lexeme.place).map key).Nodup := by
    obtain ⟨l, hl, hsub⟩ := h.places
    exact (hl.map key).nodup_iff.mp ((hsub.map key).nodup hkey)
  have hstarts' := hnodup Prod.fst (by rw [List.map_map]; exact hstarts)
  have hstops' := hnodup Prod.snd (by rw [List.map_map]; exact hstops)
  rw [List.map_map] at hstarts' hstops'
  obtain ⟨g, rfl⟩ := Placing.exists_lexemes hwords hstarts' hstops'
  exact ⟨g, ⟨s.expected, place, s.text⟩, rfl, hus⟩

theorem Moves.parse (h : Moves text ws cs vs) (hcuts : Pending.Cuts ws ⟨.fileStart, .start, text⟩ s)
    (hs : blankRun false s.text = s.text) {edits : List Edit}
    (hin : ∀ e ∈ edits, 0 ≤ e.span.lo ∧ 0 ≤ e.span.hi) (hperm : (edits.map Edit.change).Perm cs)
    {fs : List Function} (hfs : SpellsFunctions fs vs) : ∃ (g : Placing) (tokens : List Token),
      Surface.parse (Edit.applyAll text edits) = .ok (⟨fs.map (Function.place g)⟩, tokens) := by
  obtain ⟨g, s', htext, hvs⟩ := h.cuts hcuts hin hperm
  obtain ⟨tokens, hparse⟩ := parse_of_cuts hvs (by rw [htext, hs]) (hfs.place g)
  exact ⟨g, tokens, hparse⟩

end ChainLint
