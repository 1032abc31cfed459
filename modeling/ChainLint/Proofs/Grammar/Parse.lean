import ChainLint.Proofs.Grammar.Completeness
import ChainLint.Proofs.Grammar.Extents

namespace ChainLint.Surface

open Cursor Pending

theorem parse_tokens {text : List Char} {m : Module} {tokens : List Token}
    (h : parse text = .ok (m, tokens)) :
    ∃ ws s, Cuts ws ⟨.fileStart, .start, text⟩ s ∧ Lexer.blankRun false s.text = s.text ∧
      SpellsFunctions m.functions ws ∧ tokens = ws.map Lexeme.token := by
  obtain ⟨c, d, hc, hr, rfl⟩ := parse_eq_ok.mp h
  obtain ⟨ws, hws, hs, hd⟩ := functions_sound hr
  have hpast := next_past hc
  have hfrom : c.From ⟨.fileStart, .start, text⟩ := by
    unfold From
    rw [hpast]
    exact hc
  obtain ⟨s, hcuts, hds⟩ := cuts_of_reads hfrom hws hs.ne_eof
  refine ⟨ws, s, hcuts, hds.eof hd, hs, ?_⟩
  rw [hws.past, hpast]
  rfl

theorem parse_cuts {text : List Char} {m : Module} {tokens : List Token}
    (h : parse text = .ok (m, tokens)) :
    ∃ ws s, Cuts ws ⟨.fileStart, .start, text⟩ s ∧ Lexer.blankRun false s.text = s.text ∧
      SpellsFunctions m.functions ws := by
  obtain ⟨ws, s, hcuts, hend, hspells, -⟩ := parse_tokens h
  exact ⟨ws, s, hcuts, hend, hspells⟩

theorem parse_of_cuts {text : List Char} {fs : List Function} {ws : List Lexeme} {s : Pending}
    (h : Cuts ws ⟨.fileStart, .start, text⟩ s) (hs : Lexer.blankRun false s.text = s.text)
    (hfs : SpellsFunctions fs ws) : ∃ tokens, parse text = .ok (⟨fs⟩, tokens) := by
  obtain ⟨c, d, hc, hws, hd⟩ := reads_of_cuts h hs []
  have hlength := h.length_le
  simp only at hlength
  have hdepth : 16 * ws.length < Parser.depthFor text.length := by
    unfold Parser.depthFor
    omega
  exact ⟨_, parse_eq_ok.mpr ⟨c, d, hc, hfs.complete hws hd hdepth, rfl⟩⟩

end ChainLint.Surface
