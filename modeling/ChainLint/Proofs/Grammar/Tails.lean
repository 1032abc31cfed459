import ChainLint.Proofs.Grammar.Parse
import ChainLint.Proofs.Grammar.Words

namespace ChainLint.Surface

open Pending

namespace Tail

def opening : List Word :=
  [⟨.fnWord, ['f', 'n'], .nameOnly⟩, ⟨.name, ['f'], .openParen⟩, ⟨.lparen, ['('], .patternOrClose⟩,
    ⟨.rparen, [')'], .arrowOrBody⟩, ⟨.lbrace, ['\x7b'], .statement⟩]

def closing : Word := ⟨.rbrace, ['\x7d'], .afterBlock⟩

theorem exists_parse {text : List Char} {words : List Word} {rest : List Char}
    (h : Word.Splits (opening ++ (words ++ [closing])) .fileStart text .afterBlock rest)
    (hrest : Lexer.blankRun false rest = rest) :
    ∃ us, us.map Lexeme.word = words ∧ ∀ e, Spells (.expr e) us → ∃ name x y tokens,
      parse text = .ok (⟨[⟨name, [], none, .mk [.exprItem e false e.extent] x, y⟩]⟩, tokens) := by
  obtain ⟨vs, place, hvs, hcuts⟩ := h.cuts .start
  obtain ⟨before, vs, rfl, hbefore, hvs⟩ := List.map_eq_append_iff.mp hvs
  obtain ⟨us, after, rfl, hus, hafter⟩ := List.map_eq_append_iff.mp hvs
  obtain ⟨⟨word, _⟩, before, rfl, hword, hbefore⟩ := List.map_eq_cons_iff.mp hbefore
  obtain ⟨⟨name, _⟩, before, rfl, hname, hbefore⟩ := List.map_eq_cons_iff.mp hbefore
  obtain ⟨⟨lparen, _⟩, before, rfl, hlparen, hbefore⟩ := List.map_eq_cons_iff.mp hbefore
  obtain ⟨⟨rparen, _⟩, before, rfl, hrparen, hbefore⟩ := List.map_eq_cons_iff.mp hbefore
  obtain ⟨⟨lbrace, _⟩, before, rfl, hlbrace, hbefore⟩ := List.map_eq_cons_iff.mp hbefore
  obtain ⟨⟨rbrace, _⟩, after, rfl, hrbrace, hafter⟩ := List.map_eq_cons_iff.mp hafter
  cases List.map_eq_nil_iff.mp hbefore
  cases List.map_eq_nil_iff.mp hafter
  simp only [Lexeme.word, closing, Word.mk.injEq] at hword hname hlparen hrparen hlbrace hrbrace
  obtain ⟨hword, -, rfl⟩ := hword
  obtain ⟨hname, -, rfl⟩ := hname
  obtain ⟨hlparen, -, rfl⟩ := hlparen
  obtain ⟨hrparen, -, rfl⟩ := hrparen
  obtain ⟨hlbrace, -, rfl⟩ := hlbrace
  obtain ⟨hrbrace, -, rfl⟩ := hrbrace
  refine ⟨us, hus, fun e he => ?_⟩
  have hitems : Spells (.items [.exprItem e false e.extent]) (us ++ []) :=
    .itemsExpr he (fun w hw => by cases hw) .itemsNil
  rw [List.append_nil] at hitems
  have hfunction := SpellsFunction.mk hword hname hlparen (.nil hrparen) .none
    (.mkBlock hlbrace hitems hrbrace)
  have hfunctions := SpellsFunctions.cons hfunction .nil
  obtain ⟨tokens, hparse⟩ := parse_of_cuts hcuts hrest (by simpa using hfunctions)
  exact ⟨_, _, _, tokens, hparse⟩

end Tail

end ChainLint.Surface
