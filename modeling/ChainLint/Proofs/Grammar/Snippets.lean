import ChainLint.Proofs.Grammar.Borders
import ChainLint.Proofs.Grammar.Rewording

namespace ChainLint

open Lexer

def Closes (ws : List Lexeme) : Prop :=
  ∃ before last, ws = before ++ [last] ∧
    Expectation.terminals.operandFollow ⊆ last.next.terminals

namespace Closes

variable {ws ws' : List Lexeme}

theorem one {t : Token} {E : Expectation}
    (h : Expectation.terminals.operandFollow ⊆ E.terminals) : Closes [⟨t, E⟩] := ⟨[], _, rfl, h⟩

theorem append (ws : List Lexeme) (h : Closes ws') : Closes (ws ++ ws') := by
  obtain ⟨before, last, rfl, h⟩ := h
  exact ⟨ws ++ before, last, by rw [List.append_assoc], h⟩

theorem cons (w : Lexeme) (h : Closes ws) : Closes (w :: ws) := h.append [w]

end Closes

namespace Surface

theorem SpellsSegments.closes {ts : List Token} {ws : List Lexeme} (h : SpellsSegments ts ws)
    {t : Token} {E : Expectation} (hE : Expectation.terminals.operandFollow ⊆ E.terminals) :
    Closes (⟨t, E⟩ :: ws) := by
  induction h generalizing t E with
  | nil => exact .one hE
  | cons hsep ht _ ih => exact (ih (by decide)).cons _ |>.cons _

def Phrase.Closes (ws : List Lexeme) : Phrase → Prop
  | .expr _ | .args _ _ _ | .block _ => ChainLint.Closes ws
  | .items _ | .letItem _ | .init _ => True

theorem Spells.closes {p : Phrase} {ws : List Lexeme} (h : Spells p ws) : p.Closes ws := by
  induction h with
  | int | float | string | true | false | retNone | brk | cont | rangeAll | argsNil =>
      exact .one (by decide)
  | path ht hts => exact hts.closes (by decide)
  | bracketMacro ht hb ho _ ih => exact ((ih.cons _).cons _).cons _
  | macroCall ht hb ho _ ih => exact ((ih.cons _).cons _).cons _
  | paren ho _ hc => exact ((Closes.one (by decide)).append _).cons _
  | tuple ho _ hc _ _ ih => exact ((ih.cons _).append _).cons _
  | array ho _ ih => exact ih.cons _
  | block _ ih => exact ih
  | cond hw _ hedge _ _ ih => exact (ih.append _).cons _
  | condElse hw _ hedge _ ho _ _ _ ih => exact (((ih.cons _).append _).append _).cons _
  | condElseIf hw _ hedge _ ho hw' _ _ _ ih => exact (((ih.cons _).append _).append _).cons _
  | whileLoop hw _ hedge _ _ ih => exact (ih.append _).cons _
  | loop hw _ ih => exact ih.cons _
  | forLoop hw hp hi _ hedge _ _ ih => exact (((ih.append _).cons _).append _).cons _
  | ret hw _ ih => exact ih.cons _
  | unary hop _ hr ih => exact ih.append _
  | binary hop _ hlr hedge _ hrr _ ih => exact (ih.cons _).append _
  | rangeTo hd _ hur ih => exact ih.cons _
  | rangeFrom => exact (Closes.one (by decide)).append _
  | range hd _ hlr hedge _ hur _ ih => exact (ih.cons _).append _
  | call _ hr hedge ho _ _ ih => exact (ih.cons _).append _
  | methodCall _ hr hedge hd hn ho _ _ ih => exact (((ih.cons _).cons _).cons _).append _
  | field => exact ((Closes.one (by decide)).cons _).append _
  | index => exact (((Closes.one (by decide)).append _).cons _).append _
  | closure hm hh _ ih => exact (ih.append _).append _
  | argsLast => exact (Closes.one (by decide)).append _
  | argsCons _ hc _ _ ih => exact (ih.cons _).append _
  | mkBlock => exact ((Closes.one (by decide)).append _).cons _
  | itemsNil | itemsEmpty | itemsLet | itemsSemi | itemsExpr | letItem | initNone | init => trivial

end Surface

def slice (text : List Char) (a b : Nat) : List Char := (text.take b).drop a

theorem slice_append {before core after : List Char} :
    slice (before ++ (core ++ after)) before.length (before.length + core.length) = core := by
  rw [slice, ← List.append_assoc, List.take_left' (by rw [List.length_append]),
    List.drop_left]

namespace Surface

open Terminal Pending

theorem snippet_splits {e : Expr} {ws : List Lexeme} (h : Spells (.expr e) ws) {s s' : Pending}
    (hcuts : s.Cuts ws s') {text before : List Char} (htext : text = before ++ s.text)
    (hplace : s.place.offset = before.length) {F : Expectation} {rest : List Char}
    (hfirst : ∀ w ∈ ws.head?, w.terminal ∈ exprStart →
      Lexer.scan s.expected.terminals
          (slice text (startOf ws).offset (stopOf ws).offset ++ rest) =
        some (w.terminal, w.token.text) →
      Lexer.scan F.terminals (slice text (startOf ws).offset (stopOf ws).offset ++ rest) =
        some (w.terminal, w.token.text)) (hrest : Breaks rest) :
    ∃ G : Expectation, Expectation.terminals.operandFollow ⊆ G.terminals ∧
      blankRun false (slice text (startOf ws).offset (stopOf ws).offset ++ rest) = [] ∧
      Word.Splits (ws.map Lexeme.word) F
        (slice text (startOf ws).offset (stopOf ws).offset ++ rest) G rest := by
  obtain ⟨b, core, out, hre⟩ := (Rewords.refl ws).retexts hcuts
  obtain ⟨w, ws', hws, hw⟩ := h.starts_expr
  obtain ⟨before', last, hlast, hcloses⟩ := h.closes
  obtain rfl : out = core := by
    cases hre.merges
    rfl
  obtain ⟨hstart, hcore, hblank⟩ := hre.first w (by rw [hws]; rfl)
  have hslice : slice text (startOf ws).offset (stopOf ws).offset = out := by
    have hstop : (stopOf ws).offset = s'.place.offset := by
      rw [hlast] at hcuts ⊢
      rw [stopOf_concat, hcuts.last.2]
    have hstartOf : (startOf ws).offset = w.token.start.offset := by rw [hws]; rfl
    rw [hstartOf, hstop, hstart, hre.offset, htext, hre.text, hplace, ← List.length_append,
      ← List.append_assoc]
    exact slice_append
  have hfollows : Follows s'.text rest := .of_breaks hrest
  have hne : ws ≠ [] := by rw [hws]; exact List.cons_ne_nil _ _
  have hnil := hre.blank hfollows hne
  have hsplits := hre.splits hfollows
  have hexpected : s'.expected = last.next := by
    rw [hlast] at hcuts
    exact hcuts.last.1
  refine ⟨s'.expected, hexpected ▸ hcloses, by rwa [hslice], ?_⟩
  rw [hslice] at hfirst ⊢
  have hlead := blankRun_lead hblank (List.append_ne_nil_of_left_ne_nil hcore _) hnil
  have hscan := hfirst w (by rw [hws]; rfl) (starters_subset_exprStart _ hw)
  rw [hws, List.map_cons] at hsplits ⊢
  exact (hsplits.unlead hlead).expect hnil hscan

end Surface

end ChainLint
