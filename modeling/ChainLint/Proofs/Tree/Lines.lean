import ChainLint.Proofs.Grammar.Slices
import ChainLint.Proofs.Tree.Placing
import ChainLint.Proofs.Tree.Reads
import ChainLint.Proofs.Tree.Spans
import Mathlib.Data.List.Induction

namespace ChainLint

namespace Position

def ofOffset (text : List Char) (n : Nat) : Position := start.advance (text.take n)

def lastLine (cs : List Char) : List Char := (cs.reverse.takeWhile (· ≠ '\n')).reverse

theorem advance_line (p : Position) (cs : List Char) :
    (p.advance cs).line = p.line + cs.count '\n' := by
  induction cs generalizing p with
  | nil => rfl
  | cons c cs ih =>
      have h : (p.advance (c :: cs)).line = (p.step c).line + cs.count '\n' := ih (p.step c)
      rw [h, List.count_cons, step]
      by_cases hc : c = '\n'
      · simp [hc]
        omega
      · simp [hc]

theorem advance_column (cs : List Char) : (start.advance cs).column = (lastLine cs).length + 1 := by
  induction cs using List.reverseRecOn with
  | nil => rfl
  | append_singleton cs c ih =>
      rw [advance_append, lastLine, List.reverse_append]
      change ((start.advance cs).step c).column = _
      by_cases hc : c = '\n'
      · simp [step, hc]
      · simp [step, hc, ih, lastLine]

theorem ofOffset_offset (text : List Char) (n : Nat) :
    (ofOffset text n).offset = min n text.length := by
  rw [ofOffset, advance_offset, List.length_take]
  exact Nat.zero_add _

theorem ofOffset_line (text : List Char) (n : Nat) :
    (ofOffset text n).line = 1 + (text.take n).count '\n' :=
  advance_line start (text.take n)

theorem ofOffset_column (text : List Char) (n : Nat) :
    (ofOffset text n).column = 1 + (lastLine (text.take n)).length := by
  rw [ofOffset, advance_column, Nat.add_comm]

end Position

namespace Pending

def Located (text : List Char) (s : Pending) : Prop :=
  ∃ before, text = before ++ s.text ∧ s.place = Position.start.advance before

theorem start_located (text : List Char) (E : Expectation) :
    Located text ⟨E, .start, text⟩ := ⟨[], rfl, rfl⟩

theorem place_eq {text before after : List Char} {p : Position} (htext : text = before ++ after)
    (hp : p = Position.start.advance before) :
    p.offset ≤ text.length ∧ p = .ofOffset text p.offset := by
  have hoffset : p.offset = before.length := by
    rw [hp, Position.advance_offset]
    exact Nat.zero_add _
  refine ⟨?_, ?_⟩
  · rw [hoffset, htext, List.length_append]
    omega
  · rw [Position.ofOffset, hoffset, htext, List.take_left, hp]

theorem Located.cutsOne {text rest : List Char} {s : Pending} {t : Token} (hs : s.Located text)
    (h : s.CutsOne t rest) (E : Expectation) :
    (t.start.offset ≤ text.length ∧ t.start = .ofOffset text t.start.offset) ∧
      (t.stop.offset ≤ text.length ∧ t.stop = .ofOffset text t.stop.offset) ∧
        Located text ⟨E, t.stop, rest⟩ := by
  obtain ⟨before, htext, hplace⟩ := hs
  have hstart : t.start = Position.start.advance (before ++ Lexer.blankRun false s.text) := by
    rw [h.start, hplace, Position.advance_append]
  have hstop : t.stop =
      Position.start.advance (before ++ Lexer.blankRun false s.text ++ t.text) := by
    rw [h.stop, hstart, ← Position.advance_append]
  have htext' : text = (before ++ Lexer.blankRun false s.text) ++ (t.text ++ rest) := by
    rw [List.append_assoc, ← h.text, htext]
  have htext'' : text = (before ++ Lexer.blankRun false s.text ++ t.text) ++ rest := by
    rw [htext', ← List.append_assoc]
  exact ⟨place_eq htext' hstart, place_eq htext'' hstop, _, htext'', hstop⟩

end Pending

def Placing.located (text : List Char) : Placing where
  start p := .ofOffset text p.offset
  stop p := .ofOffset text p.offset

theorem Placing.located_lexemes {text : List Char} {ws : List Lexeme} {s s' : Pending}
    (hs : s.Located text) (h : s.Cuts ws s') : ws.map (located text).lexeme = ws := by
  induction ws generalizing s with
  | nil => rfl
  | cons w ws ih =>
      obtain ⟨rest, hw, h⟩ := h
      obtain ⟨hstart, hstop, hrest⟩ := hs.cutsOne hw w.next
      refine List.cons_eq_cons.mpr ⟨?_, ih hrest h⟩
      obtain ⟨⟨k, l, a, b⟩, next⟩ := w
      change Lexeme.mk ⟨k, l, .ofOffset text a.offset, .ofOffset text b.offset⟩ next = _
      rw [← hstart.2, ← hstop.2]

def Span.located (text : List Char) (s : Span) : Span :=
  .between s.file (.ofOffset text s.lo.toNat) (.ofOffset text s.hi.toNat)

namespace Tree

open Build Surface

theorem respans_located (file : Option String) (text : List Char) :
    Respans file (.located text) (Span.located text) Span.inRoot where
  extent _ := rfl
  join hs ht := congrArg₂ Span.join hs ht

theorem place_located {text : List Char} {m : Surface.Module} {tokens : List Token}
    (h : parse text = .ok (m, tokens)) :
    m.functions.map (Function.place (.located text)) = m.functions := by
  obtain ⟨ws, s, hcuts, hblank, hspells⟩ := parse_cuts h
  have hplaced := hspells.place (.located text)
  rw [Placing.located_lexemes (Pending.start_located text _) hcuts] at hplaced
  obtain ⟨tokens', hparse⟩ := parse_of_cuts hcuts hblank hplaced
  rw [h] at hparse
  exact (congrArg Surface.Module.functions (Prod.mk.inj (Except.ok.inj hparse)).1).symm

section

variable {file : Option String} {text : List Char} {fs : List Surface.Function}
  (hplace : fs.map (Function.place (.located text)) = fs)

include hplace

theorem erase_located {ts : List Function}
    (h : ts.map (Function.erase Span.inRoot) = fs.map (Plain.function file)) :
    ts.map (Function.erase (Span.located text)) = ts.map (Function.erase Span.inRoot) := by
  have hroot (f : Span → Span) (hf : f ∘ Span.inRoot = f) :
      ts.map (Function.erase f) = (fs.map (Plain.function file)).map (Function.erase f) := by
    rw [← h, List.map_map]
    refine List.map_congr_left fun t _ => ?_
    rw [Function.comp_apply, Function.erase_erase, hf]
  calc ts.map (Function.erase (Span.located text))
      = (fs.map (Plain.function file)).map (Function.erase (Span.located text)) := hroot _ rfl
    _ = ((fs.map (Function.place (.located text))).map (Plain.function file)).map
          (Function.erase Span.inRoot) := by
        rw [List.map_map, List.map_map, List.map_map]
        refine List.map_congr_left fun f _ => ?_
        exact (Plain.function_place (respans_located file text) f).symm
    _ = (fs.map (Plain.function file)).map (Function.erase Span.inRoot) := by rw [hplace]
    _ = ts.map (Function.erase Span.inRoot) := (hroot _ rfl).symm

theorem moduleSpan_located (hline : (moduleSpan file fs).line ≠ none) :
    (moduleSpan file fs).inRoot = (moduleSpan file fs).located text := by
  have hextent : ∀ f ∈ fs, (Placing.located text).extent f.extent = f.extent := fun f hf =>
    congrArg Function.extent (List.map_inj_left.mp (hplace.trans (List.map_id fs).symm) f hf)
  unfold moduleSpan at hline ⊢
  split
  · next first last hfirst hlast =>
      have hstart := congrArg Extent.start (hextent first (List.mem_of_mem_head? hfirst))
      have hstop := congrArg Extent.stop (hextent last (List.mem_of_getLast? hlast))
      exact (congrArg₂ (Span.between file) hstart hstop).symm
  · next hempty =>
      split at hline
      · next first last hfirst hlast => exact absurd hlast (hempty first last hfirst)
      · exact absurd rfl hline

end

theorem Module.span_located {file : Option String} {text : List Char} {x : Expansions} {m : Module}
    (h : (ofText file text x).1 = .ok m) : ∀ v ∈ (Node.module m).preorder, ∀ s ∈ v.spans,
      s.line ≠ none → s.inRoot = s.located text := by
  intro v hv s hs hline
  obtain ⟨sm, tokens, x', hparse, hgives⟩ := ofText_eq_ok.mp h
  obtain ⟨ts, hts, rfl⟩ := gives_module.mp hgives
  obtain ⟨-, hfunctions⟩ := (meets_functions file sm.functions _).2 _ _ hts
  have hplace := place_located hparse
  rcases Node.mem_preorder_iff.mp hv with rfl | ⟨c, hc, hv⟩
  · cases List.mem_singleton.mp hs
    exact moduleSpan_located hplace hline
  · obtain ⟨t, ht, rfl⟩ := List.mem_map.mp hc
    have hfun := List.map_inj_left.mp (erase_located hplace hfunctions) t ht
    exact (Node.eq_of_erase_eq (n := .function t) (congrArg Node.function hfun) v hv s hs).symm

/-- The lines and columns of a span are those of its two ends: lines are counted by the line feeds
before an end, and columns from the last of them. -/
theorem Module.lines_ofText {file : Option String} {text : List Char} {x : Expansions} {m : Module}
    (h : (ofText file text x).1 = .ok m) : ∀ v ∈ (Node.module m).preorder, ∀ s ∈ v.spans,
      s.line ≠ none → ∃ lo hi : Nat, s.lo = lo ∧ lo ≤ text.length ∧ s.hi = hi ∧ hi ≤ text.length ∧
        s.line = some (1 + (text.take lo).count '\n' : Nat) ∧
        s.column = some (1 + (Position.lastLine (text.take lo)).length : Nat) ∧
        s.endLine = some (1 + (text.take hi).count '\n' : Nat) ∧
        s.endColumn = some (1 + (Position.lastLine (text.take hi)).length : Nat) := by
  intro v hv s hs hline
  have hlocated := span_located h v hv s hs hline
  have hlo := congrArg Span.lo hlocated
  have hhi := congrArg Span.hi hlocated
  have hlines := congrArg Span.line hlocated
  have hcolumns := congrArg Span.column hlocated
  have hendLines := congrArg Span.endLine hlocated
  have hendColumns := congrArg Span.endColumn hlocated
  simp only [Span.inRoot, Span.located, Span.between, Position.ofOffset_offset,
    Position.ofOffset_line, Position.ofOffset_column] at hlo hhi hlines hcolumns hendLines hendColumns
  exact ⟨s.lo.toNat, s.hi.toNat, by omega, by omega, by omega, by omega, hlines, hcolumns, hendLines,
    hendColumns⟩

theorem Module.exists_lines :
    let text := "fn f() \x7b\n\t\"a\nb\"\n\x7d".toList
    ∃ m, (ofText none text .empty).1 = .ok m ∧ ∃ v ∈ (Node.module m).preorder,
      v.span.line = some 2 ∧ v.span.endLine = some 3 ∧ ∃ hi : Nat, v.span.hi = hi ∧
        v.span.endColumn = some (1 + (Position.lastLine (text.take hi)).length : Nat) := by
  intro text
  have hread : ((ofText none text .empty).1.toOption.map fun m =>
      (Node.module m).preorder.any fun v => v.span.line = some 2 && v.span.endLine = some 3) =
        some true := by decide +kernel
  cases h : (ofText none text .empty).1 with
  | error e =>
      rw [h] at hread
      cases hread
  | ok m =>
      rw [h] at hread
      obtain ⟨v, hv, hlines⟩ := List.any_eq_true.mp (Option.some.inj hread)
      obtain ⟨hline, hendLine⟩ := Bool.and_eq_true_iff.mp hlines
      have hline := of_decide_eq_true hline
      obtain ⟨lo, hi, -, -, hhi, -, -, -, -, hcolumn⟩ :=
        lines_ofText h v hv v.span List.mem_cons_self (by rw [hline]; exact Option.some_ne_none _)
      exact ⟨m, rfl, v, hv, hline, of_decide_eq_true hendLine, hi, hhi, hcolumn⟩

end Tree

end ChainLint
