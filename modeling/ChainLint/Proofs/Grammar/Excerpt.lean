import ChainLint.Proofs.Grammar.Parse
import ChainLint.Proofs.Grammar.Placing
import ChainLint.Proofs.Grammar.Slices

namespace ChainLint

open Lexer

namespace Position

def after (p x : Position) : Position where
  offset := p.offset + x.offset
  line := p.line + x.line - 1
  column := if x.line = 1 then p.column + x.column - 1 else x.column

theorem after_step (p : Position) {x : Position} (hline : 1 ≤ x.line) (hcolumn : 1 ≤ x.column)
    (c : Char) : p.after (x.step c) = (p.after x).step c := by
  obtain ⟨offset, line, column⟩ := x
  simp only at hline hcolumn
  by_cases hc : c = '\n'
  · have hline' : line + 1 ≠ 1 := by omega
    simp only [after, step, hc, if_true, hline', if_false, Position.mk.injEq, and_true]
    exact ⟨(Nat.add_assoc _ _ _).symm, by omega⟩
  · by_cases h : line = 1
    · simp only [after, step, hc, h, if_false, if_true, Position.mk.injEq, true_and]
      exact ⟨(Nat.add_assoc _ _ _).symm, by omega⟩
    · simp only [after, step, hc, h, if_false, Position.mk.injEq, and_true]
      exact (Nat.add_assoc _ _ _).symm

theorem start_le_advance (cs : List Char) :
    1 ≤ (start.advance cs).line ∧ 1 ≤ (start.advance cs).column := by
  suffices h : ∀ p : Position, 1 ≤ p.line ∧ 1 ≤ p.column →
      1 ≤ (p.advance cs).line ∧ 1 ≤ (p.advance cs).column from h start (by decide)
  induction cs with
  | nil => exact fun p h => h
  | cons c cs ih =>
      intro p h
      refine ih (p.step c) ?_
      unfold step
      split
      · exact ⟨by simp, by simp⟩
      · exact ⟨h.1, by simp⟩

theorem after_advance (p : Position) (cs : List Char) :
    p.after (start.advance cs) = p.advance cs := by
  suffices h : ∀ x : Position, 1 ≤ x.line ∧ 1 ≤ x.column →
      p.after (x.advance cs) = (p.after x).advance cs from h start (by decide)
  induction cs with
  | nil => exact fun _ _ => rfl
  | cons c cs ih =>
      intro x h
      have hstep := after_step p h.1 h.2 c
      have hone : 1 ≤ (x.step c).line ∧ 1 ≤ (x.step c).column := by
        unfold step
        split
        · exact ⟨by simp, by simp⟩
        · exact ⟨h.1, by simp⟩
      change p.after ((x.step c).advance cs) = ((p.after x).step c).advance cs
      rw [ih (x.step c) hone, hstep]

end Position

def Placing.after (p : Position) : Placing := ⟨p.after, p.after⟩

theorem Placing.word_lexeme (g : Placing) (ws : List Lexeme) :
    (ws.map g.lexeme).map Lexeme.word = ws.map Lexeme.word := by
  rw [List.map_map]
  rfl

theorem Lexer.scan_fileStart (rest : List Char) :
    scan Expectation.fileStart.terminals (Terminal.fnWord.spelling ++ rest) =
      some (.fnWord, Terminal.fnWord.spelling) := by
  have hfixed : fixed? Expectation.fileStart.terminals (Terminal.fnWord.spelling ++ rest) =
      some .fnWord := by
    refine fixed?_eq List.mem_cons_self (by decide) (List.prefix_append _ _) fun u hu hne => ?_
    exact absurd (List.mem_singleton.mp hu) hne
  simp [scan, ifExpected, Expectation.terminals] at hfixed ⊢
  rw [hfixed]

namespace Pending

variable {ws : List Lexeme} {s s' : Pending}

theorem Cuts.excerpt (h : s.Cuts ws s') {p : Position} {c x : List Char}
    (htext : s.text = x ++ s'.text) (hplace : s.place = p.advance c) :
    ∃ us place, ws = us.map (Placing.after p).lexeme ∧
      Cuts us ⟨s.expected, Position.start.advance c, x⟩ ⟨s'.expected, place, []⟩ := by
  induction ws generalizing s c x with
  | nil =>
      cases h
      obtain rfl : x = [] := List.self_eq_append_left.mp htext
      exact ⟨[], _, rfl, rfl⟩
  | cons w ws ih =>
      obtain ⟨rest, hw, h⟩ := h
      obtain ⟨x', hrest, -⟩ := h.text
      obtain ⟨⟨terminal, l, start, stop⟩, next⟩ := w
      simp only at hrest
      let b := blankRun false s.text
      have hb : x = b ++ (l ++ x') := by
        refine (List.append_left_inj s'.text).mp ?_
        rw [← htext, List.append_assoc, List.append_assoc, ← hrest]
        exact hw.text
      have hstart : start = p.advance (c ++ b) := by
        rw [Position.advance_append, ← hplace]
        exact hw.start
      have hstop : stop = p.advance (c ++ b ++ l) := by
        rw [Position.advance_append, ← hstart]
        exact hw.stop
      obtain ⟨us, place, rfl, hus⟩ := ih h hrest hstop
      have hfollows : Follows rest x' :=
        ⟨x', [], (List.append_nil x').symm, hrest ▸ List.prefix_append _ _, .inl nofun⟩
      have hlead : blankRun false (b ++ (l ++ rest)) = b := (congrArg _ hw.text).symm
      have hblank := blankRun_rest hlead
      have hlead' : blankRun false x = b := by
        rw [hb]
        exact blankRun_lead hlead (by simp [hw.ne_nil]) (blankRun_follows hfollows hw.ne_nil hblank)
      refine ⟨⟨⟨terminal, l, .advance .start (c ++ b), .advance .start (c ++ b ++ l)⟩, next⟩ :: us,
        place, ?_, x', ⟨?_, ?_, ?_, ?_⟩, hus⟩
      · rw [List.map_cons]
        refine List.cons_eq_cons.mpr ⟨?_, rfl⟩
        change _ = Lexeme.mk ⟨terminal, l, p.after _, p.after _⟩ next
        rw [Position.after_advance, Position.after_advance, ← hstart, ← hstop]
      · change x = blankRun false x ++ (l ++ x')
        rw [hlead']
        exact hb
      · exact scan_follows hfollows hw.scan
      · simp only [hlead', Position.advance_append]
      · simp only [Position.advance_append]

end Pending

namespace Surface

open Pending

theorem SpellsFunctions.split {fs : List Function} {ws : List Lexeme} (h : SpellsFunctions fs ws)
    {f : Function} (hf : f ∈ fs) : ∃ before after wf wb wa, fs = before ++ f :: after ∧
      ws = wb ++ (wf ++ wa) ∧ SpellsFunctions before wb ∧ SpellsFunction f wf ∧
        SpellsFunctions after wa := by
  induction h with
  | nil => cases hf
  | @cons g fs ws ws' hg hfs ih =>
      rcases List.mem_cons.mp hf with rfl | hf
      · exact ⟨[], fs, ws, [], ws', rfl, rfl, .nil, hg, hfs⟩
      · obtain ⟨before, after, wf, wb, wa, rfl, rfl, hb, hf, ha⟩ := ih hf
        exact ⟨g :: before, after, wf, ws ++ wb, wa, rfl, (List.append_assoc _ _ _).symm,
          .cons hg hb, hf, ha⟩

theorem SpellsFunctions.append {fs fs' : List Function} {ws ws' : List Lexeme}
    (h : SpellsFunctions fs ws) (h' : SpellsFunctions fs' ws') :
    SpellsFunctions (fs ++ fs') (ws ++ ws') := by
  induction h with
  | nil => exact h'
  | cons hf _ ih =>
      rw [List.append_assoc]
      exact .cons hf ih

theorem SpellsFunctions.unique {text : List Char} {fs fs' : List Function} {ws : List Lexeme}
    {s : Pending} (hcuts : Cuts ws ⟨.fileStart, .start, text⟩ s)
    (hend : blankRun false s.text = s.text) (h : SpellsFunctions fs ws)
    (h' : SpellsFunctions fs' ws) : fs = fs' := by
  obtain ⟨tokens, hparse⟩ := parse_of_cuts hcuts hend h
  obtain ⟨tokens', hparse'⟩ := parse_of_cuts hcuts hend h'
  exact congrArg Module.functions (Prod.mk.inj (Except.ok.inj (hparse.symm.trans hparse'))).1

theorem parse_excerpt {text : List Char} {fs : List Function} {ws : List Lexeme} {s : Pending}
    (hcuts : Cuts ws ⟨.fileStart, .start, text⟩ s) (hend : blankRun false s.text = s.text)
    (h : SpellsFunctions fs ws) {f : Function} (hf : f ∈ fs) : ∃ alone tokens,
      parse (slice text f.extent.start.offset f.extent.stop.offset) = .ok (⟨[alone]⟩, tokens) ∧
        f = alone.place (.after f.extent.start) := by
  obtain ⟨before, after, wf, wb, wa, rfl, rfl, hb, hspells, ha⟩ := h.split hf
  obtain ⟨s₁, hcb, hrest⟩ := Pending.cuts_append.mp hcuts
  obtain ⟨s₂, hcf, -⟩ := Pending.cuts_append.mp hrest
  have hat : s₁.At text := Pending.At.cuts ⟨[], rfl, rfl⟩ hcb
  obtain ⟨hstarts, hstops⟩ := (placed_of_cuts hcf).nodup
  obtain ⟨us, hus, place, hcut⟩ : ∃ us, wf = us.map (Placing.after f.extent.start).lexeme ∧
      ∃ place, Cuts us ⟨.fileStart, .start,
        slice text f.extent.start.offset f.extent.stop.offset⟩ ⟨s₂.expected, place, []⟩ := by
    cases hspells with
    | @mk word name opening ps result body ws ws' ws'' hw hn ho hps hr hbody =>
        have hstop : s₂.place = body.extent.stop := by
          rw [hcf.place_eq (List.cons_ne_nil _ _), stopOf_cons (List.cons_ne_nil _ _),
            stopOf_cons (List.cons_ne_nil _ _), hbody.extends.2.2, ← List.append_assoc,
            stopOf_cons (List.append_ne_nil_of_right_ne_nil _ hbody.extends.1),
            stopOf_append hbody.extends.1]
        obtain ⟨rest, hone, hcr⟩ := hcf
        obtain ⟨x, hx, hoffset⟩ := hcr.text
        obtain ⟨text', htext, hplace⟩ := hat
        have hfn : word.text = Terminal.fnWord.spelling := by
          have := scan_spelling hone.scan
          rw [show (Lexeme.mk word .nameOnly).token.terminal = .fnWord from hw] at this
          exact this (by decide)
        obtain ⟨us, place, hmoved, hcut⟩ := hcr.excerpt (c := word.text) hx hone.stop
        have hslice : slice text word.start.offset body.extent.stop.offset = word.text ++ x := by
          refine slice_eq text' (blankRun false s₁.text) s₂.text ?_ ?_ ?_
          · simp only at hx
            rw [List.append_assoc, ← hx, ← hone.text, htext]
          · rw [hone.start, Position.advance_offset, hplace]
          · rw [← hstop, hoffset, hone.stop_offset, List.length_append, Nat.add_assoc]
        have hblank : blankRun false (word.text ++ x) = [] := by
          rw [hfn]
          rfl
        refine ⟨⟨⟨word.terminal, word.text, .start, .advance .start word.text⟩, .nameOnly⟩ :: us,
          ?_, place, x, ⟨?_, ?_, ?_, rfl⟩, hcut⟩
        · rw [List.map_cons, ← hmoved]
          refine List.cons_eq_cons.mpr ⟨?_, rfl⟩
          change _ = Lexeme.mk ⟨word.terminal, word.text, _, Position.after _ _⟩ .nameOnly
          rw [Position.after_advance, ← hone.stop]
          rfl
        · simp only [hslice, hblank, List.nil_append]
        · rw [hw, hfn]
          exact scan_fileStart x
        · simp only [hslice, hblank, Position.advance_nil]
  have hwords : us.map Lexeme.word = wf.map Lexeme.word := by rw [hus, Placing.word_lexeme]
  obtain ⟨g, hg⟩ := Placing.exists_lexemes hwords hstarts hstops
  have halone := hspells.place g
  rw [hg] at halone
  obtain ⟨tokens, hparse⟩ := parse_of_cuts hcut rfl (by simpa using SpellsFunctions.cons halone .nil)
  refine ⟨f.place g, tokens, hparse, ?_⟩
  have hback := halone.place (.after f.extent.start)
  rw [← hus] at hback
  have hsame := h.unique hcuts hend (hb.append (.cons hback ha))
  exact (List.cons.inj (List.append_cancel_left hsame)).1

end Surface

end ChainLint
