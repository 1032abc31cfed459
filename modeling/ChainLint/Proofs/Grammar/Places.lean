import ChainLint.Proofs.Grammar.Soundness

namespace ChainLint

namespace Lexer

theorem classify_mem {expected : List Terminal} {lexeme : List Char} (h : .name ∈ expected) :
    classify expected lexeme ∈ expected := by
  unfold classify
  simp only
  cases hf : (Terminal.words.filter fun t => expected.contains t).find?
      fun t => t.spelling = lexeme with
  | none => exact h
  | some t =>
      have hm := (List.mem_filter.mp (List.mem_of_find?_eq_some hf)).2
      simpa using hm

theorem scan_terminal {expected : List Terminal} {cs lexeme : List Char} {t : Terminal}
    (h : scan expected cs = some (t, lexeme)) : t ∈ expected := by
  simp only [scan, Option.orElse_eq_orElse, Option.orElse_eq_or, Option.or_eq_some_iff] at h
  rcases h with h | ⟨-, h | ⟨-, h | ⟨-, h | ⟨-, h⟩⟩⟩⟩
  · obtain ⟨ht, rfl, -⟩ := ifExpected_eq_some h
    exact ht
  · obtain ⟨⟨u, l⟩, hm, he⟩ := Option.map_eq_some_iff.mp h
    obtain ⟨hu, rfl, -⟩ := ifExpected_eq_some hm
    cases he
    exact classify_mem hu
  · obtain ⟨ht, rfl, -⟩ := ifExpected_eq_some h
    exact ht
  · obtain ⟨ht, rfl, -⟩ := ifExpected_eq_some h
    exact ht
  · obtain ⟨u, hu, he⟩ := Option.map_eq_some_iff.mp h
    cases he
    exact (fixed?_isPrefix hu).1

end Lexer

theorem Expectation.eof_not_mem (E : Expectation) : Terminal.eof ∉ E.terminals := by
  cases E <;> decide

structure Pending where
  expected : Expectation
  place : Position
  text : List Char

namespace Pending

structure CutsOne (s : Pending) (t : Token) (rest : List Char) : Prop where
  text : s.text = Lexer.blankRun false s.text ++ (t.text ++ rest)
  scan : Lexer.scan s.expected.terminals (t.text ++ rest) = some (t.terminal, t.text)
  start : t.start = s.place.advance (Lexer.blankRun false s.text)
  stop : t.stop = t.start.advance t.text

def Cuts : List Lexeme → Pending → Pending → Prop
  | [], s, s' => s = s'
  | w :: ws, s, s' => ∃ rest, s.CutsOne w.token rest ∧ Cuts ws ⟨w.next, w.token.stop, rest⟩ s'

theorem cuts_append {ws ws' : List Lexeme} {s s' : Pending} :
    Cuts (ws ++ ws') s s' ↔ ∃ m, Cuts ws s m ∧ Cuts ws' m s' := by
  induction ws generalizing s with
  | nil => simp [Cuts]
  | cons w ws ih =>
      simp only [List.cons_append, Cuts, ih]
      constructor
      · rintro ⟨rest, hw, m, h, h'⟩
        exact ⟨m, ⟨rest, hw, h⟩, h'⟩
      · rintro ⟨m, ⟨rest, hw, h⟩, h'⟩
        exact ⟨rest, hw, m, h, h'⟩

theorem CutsOne.ne_nil {s : Pending} {t : Token} {rest : List Char} (h : s.CutsOne t rest) :
    t.text ≠ [] :=
  (Lexer.scan_isPrefix h.scan).1

theorem CutsOne.terminal_mem {s : Pending} {t : Token} {rest : List Char}
    (h : s.CutsOne t rest) : t.terminal ∈ s.expected.terminals :=
  Lexer.scan_terminal h.scan

theorem CutsOne.le_start {s : Pending} {t : Token} {rest : List Char} (h : s.CutsOne t rest) :
    s.place.offset ≤ t.start.offset := by
  rw [h.start, Position.advance_offset]
  exact Nat.le_add_right _ _

theorem CutsOne.stop_offset {s : Pending} {t : Token} {rest : List Char}
    (h : s.CutsOne t rest) : t.stop.offset = t.start.offset + t.text.length := by
  rw [h.stop, Position.advance_offset]

theorem CutsOne.start_lt_stop {s : Pending} {t : Token} {rest : List Char}
    (h : s.CutsOne t rest) : t.start.offset < t.stop.offset := by
  have := List.length_pos_iff.mpr h.ne_nil
  rw [h.stop_offset]
  omega

end Pending

namespace Cursor

def From (s : Pending) (c : Cursor) : Prop := next s.expected c.past s.place s.text = .ok c

def after (c : Cursor) (E : Expectation) : Pending := ⟨E, c.token.stop, c.rest⟩

theorem from_of_advance {E : Expectation} {c d : Cursor} (h : c.advance E = .ok d) :
    d.From (c.after E) := by
  have hp := next_past h
  unfold From after
  rw [hp]
  exact h

theorem From.cutsOne {s : Pending} {c : Cursor} (h : c.From s) (hc : c.terminal ≠ .eof) :
    s.CutsOne c.token c.rest := by
  have htext := next_text h
  rw [List.append_assoc] at htext
  unfold From next at h
  simp only at h
  split at h
  · rw [← Except.ok.inj h] at hc
    exact absurd rfl hc
  · next x rest hd =>
      split at h
      · next t lexeme hs =>
          have hp := List.prefix_iff_eq_append.mp (Lexer.scan_isPrefix hs).2
          have htok := congrArg Cursor.token (Except.ok.inj h)
          have hrest := congrArg Cursor.rest (Except.ok.inj h)
          simp only at htok hrest
          rw [← hp, hrest] at hs
          refine ⟨htext.symm, ?_, ?_, ?_⟩
          · rw [← htok]
            exact hs
          · rw [← htok]
          · rw [← htok]
      · split at h <;> cases h

theorem From.eof {s : Pending} {c : Cursor} (h : c.From s) (hc : c.terminal = .eof) :
    Lexer.blankRun false s.text = s.text := by
  have hb := List.prefix_iff_eq_append.mp (Lexer.blankRun_isPrefix false s.text)
  unfold From next at h
  simp only at h
  split at h
  · next hd => rw [hd, List.append_nil] at hb; exact hb
  · split at h
    · next t lexeme hs =>
        have htok := congrArg Cursor.terminal (Except.ok.inj h)
        have hmem := Lexer.scan_terminal hs
        rw [hc] at htok
        simp only [terminal] at htok
        rw [htok] at hmem
        exact absurd hmem s.expected.eof_not_mem
    · split at h <;> cases h

theorem cuts_of_reads {ws : List Lexeme} {s : Pending} {c d : Cursor} (hc : c.From s)
    (h : Reads ws c d) (hne : ∀ w ∈ ws, w.terminal ≠ .eof) : ∃ s', s.Cuts ws s' ∧ d.From s' := by
  induction ws generalizing s c with
  | nil =>
      cases h
      exact ⟨s, rfl, hc⟩
  | cons w ws ih =>
      obtain ⟨hw, c', hadv, h⟩ := h
      obtain ⟨s', hcuts, hd⟩ := ih (from_of_advance hadv) h fun v hv => hne v (.tail w hv)
      have hone := hc.cutsOne (by rw [terminal, hw]; exact hne w (.head ws))
      rw [hw] at hone
      refine ⟨s', ⟨c.rest, hone, ?_⟩, hd⟩
      rw [after, hw] at hcuts
      exact hcuts

theorem next_of_cutsOne {s : Pending} {t : Token} {rest : List Char} (h : s.CutsOne t rest)
    (past : List Token) : next s.expected past s.place s.text = .ok ⟨past, t, rest⟩ := by
  obtain ⟨x, xs, hx⟩ := List.exists_cons_of_ne_nil (List.append_ne_nil_of_left_ne_nil h.ne_nil rest)
  have hdrop : s.text.drop (Lexer.blankRun false s.text).length = x :: xs := by
    have := congrArg (List.drop (Lexer.blankRun false s.text).length) h.text
    rwa [List.drop_left, hx] at this
  have hscan := h.scan
  have hrest : (x :: xs).drop t.text.length = rest := by rw [← hx, List.drop_left]
  rw [hx] at hscan
  unfold next
  simp only [hdrop, hscan, hrest, ← h.start, ← h.stop]

theorem next_of_blank {cs : List Char} (h : Lexer.blankRun false cs = cs) (E : Expectation)
    (past : List Token) (place : Position) :
    next E past place cs = .ok ⟨past, ⟨.eof, [], endPlace past, endPlace past⟩, []⟩ := by
  unfold next
  simp only [h, List.drop_length]

theorem reads_of_cuts {ws : List Lexeme} {s s' : Pending} (h : s.Cuts ws s')
    (hs' : Lexer.blankRun false s'.text = s'.text) (past : List Token) :
    ∃ c d, next s.expected past s.place s.text = .ok c ∧ Reads ws c d ∧ d.terminal = .eof := by
  induction ws generalizing s past with
  | nil =>
      cases h
      exact ⟨_, _, next_of_blank hs' _ _ _, .nil, rfl⟩
  | cons w ws ih =>
      obtain ⟨rest, hw, h⟩ := h
      obtain ⟨c, d, hc, hws, hd⟩ := ih h (w.token :: past)
      exact ⟨_, d, next_of_cutsOne hw past, ⟨rfl, c, hc, hws⟩, hd⟩

end Cursor

theorem Pending.Cuts.stop_offset {ws : List Lexeme} {s s' : Pending} (h : s.Cuts ws s') :
    ∀ w ∈ ws, w.token.stop.offset = w.token.start.offset + w.token.text.length := by
  induction ws generalizing s with
  | nil => exact nofun
  | cons w ws ih =>
      obtain ⟨rest, hw, h⟩ := h
      exact List.forall_mem_cons.mpr ⟨hw.stop_offset, ih h⟩

theorem Pending.Cuts.length_le {ws : List Lexeme} {s s' : Pending} (h : s.Cuts ws s') :
    ws.length + s'.text.length ≤ s.text.length := by
  induction ws generalizing s with
  | nil =>
      cases h
      simp
  | cons w ws ih =>
      obtain ⟨rest, hw, h⟩ := h
      have hpos := List.length_pos_iff.mpr hw.ne_nil
      have htext := congrArg List.length hw.text
      have hrest := ih h
      simp only [List.length_append] at htext hrest
      simp only [List.length_cons]
      omega

end ChainLint
