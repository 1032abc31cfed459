import ChainLint.Proofs.Grammar.Places
import ChainLint.Proofs.Token.Context

namespace ChainLint

namespace Lexer

theorem blankRun_append {m : Bool} {b y : List Char} (h : blankRun m (b ++ y) = b) (hy : y ≠ [])
    (y' : List Char) : blankRun m (b ++ y') = b ++ blankRun false y' := by
  induction b generalizing m with
  | nil =>
      cases m with
      | false => rfl
      | true =>
          obtain ⟨c, y, rfl⟩ := List.exists_cons_of_ne_nil hy
          cases h
  | cons c b ih =>
      cases m with
      | true =>
          simp only [List.cons_append, blankRun, List.cons.injEq, true_and] at h ⊢
          exact ih h
      | false =>
          rw [List.cons_append, blankRun] at h ⊢
          by_cases hc : isBlank c = true
          · rw [if_pos hc, List.cons.injEq] at h
            rw [if_pos hc, ih h.2]
            rfl
          · rw [if_neg hc] at h ⊢
            by_cases hs : c = '/' ∧ (b ++ y).head? = some '/'
            · rw [if_pos hs, List.cons.injEq] at h
              have hb : b ≠ [] := by
                rintro rfl
                obtain ⟨d, y, rfl⟩ := List.exists_cons_of_ne_nil hy
                cases h.2
              have hs' : c = '/' ∧ (b ++ y').head? = some '/' := by
                obtain ⟨d, b, rfl⟩ := List.exists_cons_of_ne_nil hb
                exact hs
              rw [if_pos hs', ih h.2]
              rfl
            · rw [if_neg hs] at h
              cases h

theorem blankRun_rest {b y : List Char} (h : blankRun false (b ++ y) = b) :
    blankRun false y = [] := by
  by_cases hy : y = []
  · rw [hy]
    rfl
  · have := blankRun_append h hy y
    rw [h] at this
    simpa using this

theorem blankRun_lead {b y y' : List Char} (h : blankRun false (b ++ y) = b) (hy : y ≠ [])
    (hy' : blankRun false y' = []) : blankRun false (b ++ y') = b := by
  rw [blankRun_append h hy, hy', List.append_nil]

theorem blankRun_last {m : Bool} {b y : List Char} (h : blankRun m (b ++ y) = b) (hy : y ≠ [])
    (hb : b ≠ []) : ∃ b' c, b = b' ++ [c] ∧ isBlank c = true := by
  have hempty {m : Bool} (h : blankRun m y = []) : m = false := by
    cases m with
    | false => rfl
    | true =>
        obtain ⟨c, y, rfl⟩ := List.exists_cons_of_ne_nil hy
        cases h
  induction b generalizing m with
  | nil => exact absurd rfl hb
  | cons c b ih =>
      have hstep {m' : Bool} (h : blankRun m' (b ++ y) = b) (hc : b = [] → isBlank c = true) :
          ∃ b' d, c :: b = b' ++ [d] ∧ isBlank d = true := by
        by_cases hbe : b = []
        · exact ⟨[], c, by rw [hbe]; rfl, hc hbe⟩
        · obtain ⟨b', d, he, hd⟩ := ih h hbe
          exact ⟨c :: b', d, by rw [he]; rfl, hd⟩
      cases m with
      | true =>
          simp only [List.cons_append, blankRun, List.cons.injEq, true_and] at h
          refine hstep h fun hbe => ?_
          subst hbe
          have hc : c = '\n' := by simpa using hempty h
          rw [hc]
          rfl
      | false =>
          rw [List.cons_append, blankRun] at h
          by_cases hc : isBlank c = true
          · rw [if_pos hc, List.cons.injEq] at h
            exact hstep h.2 fun _ => hc
          · rw [if_neg hc] at h
            split at h
            · rw [List.cons.injEq] at h
              refine hstep h.2 fun hbe => ?_
              subst hbe
              cases hempty h.2
            · cases h

end Lexer

structure Word where
  terminal : Terminal
  text : List Char
  next : Expectation
  deriving DecidableEq, Repr

def Lexeme.word (w : Lexeme) : Word := ⟨w.terminal, w.token.text, w.next⟩

namespace Word

open Lexer

structure IsFirst (w : Word) (E : Expectation) (cs rest : List Char) : Prop where
  text : cs = blankRun false cs ++ (w.text ++ rest)
  scan : scan E.terminals (w.text ++ rest) = some (w.terminal, w.text)

def Splits : List Word → Expectation → List Char → Expectation → List Char → Prop
  | [], E, cs, F, ds => E = F ∧ cs = ds
  | w :: ws, E, cs, F, ds => ∃ rest, w.IsFirst E cs rest ∧ Splits ws w.next rest F ds

theorem splits_append {ws ws' : List Word} {E F : Expectation} {cs ds : List Char} :
    Splits (ws ++ ws') E cs F ds ↔ ∃ G es, Splits ws E cs G es ∧ Splits ws' G es F ds := by
  induction ws generalizing E cs with
  | nil =>
      constructor
      · intro h
        exact ⟨E, cs, ⟨rfl, rfl⟩, h⟩
      · rintro ⟨G, es, ⟨rfl, rfl⟩, h⟩
        exact h
  | cons w ws ih =>
      simp only [List.cons_append, Splits, ih]
      constructor
      · rintro ⟨rest, hw, G, es, h, h'⟩
        exact ⟨G, es, ⟨rest, hw, h⟩, h'⟩
      · rintro ⟨G, es, ⟨rest, hw, h⟩, h'⟩
        exact ⟨rest, hw, G, es, h, h'⟩

variable {w : Word} {ws : List Word} {E F : Expectation} {b cs ds rest : List Char}

theorem IsFirst.ne_nil (h : w.IsFirst E cs rest) : w.text ≠ [] :=
  (scan_isPrefix h.scan).1

theorem IsFirst.blank (h : w.IsFirst E cs rest) : blankRun false (w.text ++ rest) = [] := by
  have htext := h.text
  generalize hb : blankRun false cs = b at htext
  rw [htext] at hb
  exact blankRun_rest hb

theorem IsFirst.of_blank (hb : blankRun false (b ++ (w.text ++ rest)) = b)
    (hs : Lexer.scan E.terminals (w.text ++ rest) = some (w.terminal, w.text)) :
    w.IsFirst E (b ++ (w.text ++ rest)) rest :=
  ⟨by rw [hb], hs⟩

theorem IsFirst.of_nil (hb : blankRun false (w.text ++ rest) = [])
    (hs : Lexer.scan E.terminals (w.text ++ rest) = some (w.terminal, w.text)) :
    w.IsFirst E (w.text ++ rest) rest :=
  .of_blank (b := []) hb hs

theorem IsFirst.lead (h : w.IsFirst E cs rest) (hcs : blankRun false cs = [])
    (hb : blankRun false (b ++ cs) = b) : w.IsFirst E (b ++ cs) rest := by
  have htext := h.text
  rw [hcs, List.nil_append] at htext
  rw [htext] at hb ⊢
  exact .of_blank hb h.scan

theorem Splits.lead (h : Splits (w :: ws) E cs F ds) (hcs : blankRun false cs = [])
    (hb : blankRun false (b ++ cs) = b) : Splits (w :: ws) E (b ++ cs) F ds := by
  obtain ⟨rest, hw, h⟩ := h
  exact ⟨rest, hw.lead hcs hb, h⟩

theorem Splits.unlead (h : Splits (w :: ws) E (b ++ cs) F ds)
    (hb : blankRun false (b ++ cs) = b) : Splits (w :: ws) E cs F ds := by
  obtain ⟨rest, hw, h⟩ := h
  have htext := hw.text
  rw [hb] at htext
  obtain rfl := List.append_cancel_left htext
  exact ⟨rest, .of_nil hw.blank hw.scan, h⟩

theorem Splits.expect {E' : Expectation} (h : Splits (w :: ws) E cs F ds)
    (hcs : blankRun false cs = [])
    (hs : Lexer.scan E.terminals cs = some (w.terminal, w.text) →
      Lexer.scan E'.terminals cs = some (w.terminal, w.text)) :
    Splits (w :: ws) E' cs F ds := by
  obtain ⟨rest, hw, h⟩ := h
  have htext := hw.text
  rw [hcs, List.nil_append] at htext
  exact ⟨rest, ⟨hw.text, htext ▸ hs (htext ▸ hw.scan)⟩, h⟩

theorem IsFirst.mark {t : Terminal} {G : Expectation} (ht : t ∈ Terminal.marks)
    (hE : t ∈ E.terminals) (rest : List Char) :
    IsFirst ⟨t, t.spelling, G⟩ E (t.spelling ++ rest) rest := by
  obtain ⟨hs, hb⟩ := scan_mark ht hE rest
  exact .of_nil (w := ⟨t, t.spelling, G⟩) hb hs

theorem Splits.cuts (h : Splits ws E cs F ds) (place : Position) :
    ∃ us place', us.map Lexeme.word = ws ∧ Pending.Cuts us ⟨E, place, cs⟩ ⟨F, place', ds⟩ := by
  induction ws generalizing E cs place with
  | nil =>
      obtain ⟨rfl, rfl⟩ := h
      exact ⟨[], place, rfl, rfl⟩
  | cons w ws ih =>
      obtain ⟨rest, hw, h⟩ := h
      let start := place.advance (blankRun false cs)
      obtain ⟨us, place', hus, hcuts⟩ := ih h (start.advance w.text)
      refine ⟨⟨⟨w.terminal, w.text, start, start.advance w.text⟩, w.next⟩ :: us, place', ?_, ?_⟩
      · rw [List.map_cons, hus]
        rfl
      · exact ⟨rest, ⟨hw.text, hw.scan, rfl, rfl⟩, hcuts⟩

end Word

end ChainLint
