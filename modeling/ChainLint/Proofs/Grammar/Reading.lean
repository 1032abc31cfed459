import ChainLint.Surface.Parser

namespace ChainLint

structure Lexeme where
  token : Token
  next : Expectation
  deriving DecidableEq, Repr

namespace Lexeme

def terminal (w : Lexeme) : Terminal := w.token.terminal

end Lexeme

namespace Cursor

def terminal (c : Cursor) : Terminal := c.token.terminal

def Reads : List Lexeme → Cursor → Cursor → Prop
  | [], c, d => c = d
  | w :: ws, c, d => c.token = w.token ∧ ∃ c', c.advance w.next = .ok c' ∧ Reads ws c' d

theorem reads_append {ws ws' : List Lexeme} {c d : Cursor} :
    Reads (ws ++ ws') c d ↔ ∃ c', Reads ws c c' ∧ Reads ws' c' d := by
  induction ws generalizing c with
  | nil => simp [Reads]
  | cons w ws ih =>
      simp only [List.cons_append, Reads, ih]
      constructor
      · rintro ⟨hw, c₁, hc, c₂, h, h'⟩
        exact ⟨c₂, ⟨hw, c₁, hc, h⟩, h'⟩
      · rintro ⟨c₂, ⟨hw, c₁, hc, h⟩, h'⟩
        exact ⟨hw, c₁, hc, c₂, h, h'⟩

theorem Reads.append {ws ws' : List Lexeme} {c d e : Cursor} (h : Reads ws c d)
    (h' : Reads ws' d e) : Reads (ws ++ ws') c e :=
  reads_append.mpr ⟨d, h, h'⟩

theorem Reads.nil {c : Cursor} : Reads [] c c := rfl

theorem Reads.cons {c d e : Cursor} {E : Expectation} {ws : List Lexeme} (hc : c.advance E = .ok d)
    (h : Reads ws d e) : Reads (⟨c.token, E⟩ :: ws) c e :=
  ⟨rfl, d, hc, h⟩

theorem Reads.one {c d : Cursor} {E : Expectation} (hc : c.advance E = .ok d) :
    Reads [⟨c.token, E⟩] c d :=
  .cons hc .nil

theorem Reads.head {w : Lexeme} {ws : List Lexeme} {c d : Cursor} (h : Reads (w :: ws) c d) :
    c.token = w.token :=
  h.1

theorem Reads.terminal_head {w : Lexeme} {ws : List Lexeme} {c d : Cursor}
    (h : Reads (w :: ws) c d) : c.terminal = w.terminal := by
  rw [terminal, h.head, Lexeme.terminal]

theorem Reads.past {ws : List Lexeme} {c d : Cursor} (h : Reads ws c d) :
    d.past.reverse = c.past.reverse ++ ws.map Lexeme.token := by
  induction ws generalizing c with
  | nil =>
      cases h
      simp
  | cons w ws ih =>
      obtain ⟨hw, c', hadv, h⟩ := h
      rw [ih h, next_past hadv, hw, List.reverse_cons, List.append_assoc]
      rfl

end Cursor

namespace Surface.Parser

variable {α β : Type} {c d : Cursor}

def Runs (p : Parser α) (c : Cursor) (a : α) (d : Cursor) : Prop := p c = .ok (a, d)

theorem runs_bind {p : Parser α} {f : α → Parser β} {b : β} :
    Runs (p >>= f) c b d ↔ ∃ a c', Runs p c a c' ∧ Runs (f a) c' b d := by
  change (p c >>= fun r => f r.1 r.2) = .ok (b, d) ↔ _
  unfold Runs
  cases p c with
  | error e =>
      constructor
      · intro h
        cases h
      · rintro ⟨a, c', h, -⟩
        cases h
  | ok r =>
      constructor
      · intro h
        exact ⟨r.1, r.2, rfl, h⟩
      · rintro ⟨a, c', h, h'⟩
        cases h
        exact h'

theorem peek_bind {f : Terminal → Parser α} : (peek >>= f) c = f c.terminal c := rfl

theorem runs_pure {a b : α} : Runs (pure a) c b d ↔ a = b ∧ c = d := by
  constructor
  · intro h
    cases h
    exact ⟨rfl, rfl⟩
  · rintro ⟨rfl, rfl⟩
    rfl

theorem runs_peek_bind {f : Terminal → Parser α} {a : α} :
    Runs (peek >>= f) c a d ↔ Runs (f c.terminal) c a d :=
  Iff.rfl

theorem runs_place_bind {f : Position → Parser α} {a : α} :
    Runs (place >>= f) c a d ↔ Runs (f c.token.start) c a d :=
  Iff.rfl

theorem not_runs_fail {a : α} : ¬ Runs fail c a d := by
  intro h
  cases h

theorem runs_shift {E : Expectation} {t : Token} :
    Runs (shift E) c t d ↔ c.token = t ∧ c.advance E = .ok d := by
  unfold Runs shift
  cases c.advance E with
  | error e =>
      constructor
      · intro h
        cases h
      · rintro ⟨-, h⟩
        cases h
  | ok c' =>
      constructor
      · intro h
        cases h
        exact ⟨rfl, rfl⟩
      · rintro ⟨rfl, h⟩
        cases h
        rfl

theorem runs_shift_bind {E : Expectation} {f : Token → Parser α} {a : α} :
    Runs (shift E >>= f) c a d ↔ ∃ c', c.advance E = .ok c' ∧ Runs (f c.token) c' a d := by
  simp only [runs_bind, runs_shift]
  constructor
  · rintro ⟨t, c', ⟨rfl, hc⟩, h⟩
    exact ⟨c', hc, h⟩
  · rintro ⟨c', hc, h⟩
    exact ⟨c.token, c', ⟨rfl, hc⟩, h⟩

theorem runs_expect {t : Terminal} {E : Expectation} {u : Token} :
    Runs (expect t E) c u d ↔ c.terminal = t ∧ c.token = u ∧ c.advance E = .ok d := by
  unfold expect
  rw [runs_peek_bind]
  split
  · next ht => simp only [runs_shift, ht, true_and]
  · next ht => simp only [not_runs_fail, ht, false_and]

theorem runs_expect_bind {t : Terminal} {E : Expectation} {f : Token → Parser α} {a : α} :
    Runs (expect t E >>= f) c a d ↔
      c.terminal = t ∧ ∃ c', c.advance E = .ok c' ∧ Runs (f c.token) c' a d := by
  simp only [runs_bind, runs_expect]
  constructor
  · rintro ⟨u, c', ⟨ht, rfl, hc⟩, h⟩
    exact ⟨ht, c', hc, h⟩
  · rintro ⟨ht, c', hc, h⟩
    exact ⟨c.token, c', ⟨ht, rfl, hc⟩, h⟩

theorem bind_eq {p : Parser α} {f : α → Parser β} {a : α} (h : Runs p c a d) :
    (p >>= f) c = f a d := by
  change (p c >>= fun r => f r.1 r.2) = _
  rw [h]
  rfl

theorem Runs.done {a : α} : Runs (pure a) c a c := rfl

theorem Runs.bind {p : Parser α} {f : α → Parser β} {a : α} {b : β} {c' : Cursor}
    (h : Runs p c a c') (h' : Runs (f a) c' b d) : Runs (p >>= f) c b d :=
  runs_bind.mpr ⟨a, c', h, h'⟩

theorem Runs.shift {E : Expectation} {f : Token → Parser α} {a : α} {c' : Cursor}
    (hc : c.advance E = .ok c') (h : Runs (f c.token) c' a d) :
    Runs (Parser.shift E >>= f) c a d :=
  runs_shift_bind.mpr ⟨c', hc, h⟩

theorem Runs.expect {t : Terminal} {E : Expectation} {f : Token → Parser α} {a : α} {c' : Cursor}
    (ht : c.token.terminal = t) (hc : c.advance E = .ok c') (h : Runs (f c.token) c' a d) :
    Runs (Parser.expect t E >>= f) c a d :=
  runs_expect_bind.mpr ⟨ht, c', hc, h⟩

end Surface.Parser

end ChainLint
