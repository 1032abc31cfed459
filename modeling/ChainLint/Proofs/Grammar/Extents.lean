import ChainLint.Proofs.Grammar.Places

namespace ChainLint.Surface

open Cursor Pending

def Placed (a : Nat) : List Lexeme → Nat → Prop
  | [], b => a ≤ b
  | w :: ws, b => a ≤ w.token.start.offset ∧ w.token.start.offset < w.token.stop.offset ∧
      Placed w.token.stop.offset ws b

theorem placed_of_cuts {ws : List Lexeme} {s s' : Pending} (h : s.Cuts ws s') :
    Placed s.place.offset ws s'.place.offset := by
  induction ws generalizing s with
  | nil =>
      cases h
      exact Nat.le_refl _
  | cons w ws ih =>
      obtain ⟨rest, hw, h⟩ := h
      exact ⟨hw.le_start, hw.start_lt_stop, ih h⟩

theorem Placed.le {a b : Nat} {ws : List Lexeme} (h : Placed a ws b) : a ≤ b := by
  induction ws generalizing a with
  | nil => exact h
  | cons w ws ih =>
      obtain ⟨h₁, h₂, h₃⟩ := h
      have := ih h₃
      omega

theorem Placed.mono {a a' b b' : Nat} {ws : List Lexeme} (h : Placed a ws b) (ha : a' ≤ a)
    (hb : b ≤ b') : Placed a' ws b' := by
  induction ws generalizing a a' with
  | nil => exact Nat.le_trans ha (Nat.le_trans h hb)
  | cons w ws ih =>
      obtain ⟨h₁, h₂, h₃⟩ := h
      exact ⟨Nat.le_trans ha h₁, h₂, ih h₃ (Nat.le_refl _)⟩

theorem placed_append {a b : Nat} {ws ws' : List Lexeme} :
    Placed a (ws ++ ws') b ↔ ∃ m, Placed a ws m ∧ Placed m ws' b := by
  induction ws generalizing a with
  | nil =>
      constructor
      · intro h
        exact ⟨a, Nat.le_refl a, h⟩
      · rintro ⟨m, h, h'⟩
        exact h'.mono h (Nat.le_refl b)
  | cons w ws ih =>
      simp only [List.cons_append, Placed, ih]
      constructor
      · rintro ⟨h₁, h₂, m, h₃, h₄⟩
        exact ⟨m, ⟨h₁, h₂, h₃⟩, h₄⟩
      · rintro ⟨m, ⟨h₁, h₂, h₃⟩, h₄⟩
        exact ⟨h₁, h₂, m, h₃, h₄⟩

def stopOf (ws : List Lexeme) : Position := (ws.getLast?.map fun w => w.token.stop).getD .start

def Extent.Of (x : Extent) (ws : List Lexeme) : Prop :=
  ws ≠ [] ∧ x.start = startOf ws ∧ x.stop = stopOf ws

theorem startOf_cons (w : Lexeme) (ws : List Lexeme) : startOf (w :: ws) = w.token.start := rfl

theorem stopOf_append {ws ws' : List Lexeme} (h : ws' ≠ []) : stopOf (ws ++ ws') = stopOf ws' := by
  rw [stopOf, stopOf, List.getLast?_append, List.getLast?_eq_some_getLast h]
  rfl

theorem stopOf_cons {w : Lexeme} {ws : List Lexeme} (h : ws ≠ []) :
    stopOf (w :: ws) = stopOf ws := by
  rw [← List.singleton_append, stopOf_append h]

theorem stopOf_concat (ws : List Lexeme) (w : Lexeme) : stopOf (ws ++ [w]) = w.token.stop :=
  stopOf_append (List.cons_ne_nil w [])

theorem SpellsSegments.stop {ts : List Token} {ws : List Lexeme} {E : Expectation} (t : Token)
    (h : SpellsSegments ts ws) : Parser.lastStop t ts = stopOf (⟨t, E⟩ :: ws) := by
  induction h generalizing t E with
  | nil => rfl
  | @cons sep u us ws hsep hu hus ih =>
      rw [stopOf_cons (List.cons_ne_nil _ _), stopOf_cons (List.cons_ne_nil _ _), ← ih]
      cases us with
      | nil => rfl
      | cons v vs => simp [Parser.lastStop, List.getLast?_cons]

theorem Placed.tight {a b : Nat} {ws : List Lexeme} (h : Placed a ws b) (hne : ws ≠ []) :
    a ≤ (startOf ws).offset ∧ (startOf ws).offset < (stopOf ws).offset ∧
      (stopOf ws).offset ≤ b ∧ Placed (startOf ws).offset ws (stopOf ws).offset := by
  induction ws generalizing a with
  | nil => exact absurd rfl hne
  | cons w ws ih =>
      obtain ⟨h₁, h₂, h₃⟩ := h
      rw [startOf_cons]
      cases ws with
      | nil => exact ⟨h₁, h₂, h₃, Nat.le_refl _, h₂, Nat.le_refl _⟩
      | cons v vs =>
          obtain ⟨h₄, h₅, h₆, h₇⟩ := ih h₃ (List.cons_ne_nil v vs)
          rw [stopOf_cons (List.cons_ne_nil v vs)]
          exact ⟨h₁, by omega, h₆, Nat.le_refl _, h₂, h₇.mono h₄ (Nat.le_refl _)⟩

namespace Extent.Of

theorem ofToken (t : Token) (E : Expectation) : (Extent.ofToken t).Of [⟨t, E⟩] :=
  ⟨List.cons_ne_nil _ _, rfl, rfl⟩

theorem cons {w : Lexeme} {ws : List Lexeme} {stop : Position} (hne : ws ≠ [])
    (h : stop = stopOf ws) : Extent.Of ⟨w.token.start, stop⟩ (w :: ws) :=
  ⟨List.cons_ne_nil _ _, rfl, by rw [h, stopOf_cons hne]⟩

theorem append {x : Extent} {ws ws' : List Lexeme} {stop : Position} (hx : x.Of ws)
    (hne : ws' ≠ []) (h : stop = stopOf ws') : Extent.Of ⟨x.start, stop⟩ (ws ++ ws') :=
  ⟨List.append_ne_nil_of_right_ne_nil _ hne, by rw [hx.2.1, startOf_append hx.1],
    by rw [h, stopOf_append hne]⟩

end Extent.Of

def StopsWith (stop : Position) (ws : List Lexeme) : Prop := ws ≠ [] ∧ stop = stopOf ws

theorem StopsWith.one (w : Lexeme) : StopsWith w.token.stop [w] := ⟨List.cons_ne_nil _ _, rfl⟩

theorem StopsWith.cons {w : Lexeme} {ws : List Lexeme} {stop : Position} (h : StopsWith stop ws) :
    StopsWith stop (w :: ws) :=
  ⟨List.cons_ne_nil _ _, by rw [stopOf_cons h.1, h.2]⟩

theorem StopsWith.append {ws ws' : List Lexeme} {stop : Position} (h : StopsWith stop ws') :
    StopsWith stop (ws ++ ws') :=
  ⟨List.append_ne_nil_of_right_ne_nil _ h.1, by rw [stopOf_append h.1, h.2]⟩

theorem Extent.Of.stops {x : Extent} {ws : List Lexeme} (h : x.Of ws) : StopsWith x.stop ws :=
  ⟨h.1, h.2.2⟩

theorem StopsWith.across {w : Lexeme} {ws : List Lexeme} {stop : Position}
    (h : StopsWith stop ws) : Extent.Of ⟨w.token.start, stop⟩ (w :: ws) :=
  .cons h.1 h.2

theorem StopsWith.after {x : Extent} {ws ws' : List Lexeme} {stop : Position}
    (h : StopsWith stop ws') (hx : x.Of ws) : Extent.Of ⟨x.start, stop⟩ (ws ++ ws') :=
  hx.append h.1 h.2

theorem StopsWith.spanning {ws ws' : List Lexeme} {stop : Position} (h : StopsWith stop ws')
    (hne : ws ≠ []) : Extent.Of ⟨startOf ws, stop⟩ (ws ++ ws') :=
  ⟨List.append_ne_nil_of_right_ne_nil _ h.1, by rw [startOf_append hne],
    by rw [h.2, stopOf_append h.1]⟩

def PatPhrase.Extends (ws : List Lexeme) : PatPhrase → Prop
  | .one p => p.extent.Of ws
  | .elems _ stop => StopsWith stop ws

theorem SpellsPat.extends {p : PatPhrase} {ws : List Lexeme} (h : SpellsPat p ws) :
    p.Extends ws := by
  induction h with
  | binding | wild => exact .ofToken _ _
  | mutBinding => exact (StopsWith.one _).across
  | tuple _ _ ih => exact ih.across
  | elemsNil => exact .one _
  | elemsLast => exact (StopsWith.one _).append
  | elemsCons _ _ _ _ ih => exact ih.cons.append

def TypePhrase.Extends (ws : List Lexeme) : TypePhrase → Prop
  | .one t => t.extent.Of ws
  | .args _ stop | .elems _ stop => StopsWith stop ws

theorem SpellsType.extends {p : TypePhrase} {ws : List Lexeme} (h : SpellsType p ws) :
    p.Extends ws := by
  induction h with
  | name _ hts => exact ⟨List.cons_ne_nil _ _, rfl, hts.stop _⟩
  | applied _ _ _ _ ih => exact ih.cons.append.across
  | ref _ _ ih => exact ih.stops.across
  | mutRef _ _ _ ih => exact ih.stops.cons.across
  | slice => exact (StopsWith.one _).append.across
  | unit => exact (StopsWith.one _).across
  | tuple _ _ _ _ _ ih => exact ih.cons.append.across
  | argsLast | elemsLast => exact (StopsWith.one _).append
  | argsCons _ _ _ _ ih | elemsCons _ _ _ _ ih => exact ih.cons.append
  | elemsNil => exact .one _

theorem SpellsParam.extends {p : Param} {ws : List Lexeme} (h : SpellsParam p ws) :
    p.extent.Of ws := by
  cases h with
  | mk hp ho =>
      have hx : Extent.Of _ _ := hp.extends
      cases ho with
      | none => rwa [List.append_nil]
      | some hc hu => exact StopsWith.after (SpellsType.extends hu).stops.cons hx

def Phrase.Extends (ws : List Lexeme) : Phrase → Prop
  | .expr e => e.extent.Of ws
  | .args _ _ stop => StopsWith stop ws
  | .block b => b.extent.Of ws
  | .letItem i => i.extent.Of ws
  | .items _ | .init _ => True

theorem Spells.extends {p : Phrase} {ws : List Lexeme} (h : Spells p ws) : p.Extends ws := by
  induction h with
  | int | float | string | true | false | brk | cont | retNone | rangeAll => exact .ofToken _ _
  | path _ hts => exact ⟨List.cons_ne_nil _ _, rfl, hts.stop _⟩
  | bracketMacro _ _ _ _ ih | macroCall _ _ _ _ ih => exact ih.cons.cons.across
  | paren => exact (StopsWith.one _).append.across
  | tuple _ _ _ _ _ ih => exact ih.cons.append.across
  | array _ _ ih => exact ih.across
  | block _ ih => exact ih
  | cond _ _ _ _ _ ih | whileLoop _ _ _ _ _ ih => exact ih.stops.append.across
  | condElse _ _ _ _ _ _ _ _ ih => exact ih.stops.cons.append.append.across
  | condElseIf _ _ _ _ _ _ _ _ _ ih => exact ih.stops.cons.append.append.across
  | loop _ _ ih | ret _ _ ih | rangeTo _ _ _ ih => exact ih.stops.across
  | forLoop _ _ _ _ _ _ _ ih => exact ih.stops.append.cons.append.across
  | unary hop _ _ ih => exact ih.stops.spanning (by cases hop <;> simp)
  | binary _ _ _ _ _ _ ihl ihr => exact ihr.stops.cons.after ihl
  | rangeFrom _ _ _ _ ih => exact (StopsWith.one _).after ih
  | range _ _ _ _ _ _ ihl ihu => exact ihu.stops.cons.after ihl
  | call _ _ _ _ _ ihf ih => exact ih.cons.after ihf
  | methodCall _ _ _ _ _ _ _ ihf ih => exact ih.cons.cons.cons.after ihf
  | field _ _ _ _ _ ihf => exact (StopsWith.one _).cons.after ihf
  | index _ _ _ _ _ _ ihf => exact (StopsWith.one _).append.cons.after ihf
  | closure hm hh _ ih =>
      rw [← List.append_assoc]
      exact ih.stops.spanning (List.append_ne_nil_of_right_ne_nil _ hh.ne_nil)
  | argsNil => exact .one _
  | argsLast => exact (StopsWith.one _).append
  | argsCons _ _ _ _ ih => exact ih.cons.append
  | mkBlock => exact (StopsWith.one _).append.across
  | letItem => exact (StopsWith.one _).append.append.append.across
  | itemsNil | itemsEmpty | itemsLet | itemsSemi | itemsExpr | initNone | init => trivial

theorem SpellsSegments.ne_eof {ts : List Token} {ws : List Lexeme} (h : SpellsSegments ts ws) :
    ∀ w ∈ ws, w.terminal ≠ .eof := by
  induction h <;> simp_all [Lexeme.terminal]

theorem SpellsPat.ne_eof {p : PatPhrase} {ws : List Lexeme} (h : SpellsPat p ws) :
    ∀ w ∈ ws, w.terminal ≠ .eof := by
  induction h <;> simp_all [Lexeme.terminal, or_imp]

theorem SpellsType.ne_eof {p : TypePhrase} {ws : List Lexeme} (h : SpellsType p ws) :
    ∀ w ∈ ws, w.terminal ≠ .eof := by
  induction h with
  | name _ hts | applied _ hts =>
      have := hts.ne_eof
      simp_all [Lexeme.terminal, or_imp]
  | _ => simp_all [Lexeme.terminal, or_imp]

theorem SpellsDeclared.ne_eof {o : Option TypeExpr} {ws : List Lexeme}
    (h : SpellsDeclared o ws) : ∀ w ∈ ws, w.terminal ≠ .eof := by
  cases h with
  | none => simp
  | some hc hu =>
      have := hu.ne_eof
      simp_all [Lexeme.terminal, or_imp]

theorem SpellsParam.ne_eof {p : Param} {ws : List Lexeme} (h : SpellsParam p ws) :
    ∀ w ∈ ws, w.terminal ≠ .eof := by
  cases h with
  | mk hp ho =>
      have := hp.ne_eof
      have := ho.ne_eof
      simp_all [Lexeme.terminal, or_imp]

theorem SpellsBars.ne_eof {ps : List Param} {ws : List Lexeme} (h : SpellsBars ps ws) :
    ∀ w ∈ ws, w.terminal ≠ .eof := by
  induction h with
  | last hp hc =>
    have := hp.ne_eof
    simp_all [Lexeme.terminal, or_imp]
  | cons hp hc hps ih =>
    have := hp.ne_eof
    simp_all [Lexeme.terminal, or_imp]

theorem SpellsHead.ne_eof {ps : List Param} {ws : List Lexeme} (h : SpellsHead ps ws) :
    ∀ w ∈ ws, w.terminal ≠ .eof := by
  cases h with
  | params ho hps => 
    have := hps.ne_eof
    simp_all [Lexeme.terminal, or_imp]
  | _ => simp_all [Lexeme.terminal, or_imp]

theorem SpellsPrefix.ne_eof {op : UnaryOp} {ws : List Lexeme} (h : SpellsPrefix op ws) :
    ∀ w ∈ ws, w.terminal ≠ .eof := by
  cases h <;> simp_all [Lexeme.terminal]

theorem operator_ne_eof {l : Level} {t : Terminal} {op : BinaryOp} (h : l.operator? t = some op) :
    t ≠ .eof := by
  rintro rfl
  cases l <;> cases h

def Phrase.Closed : Phrase → Prop
  | .args close _ _ => close ≠ .eof
  | _ => True

theorem Spells.ne_eof {p : Phrase} {ws : List Lexeme} (h : Spells p ws) (hp : p.Closed) :
    ∀ w ∈ ws, w.terminal ≠ .eof := by
  induction h with
  | path _ hts =>
      have := hts.ne_eof
      simp_all [Lexeme.terminal]
  | forLoop _ hpat =>
      have := hpat.ne_eof
      simp_all [Lexeme.terminal, or_imp, Phrase.Closed]
  | unary hop =>
      have := hop.ne_eof
      simp_all [Lexeme.terminal, or_imp, Phrase.Closed]
  | binary hop =>
      have := operator_ne_eof hop
      simp_all [Lexeme.terminal, or_imp, Phrase.Closed]
  | field _ _ _ hd hn =>
      rcases hn with hn | hn <;> simp_all [Lexeme.terminal, or_imp, Phrase.Closed]
  | closure hm hh =>
      have := hh.ne_eof
      cases hm <;> simp_all [Lexeme.terminal, or_imp, Phrase.Closed]
  | letItem _ hpat hd =>
      have := hpat.ne_eof
      have := hd.ne_eof
      simp_all [Lexeme.terminal, or_imp, Phrase.Closed]
  | _ => simp_all [Lexeme.terminal, or_imp, Phrase.Closed]

theorem SpellsParams.ne_eof {ps : List Param} {ws : List Lexeme} (h : SpellsParams ps ws) :
    ∀ w ∈ ws, w.terminal ≠ .eof := by
  induction h with
  | nil hc => simp_all [Lexeme.terminal]
  | last hp hd hc | cons hp hd hc =>
      have := hp.ne_eof
      simp_all [Lexeme.terminal, or_imp]

theorem SpellsFunction.ne_eof {f : Function} {ws : List Lexeme} (h : SpellsFunction f ws) :
    ∀ w ∈ ws, w.terminal ≠ .eof := by
  cases h with
  | mk hw hn ho hps hr hb =>
      have := hps.ne_eof
      have := hb.ne_eof trivial
      cases hr with
      | none => simp_all [Lexeme.terminal, or_imp]
      | some ha hu =>
          have := hu.ne_eof
          simp_all [Lexeme.terminal, or_imp]

theorem SpellsFunctions.ne_eof {fs : List Function} {ws : List Lexeme}
    (h : SpellsFunctions fs ws) : ∀ w ∈ ws, w.terminal ≠ .eof := by
  induction h with
  | nil => simp
  | cons hf hfs ih =>
      have := hf.ne_eof
      simp_all [or_imp]

end ChainLint.Surface
