import ChainLint.Proofs.Grammar.Tails
import ChainLint.Proofs.Token.Alone

namespace ChainLint

open Lexer Terminal

namespace Word

structure Stands (w : Word) (E : Expectation) : Prop where
  scan : scan E.terminals w.text = some (w.terminal, w.text)
  blank : blankRun false w.text = []

def Row : List Word → Expectation → Expectation → Prop
  | [], E, F => E = F
  | w :: ws, E, F => w.Stands E ∧ Row ws w.next F

theorem row_append {ws ws' : List Word} {E G : Expectation} :
    Row (ws ++ ws') E G ↔ ∃ F, Row ws E F ∧ Row ws' F G := by
  induction ws generalizing E with
  | nil => simp [Row]
  | cons w ws ih => simp [Row, ih, and_assoc]

theorem Stands.mark {t : Terminal} {E F : Expectation} (ht : t ∈ symbols) (hE : t ∈ E.terminals) :
    Stands ⟨t, t.spelling, F⟩ E :=
  ⟨(scan_symbol ht hE).1, (scan_symbol ht hE).2⟩

theorem Row.splits {ws : List Word} {E F : Expectation} (h : Row ws E F) (rest : List Char) :
    Splits ws E (ws.flatMap (fun w => ' ' :: w.text) ++ ' ' :: rest) F (' ' :: rest) := by
  induction ws generalizing E with
  | nil => exact ⟨h, rfl⟩
  | cons w ws ih =>
      obtain ⟨hw, hws⟩ := h
      have hbreaks : Breaks (ws.flatMap (fun w => ' ' :: w.text) ++ ' ' :: rest) := by
        cases ws <;> simp [Breaks, isBreak, isBlank]
      have hfollows := Follows.of_breaks (a := []) hbreaks
      have hne : w.text ≠ [] := (scan_isPrefix hw.scan).1
      have hscan := scan_follows hfollows (by rw [List.append_nil]; exact hw.scan)
      have hblank := blankRun_follows hfollows hne (by rw [List.append_nil]; exact hw.blank)
      refine ⟨_, ⟨?_, hscan⟩, ih hws⟩
      rw [List.flatMap_cons, List.append_assoc, List.cons_append, blankRun, if_pos (by decide), hblank]
      rfl

end Word

def Written (E : Expectation) (ts : List (List Char)) (F : Expectation)
    (P : List Lexeme → Prop) : Prop :=
  ∃ ws, ws.map Word.text = ts ∧ Word.Row ws E F ∧ ∀ us, us.map Lexeme.word = ws → P us

namespace Written

variable {E F G : Expectation} {ts ts' : List (List Char)} {P Q R : List Lexeme → Prop}

theorem mono (h : Written E ts F P) (hPQ : ∀ us, P us → Q us) : Written E ts F Q := by
  obtain ⟨ws, hws, hrow, hP⟩ := h
  exact ⟨ws, hws, hrow, fun us hus => hPQ us (hP us hus)⟩

theorem append (h : Written E ts F P) (h' : Written F ts' G Q)
    (hR : ∀ us vs, P us → Q vs → R (us ++ vs)) : Written E (ts ++ ts') G R := by
  obtain ⟨ws, rfl, hrow, hP⟩ := h
  obtain ⟨ws', rfl, hrow', hQ⟩ := h'
  refine ⟨ws ++ ws', List.map_append, Word.row_append.mpr ⟨F, hrow, hrow'⟩, fun us hus => ?_⟩
  obtain ⟨us, vs, rfl, hus, hvs⟩ := List.map_eq_append_iff.mp hus
  exact hR us vs (hP us hus) (hQ vs hvs)

theorem nil : Written E [] E (· = []) := by
  refine ⟨[], rfl, rfl, fun us hus => ?_⟩
  exact List.map_eq_nil_iff.mp hus

theorem one {w : Word} (hw : w.Stands E)
    (hP : ∀ t : Token, t.terminal = w.terminal → t.text = w.text → P [⟨t, w.next⟩]) :
    Written E [w.text] w.next P := by
  refine ⟨[w], rfl, ⟨hw, rfl⟩, fun us hus => ?_⟩
  obtain ⟨⟨t, next⟩, us, rfl, hu, hnil⟩ := List.map_eq_cons_iff.mp hus
  cases List.map_eq_nil_iff.mp hnil
  subst hu
  exact hP t rfl rfl

theorem cons {w : Word} (hw : w.Stands E) (h : Written w.next ts F P)
    (hQ : ∀ (t : Token) us, t.terminal = w.terminal → t.text = w.text → P us →
      Q (⟨t, w.next⟩ :: us)) : Written E (w.text :: ts) F Q := by
  have hone : Written E [w.text] w.next fun us =>
      ∃ t : Token, us = [⟨t, w.next⟩] ∧ t.terminal = w.terminal ∧ t.text = w.text :=
    one hw fun t ht ht' => ⟨t, rfl, ht, ht'⟩
  refine hone.append h ?_
  rintro us vs ⟨t, rfl, ht, ht'⟩ hvs
  exact hQ t vs ht ht' hvs

theorem symbol {t : Terminal} (ht : t ∈ symbols) (hE : t ∈ E.terminals) (h : Written F ts G P)
    (hQ : ∀ (k : Token) us, k.terminal = t → P us → Q (⟨k, F⟩ :: us)) :
    Written E (t.spelling :: ts) G Q :=
  cons (.mark ht hE : Word.Stands ⟨t, t.spelling, F⟩ E) h fun k us hk _ hus => hQ k us hk hus

theorem lastSymbol {t : Terminal} (ht : t ∈ symbols) (hE : t ∈ E.terminals)
    (hP : ∀ k : Token, k.terminal = t → P [⟨k, F⟩]) : Written E [t.spelling] F P :=
  one (.mark ht hE : Word.Stands ⟨t, t.spelling, F⟩ E) fun k hk _ => hP k hk

end Written

theorem intercalate_space (t : List Char) (ts : List (List Char)) :
    [' '].intercalate (t :: ts) = t ++ ts.flatMap (' ' :: ·) := by
  induction ts generalizing t with
  | nil => simp
  | cons u us ih =>
      rw [List.intercalate_cons_cons, ih]
      simp

end ChainLint
