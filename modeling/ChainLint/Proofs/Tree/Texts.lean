import ChainLint.Proofs.Grammar.Slices
import ChainLint.Proofs.Tree.Covering
import Mathlib.Data.List.Infix

namespace ChainLint

open Lexer

theorem Pending.Cuts.within {text : List Char} {us ws : List Lexeme} {s s' : Pending}
    (h : s.Cuts ws s') (hs : s.At text) (hin : us <:+: ws) :
    ∃ m m' : Pending, m.At text ∧ m.Cuts us m' := by
  obtain ⟨before, after, rfl⟩ := hin
  obtain ⟨m', hfront, -⟩ := Pending.cuts_append.mp h
  obtain ⟨m, hbefore, hus⟩ := Pending.cuts_append.mp hfront
  exact ⟨m, m', hs.cuts hbefore, hus⟩

namespace Tree

open Surface Build

def textOf (text : List Char) (t : Expr) : List Char := slice text t.span.lo.toNat t.span.hi.toNat

variable {file : Option String} {text : List Char} {e : Surface.Expr} {ws : List Lexeme}
  {m m' : Pending}

theorem textOf_plain (he : Spells (.expr e) ws) (hm : m.At text) (hcuts : m.Cuts ws m') :
    ∃ mid, mid <:+: ws ∧
      textOf text (Plain.expr file e) = slice text (startOf mid).offset (stopOf mid).offset ∧
      (Nested (textOf text (Plain.expr file e)) → Spells (.expr e.bare) mid) := by
  obtain ⟨pre, mid, post, h⟩ := exists_covers file e he
  have hin : mid <:+: ws := ⟨pre, post, by rw [h.split, List.append_assoc]⟩
  obtain ⟨s, s', hs, hmid⟩ := hcuts.within hm hin
  have htext : textOf text (Plain.expr file e) =
      slice text (startOf mid).offset (stopOf mid).offset := by
    rw [textOf, h.span]
    rfl
  refine ⟨mid, hin, htext, fun hnested => h.spells ?_⟩
  obtain ⟨w, mid', hw⟩ := List.exists_cons_of_ne_nil h.ne_nil
  have hparens := (Pending.characters_of_cuts hs (hw ▸ hmid)).2
  rw [hmid.place_eq h.ne_nil, ← hw] at hparens
  rw [Nested, htext, hw, startOf_cons, ← hw, hparens] at hnested
  exact hnested

theorem textOf_bare (he : Spells (.expr e) ws) (hm : m.At text) (hcuts : m.Cuts ws m')
    (hnested : Nested (textOf text (Plain.expr file e))) : textOf text (Plain.expr file e) =
      slice text e.bare.extent.start.offset e.bare.extent.stop.offset := by
  obtain ⟨mid, -, htext, hspells⟩ := @textOf_plain file _ _ _ _ _ he hm hcuts
  have hx := (hspells hnested).extends
  rw [htext, hx.2.1, hx.2.2]

end Tree

end ChainLint
