import ChainLint.Proofs.Lint.Joining
import ChainLint.Proofs.Lint.Layout
import ChainLint.Proofs.Tree.Texts
import Mathlib.Data.List.Infix

namespace ChainLint

open Lexer

namespace Surface

open Tree.Build

theorem Spells.of_name {e : Expr} {w : Lexeme} (h : Spells (.expr e) [w])
    (hw : w.terminal = .name) : e = .path [w.token] (.ofToken w.token) := by
  generalize hws : [w] = ws at h
  have hlength := congrArg List.length hws
  simp only [List.length_singleton] at hlength
  cases h with
  | path ht hts =>
      obtain ⟨rfl, rfl⟩ := List.cons.inj hws
      cases hts
      rfl
  | int ht | float ht | string ht | true ht | false ht | retNone ht | brk ht | cont ht | rangeAll ht
  | paren ht | tuple ht | array ht | cond ht | condElse ht | condElseIf ht | whileLoop ht | loop ht
  | forLoop ht | ret ht | rangeTo ht =>
      obtain ⟨rfl, -⟩ := List.cons.inj hws
      cases ht.symm.trans hw
  | bracketMacro | macroCall => cases hws
  | block hb =>
      cases hb with
      | mkBlock ho =>
          obtain ⟨rfl, -⟩ := List.cons.inj hws
          cases ho.symm.trans hw
  | unary hop he hr =>
      have := he.length_pos
      cases hop <;>
        · simp only [List.length_append, List.length_cons] at hlength
          omega
  | binary _ hl _ _ hr | range _ hl _ _ hr =>
      have := hl.length_pos
      simp only [List.length_append, List.length_cons] at hlength
      omega
  | rangeFrom _ hl | call hl | methodCall hl | field hl | index hl =>
      have := hl.length_pos
      simp only [List.length_append, List.length_cons] at hlength
      omega
  | closure _ hh hb =>
      have := hb.length_pos
      cases hh <;>
        · simp only [List.length_append, List.length_cons] at hlength
          omega

theorem pathName_eq_none {t : Token} {ts : List Token} (h : pathName (t :: ts) = "None") :
    ts = [] ∧ t.text = "None".toList := by
  have hchars := congrArg String.toList h
  rw [pathName, String.toList_intercalate] at hchars
  cases ts with
  | nil =>
      refine ⟨rfl, ?_⟩
      simpa [spell] using hchars
  | cons u us =>
      have hcolon : ':' ∈ "None".toList := by
        rw [← hchars]
        simp [List.intercalate]
      exact absurd hcolon (by decide)

theorem splits_none {ws : List Word} {F : Expectation}
    (h : Word.Splits ws .expression "None".toList F []) :
    ∃ w, ws = [w] ∧ w.terminal = .name ∧ w.text = "None".toList := by
  cases ws with
  | nil => cases h.2
  | cons w ws =>
      obtain ⟨rest, hw, h⟩ := h
      have htext : "None".toList = w.text ++ rest := hw.text
      have hscan := hw.scan
      rw [← htext, show Lexer.scan Expectation.expression.terminals "None".toList =
        some (.name, "None".toList) by decide] at hscan
      obtain ⟨hterminal, hw⟩ := Prod.mk.inj (Option.some.inj hscan)
      rw [← hw] at htext
      have hrest : rest = [] := List.append_cancel_left (htext.symm.trans (List.append_nil _).symm)
      refine ⟨w, ?_, hterminal.symm, hw.symm⟩
      cases ws with
      | nil => rfl
      | cons v ws =>
          obtain ⟨rest', hv, -⟩ := h
          have hnil := hv.text
          rw [hrest] at hnil
          exact absurd (List.append_eq_nil_iff.mp (List.append_eq_nil_iff.mp hnil.symm).2).1 hv.ne_nil

end Surface

namespace Tree

open Surface Build

variable {file : Option String} {text : List Char} {ws : List Lexeme} {m m' : Pending}

theorem fallsToNone_iff {p : CallPair} {w : Lexeme} (h : Spells (.expr p.fallback) ws)
    (hw : w.next ∈ Expectation.expressions) (hm : m.At text) (hcuts : m.Cuts (w :: ws) m') :
    p.fallsToNone = true ↔ textOf text (Plain.expr file p.fallback) = "None".toList := by
  obtain ⟨n, n', hn, hws⟩ := hcuts.within hm (List.suffix_cons w ws).isInfix
  constructor
  · intro hnone
    obtain ⟨ws', hin, hbare⟩ := h.bare
    obtain ⟨s, s', hs, hws'⟩ := hws.within hn hin
    unfold CallPair.fallsToNone at hnone
    split at hnone
    · next segments x hpath =>
        rw [textOf, ← Plain.expr_bare, hpath]
        rw [hpath] at hbare
        cases hbare with
        | @path t ts vs ht hts =>
            obtain ⟨rfl, htext⟩ := pathName_eq_none (of_decide_eq_true hnone)
            cases hts
            have hpre := (Pending.characters_of_cuts hs hws').1
            have hstop := hws'.stop_offset _ List.mem_cons_self
            rw [hws'.place_eq (List.cons_ne_nil _ _)] at hpre
            rw [← htext]
            refine (hpre.eq_of_length_le ?_).symm
            rw [slice, List.length_drop, List.length_take]
            change t.stop.offset = t.start.offset + t.text.length at hstop
            change min t.stop.offset _ - t.start.offset ≤ t.text.length
            omega
    · cases hnone
  · intro hnone
    have hnested : Nested (textOf text (Plain.expr file p.fallback)) := by
      rw [hnone]
      decide
    obtain ⟨b, as, hin, hb, has⟩ := Spells.bare_after p.fallback h w hw
    obtain ⟨s, s', hs, hbas⟩ := hcuts.within hm hin
    have htext := textOf_bare h hn hws hnested
    rw [has.extends.2.1, has.extends.2.2, hnone] at htext
    obtain ⟨G, -, -, hsplits⟩ := Moves.splits_after has hb hs hbas
      (show Expectation.expression ∈ Expectation.expressions by decide) (show Breaks [] by rintro _ ⟨⟩)
    rw [← htext, List.append_nil] at hsplits
    obtain ⟨v, hwords, hterminal, hspell⟩ := splits_none hsplits
    obtain ⟨l, rfl, rfl⟩ := List.map_eq_singleton_iff.mp hwords
    have hname : pathName [l.token] = "None" := by
      rw [pathName, List.map_singleton, String.intercalate_singleton, spell,
        show l.token.text = "None".toList from hspell]
      rfl
    rw [CallPair.fallsToNone, has.of_name hterminal]
    exact decide_eq_true hname

theorem start_of_argument {t opening : Lexeme} (he : Spells (.expr e) ws)
    (ho : opening.terminal = .lparen) (hm : m.At text) (hcuts : m.Cuts (t :: opening :: ws) m')
    (hone : parens (slice text t.token.stop.offset (Plain.expr file e).span.lo.toNat) = ['(']) :
    (Plain.expr file e).span.lo = e.extent.start.offset := by
  obtain ⟨pre, mid, post, h⟩ := exists_covers file e he
  obtain ⟨v, mid', rfl⟩ := List.exists_cons_of_ne_nil h.ne_nil
  have hlo : (Plain.expr file e).span.lo = v.token.start.offset := congrArg Span.lo h.span
  have hsplit : t :: opening :: ws = [t] ++ ((opening :: pre) ++ (v :: (mid' ++ post))) := by
    rw [h.split]
    rfl
  rw [hsplit] at hcuts
  obtain ⟨s, hfirst, hrest⟩ := Pending.cuts_append.mp hcuts
  obtain ⟨n, hbefore, hafter⟩ := Pending.cuts_append.mp hrest
  have hplace : s.place = t.token.stop := hfirst.place_eq (List.cons_ne_nil _ _)
  have hparens := Pending.parens_before (hm.cuts hfirst) hbefore hafter
  rw [hlo, Int.toNat_natCast, ← hplace, hparens, parensOf_cons, ho] at hone
  have hpre : pre = [] := by
    cases pre with
    | nil => rfl
    | cons u pre =>
        rw [parensOf_cons, h.opens u List.mem_cons_self] at hone
        cases hone
  subst hpre
  rw [hlo, he.extends.2.1, h.split]
  rfl

end Tree

namespace MapUnwrapOr

open Tree Surface Build

/-- The edits for a chain cut no parentheses apart: none stand around its first call, and, where the
fallback moves, none around the mapper, and each in the text of the fallback has its other there. -/
structure Chain.Uncut (text : List Char) (c : Chain) : Prop where
  mapCall : c.mapCall.span.lo = c.whole.span.lo
  mapper : c.merge text = .mapOr →
    parens (slice text c.nameSpan.hi.toNat c.mapper.span.lo.toNat) = ['(']
  fallback : c.merge text = .mapOr → Nested (c.quoted text)

instance (text : List Char) (c : Chain) : Decidable (c.Uncut text) :=
  decidable_of_iff (c.mapCall.span.lo = c.whole.span.lo ∧
      (c.merge text = .mapOr →
        parens (slice text c.nameSpan.hi.toNat c.mapper.span.lo.toNat) = ['(']) ∧
      (c.merge text = .mapOr → Nested (c.quoted text)))
    ⟨fun h => ⟨h.1, h.2.1, h.2.2⟩, fun h => ⟨h.mapCall, h.mapper, h.fallback⟩⟩

theorem Chain.Uncut.edits_eq {file : Option String} {text : List Char} {p : CallPair} {x y : Extent}
    {opening opening' name : Lexeme} {wf wa : List Lexeme} {m m' n n' : Pending} {c : Chain}
    (hu : c.Uncut text) (hwhole : c.whole.span.hi = x.stop.offset)
    (hmapCall : c.mapCall.span.hi = y.stop.offset)
    (hname : c.nameSpan = spanOf file (.ofToken p.method))
    (hmapper : c.mapper = .expr (Plain.expr file p.mapper))
    (hfallback : c.fallback = .expr (Plain.expr file p.fallback))
    (hf : Spells (.expr p.mapper) wf) (ht : name.token = p.method)
    (ho : opening.terminal = .lparen) (hm : m.At text)
    (hcuts : m.Cuts (name :: opening :: wf) m') (ha : Spells (.expr p.fallback) wa)
    (ho' : opening'.next ∈ Expectation.expressions) (hn : n.At text)
    (hcuts' : n.Cuts (opening' :: wa) n') :
    (c.edits text).map Edit.change = p.changes text y.stop x.stop := by
  have hquoted : c.quoted text = textOf text (Plain.expr file p.fallback) := by
    rw [quoted, hfallback]
    rfl
  have hiff := @fallsToNone_iff file _ _ _ _ _ _ ha ho' hn hcuts'
  have hremove : c.remove.change = dropBetween y.stop x.stop := by
    rw [remove, Edit.change, Span.startingAt, hwhole, hmapCall]
    rfl
  have hrename (l : String) : (Edit.mk c.nameSpan l.toList).change = p.rename l := by
    rw [hname]
    rfl
  cases hfalls : p.fallsToNone with
  | true =>
      have hmerge : c.merge text = .andThen := if_pos (hquoted.trans (hiff.mp hfalls))
      rw [edits, rename, hmerge, CallPair.changes, if_pos hfalls]
      simp only [List.map_cons, List.map_nil, hremove, hrename]
      rfl
  | false =>
      have hmerge : c.merge text = .mapOr := by
        refine if_neg fun hnone => ?_
        rw [hiff.mpr (hquoted.symm.trans hnone)] at hfalls
        cases hfalls
      have hinsert : (c.insert text).change = p.insert text := by
        have hstart : (Node.expr (Plain.expr file p.mapper)).span.lo = p.mapper.extent.start.offset := by
          refine start_of_argument hf ho hm hcuts ?_
          have := hu.mapper hmerge
          rw [hname, hmapper] at this
          rw [ht]
          exact this
        obtain ⟨s, s', hs, hwa⟩ := hcuts'.within hn (List.suffix_cons opening' wa).isInfix
        have hbare := textOf_bare ha hs hwa (hquoted ▸ hu.fallback hmerge)
        rw [insert, hquoted, hbare, hmapper, CallPair.insert, Edit.change, Span.atStart, hstart]
        rfl
      rw [edits, hmerge, CallPair.changes, if_neg (by rw [hfalls]; decide)]
      simp only [List.map_cons, List.map_nil, hremove, hinsert]
      rw [rename, hmerge, hrename]
      rfl

theorem Chain.Uncut.pair {file : Option String} {text : List Char} {receiver : Surface.Expr}
    {name : Token} {args : List Surface.Expr} {x : Extent} {ws : List Lexeme} {m m' : Pending}
    {c : Chain} (hu : c.Uncut text) (he : Spells (.expr (.methodCall receiver name args x)) ws)
    (hm : m.At text) (hcuts : m.Cuts ws m')
    (hc : Chain.ofExpr? (Plain.expr file (.methodCall receiver name args x)) = some c) :
    ∃ (p : CallPair) (y : Extent) (wa : List Lexeme),
      receiver = .methodCall p.receiver p.method [p.mapper] y ∧ args = [p.fallback] ∧
      spell p.method = "map" ∧ spell name = "unwrap_or" ∧
      (c.edits text).map Edit.change = p.changes text y.stop x.stop ∧
      Spells (.expr p.fallback) wa ∧
      ∀ w ∈ wa, c.mapCall.span.hi ≤ w.token.start.offset ∧
        w.token.start.offset < c.whole.span.hi := by
  obtain ⟨i, j, r, ns, f, s, a, hplain, rfl⟩ := ofExpr?_eq_some hc
  obtain ⟨rfl, hr, hname, rfl, hargs⟩ := Expr.methodCall.inj hplain
  obtain ⟨fallback, rfl, rfl⟩ := Plain.exprs_singleton hargs
  obtain ⟨r', t, es, y, hbare, rfl, rfl, ht, rfl, hes⟩ := Plain.eq_methodCall receiver hr
  obtain ⟨mapper, rfl, rfl⟩ := Plain.exprs_singleton hes
  have hplaced := placed_of_cuts hcuts
  have hstart : y.start.offset = x.start.offset := Int.ofNat.inj hu.mapCall
  cases he with
  | @methodCall dot _ opening _ _ stop wr wargs hs hrank hedge hd hn ho hargs =>
      obtain ⟨n, hwr, hrest⟩ := placed_append.mp hplaced
      have hsame : receiver.bare = receiver := hs.bare_eq hwr (by rw [hbare]; exact hstart.le)
      rw [hsame] at hbare
      subst hbare
      have hstop : y.stop.offset ≤ n := by
        obtain ⟨-, -, hle, -⟩ := hwr.tight hs.extends.1
        rwa [← hs.extends.2.2] at hle
      cases hs with
      | @methodCall dot' _ opening' _ _ stop' wr' wargs' hs' hrank' hedge' hd' hn' ho' hargs' =>
          obtain ⟨wf, commas', closing', rfl, hf, hc', rfl, -⟩ := hargs'.argument
          obtain ⟨wa, commas, closing, rfl, ha, hcl, rfl, -⟩ := hargs.argument
          refine ⟨⟨r', t, mapper, fallback⟩, _, wa, rfl, rfl, ht, hname, ?_, ha, ?_⟩
          · obtain ⟨s, s', hs, hcutsf⟩ := @Pending.Cuts.within text (⟨t, .afterOperand⟩ ::
                ⟨opening', .expressionOrParen⟩ :: wf) _ _ _ hcuts hm
              ⟨wr' ++ [⟨dot', .memberName⟩], commas' ++ ⟨closing', .afterOperand⟩ ::
                ⟨dot, .memberName⟩ :: ⟨name, .afterOperand⟩ :: ⟨opening, .expressionOrParen⟩ ::
                  (wa ++ (commas ++ [⟨closing, .afterOperand⟩])), by simp⟩
            obtain ⟨k, k', hk, hcutsa⟩ := @Pending.Cuts.within text
              (⟨opening, .expressionOrParen⟩ :: wa) _ _ _ hcuts hm
              ⟨wr' ++ ⟨dot', .memberName⟩ :: ⟨t, .afterOperand⟩ ::
                ⟨opening', .expressionOrParen⟩ :: (wf ++ (commas' ++ [⟨closing', .afterOperand⟩])) ++
                  [⟨dot, .memberName⟩, ⟨name, .afterOperand⟩],
                commas ++ [⟨closing, .afterOperand⟩], by simp⟩
            have hparen : Lexeme.terminal ⟨opening', .expressionOrParen⟩ = .lparen := ho'
            exact hu.edits_eq rfl rfl rfl rfl rfl hf rfl hparen hs hcutsf ha
              (show Expectation.expressionOrParen ∈ Expectation.expressions by decide) hk hcutsa
          · intro w hw
            obtain ⟨h₁, h₂, h₃, h₄, h₅, h₆, hwargs⟩ := hrest
            obtain ⟨k, hwa, hafter⟩ := placed_append.mp hwargs
            obtain ⟨k', hcommas, h₇, h₈, -⟩ := placed_append.mp hafter
            have hcommas := hcommas.le
            obtain ⟨h₉, -⟩ := hwa.le_start w hw
            obtain ⟨-, h₁₀, h₁₁⟩ := hwa.isInfix ((List.singleton_infix_iff w wa).mpr hw)
            change w.token.stop.offset ≤ k at h₁₁
            simp only at hstop h₁ h₂ h₃ h₄ h₅ h₆ h₇ h₈ h₉
            have hlo : closing'.stop.offset ≤ w.token.start.offset := by omega
            have hhi : w.token.start.offset < closing.stop.offset := by omega
            exact ⟨Int.ofNat_le.mpr hlo, Int.ofNat_lt.mpr hhi⟩

end MapUnwrapOr

end ChainLint
