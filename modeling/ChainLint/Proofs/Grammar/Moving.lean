import ChainLint.Proofs.Grammar.Joining
import ChainLint.Proofs.Grammar.Slices
import Mathlib.Data.List.Perm.Subperm

namespace ChainLint

open Lexer Surface

def Lexeme.place (w : Lexeme) : Position × Position := (w.token.start, w.token.stop)

namespace Pending

theorem Cuts.spelling {ws : List Lexeme} {s s' : Pending} (h : s.Cuts ws s') :
    ∀ w ∈ ws, w.terminal.spelling ≠ [] → w.token.text = w.terminal.spelling := by
  induction ws generalizing s with
  | nil => exact nofun
  | cons w ws ih =>
      obtain ⟨rest, hw, h⟩ := h
      exact List.forall_mem_cons.mpr ⟨scan_spelling hw.scan, ih h⟩

end Pending

inductive Moves (text : List Char) : List Lexeme → List Change → List Lexeme → Prop where
  | nil : Moves text [] [] []
  | one (w : Lexeme) : Moves text [w] [] [w]
  | append {ws ws' vs vs' : List Lexeme} {cs cs' : List Change} (h : Moves text ws cs vs)
      (h' : Moves text ws' cs' vs') : Moves text (ws ++ ws') (cs ++ cs') (vs ++ vs')
  | andThen {dot name opening closing d : Lexeme} {fs fs' ds : List Lexeme} {cs : List Change}
      (hd : dot.terminal = .dot) (hE : dot.next = .memberName) (hn : name.terminal = .name)
      (hc : closing.terminal = .rparen) (hl : d.terminal = .rparen)
      (hnext : d.next = closing.next) (h : Moves text fs cs fs') :
      Moves text (dot :: name :: opening :: (fs ++ closing :: (ds ++ [d])))
        (⟨name.token.start.offset, name.token.stop.offset, "and_then".toList⟩ ::
          (cs ++ [⟨closing.token.stop.offset, d.token.stop.offset, []⟩]))
        (dot :: ⟨name.token.respell "and_then", name.next⟩ :: opening :: (fs' ++ [d]))
  | mapOr {dot name opening x closing second before d : Lexeme} {fs fs' ds as : List Lexeme}
      {cs : List Change} {a : Expr} (hd : dot.terminal = .dot) (hE : dot.next = .memberName)
      (hn : name.terminal = .name) (ho : opening.terminal = .lparen)
      (hoE : opening.next = .expressionOrParen) (hx : x.terminal ∈ Terminal.exprStart)
      (hc : closing.terminal = .rparen) (hl : d.terminal = .rparen)
      (hnext : d.next = closing.next) (hb : before.next ∈ Expectation.expressions)
      (has : (before :: as) <:+: ds) (ha : Spells (.expr a) as) (h : Moves text (x :: fs) cs fs') :
      Moves text (dot :: name :: opening :: x :: (fs ++ closing :: second :: (ds ++ [d])))
        (⟨name.token.start.offset, name.token.stop.offset, "map_or".toList⟩ ::
          ⟨x.token.start.offset, x.token.start.offset,
            slice text (startOf as).offset (stopOf as).offset ++ ", ".toList⟩ ::
          (cs ++ [⟨closing.token.stop.offset, d.token.stop.offset, []⟩]))
        (dot :: ⟨name.token.respell "map_or", name.next⟩ :: opening ::
          (as ++ ⟨⟨.comma, [','], second.token.start, second.token.stop⟩, .expressionOrClose⟩ ::
            (fs' ++ [d])))

theorem subperm_cons_cons {α : Type} (a : α) {l l' : List α} (h : l.Subperm l') :
    (a :: l).Subperm (a :: l') := (List.subperm_cons a).mpr h

namespace Moves

variable {text : List Char} {ws vs : List Lexeme} {cs : List Change}

theorem refl (text : List Char) (ws : List Lexeme) : Moves text ws [] ws := by
  induction ws with
  | nil => exact .nil
  | cons w ws ih => exact (Moves.one w).append ih

theorem head? (h : Moves text ws cs vs) : vs.head? = ws.head? := by
  induction h with
  | append _ _ ih ih' => rw [List.head?_append, List.head?_append, ih, ih']
  | _ => rfl

theorem places (h : Moves text ws cs vs) :
    (vs.map Lexeme.place).Subperm (ws.map Lexeme.place) := by
  induction h with
  | nil | one => exact .refl _
  | append _ _ ih ih' =>
      rw [List.map_append, List.map_append]
      exact ih.append ih'
  | @andThen dot name opening closing d fs fs' ds cs _ _ _ _ _ _ _ ih =>
      simp only [List.map_cons, List.map_append]
      refine subperm_cons_cons _ (subperm_cons_cons _ (subperm_cons_cons _ (ih.append ?_)))
      exact ((List.sublist_append_right _ _).cons _).subperm
  | @mapOr dot name opening x closing second before d fs fs' ds as cs a _ _ _ _ _ _ _ _ _ _ has _ _ ih =>
      have hperm : (as.map Lexeme.place ++ second.place :: (fs'.map Lexeme.place ++ [d.place])).Perm
          (fs'.map Lexeme.place ++ second.place :: (as.map Lexeme.place ++ [d.place])) :=
        List.perm_iff_count.mpr fun place => by
          simp only [List.count_append, List.count_cons]
          omega
      have hsub : (as.map Lexeme.place).Sublist (ds.map Lexeme.place) :=
        (((List.sublist_cons_self before as).trans has.sublist).map _)
      have hrest : (fs'.map Lexeme.place ++ second.place :: (as.map Lexeme.place ++ [d.place])).Subperm
          (x.place :: (fs.map Lexeme.place ++ closing.place :: second.place ::
            (ds.map Lexeme.place ++ [d.place]))) := by
        refine ih.append (List.Sublist.subperm ?_)
        exact ((hsub.append (.refl _)).cons_cons _).cons _
      simp only [List.map_cons, List.map_append]
      exact subperm_cons_cons _ (subperm_cons_cons _ (subperm_cons_cons _ (hperm.subperm.trans hrest)))

theorem splits_after {as : List Lexeme} {a : Expr} (ha : Spells (.expr a) as) {b : Lexeme}
    (hb : b.next ∈ Expectation.expressions) {s s' : Pending} (hs : s.At text)
    (hcuts : s.Cuts (b :: as) s') {E : Expectation} (hE : E ∈ Expectation.expressions)
    {rest : List Char} (hrest : Breaks rest) :
    ∃ G : Expectation, Expectation.terminals.operandFollow ⊆ G.terminals ∧
      blankRun false (slice text (startOf as).offset (stopOf as).offset ++ rest) = [] ∧
      Word.Splits (as.map Lexeme.word) E
        (slice text (startOf as).offset (stopOf as).offset ++ rest) G rest := by
  obtain ⟨tail, hone, hcuts⟩ := hcuts
  have hb' : s.Cuts [b] ⟨b.next, b.token.stop, tail⟩ := ⟨tail, hone, rfl⟩
  obtain ⟨before, htext, hplace⟩ := hs.cuts hb'
  refine snippet_splits ha hcuts htext hplace (fun w _ hw hscan => ?_) hrest
  have hstart := Expectation.exprStart_subset hb
  refine scan_expression (fun t ht => hstart (by revert t; decide)) hE hw ?_ hscan
  intro hname
  rw [hname] at hscan
  exact scan_name_ne (by decide) (hstart (by decide)) hscan

theorem inserts {as : List Lexeme} {a : Expr} (ha : Spells (.expr a) as) {b : Lexeme}
    (hb : b.next ∈ Expectation.expressions) {s s' : Pending} (hs : s.At text)
    (hcuts : s.Cuts (b :: as) s') {E : Expectation} (hE : E ∈ Expectation.expressions)
    (start stop : Position) :
    Inserts E (slice text (startOf as).offset (stopOf as).offset ++ ", ".toList)
      ((as ++ [Lexeme.mk ⟨.comma, [','], start, stop⟩ .expressionOrClose]).map Lexeme.word) := by
  refine ⟨by simp, slice text (startOf as).offset (stopOf as).offset ++ [','], .expressionOrClose,
    by decide, by simp, fun rest => ?_⟩
  have hbreaks : Breaks (',' :: ' ' :: rest) := by simp [Breaks, isBreak]
  obtain ⟨G, hG, hblank, hsplits⟩ := splits_after ha hb hs hcuts hE hbreaks
  rw [List.append_assoc]
  refine ⟨hblank, ?_⟩
  rw [List.map_append, Word.splits_append]
  exact ⟨G, _, hsplits, _, .mark (t := .comma) (by decide) (hG (by decide)) _, rfl, rfl⟩

theorem closing_word {s s' : Pending} (hcuts : s.Cuts ws s') {c d : Lexeme}
    (hc : c.terminal = .rparen) (hd : d.terminal = .rparen) (hnext : d.next = c.next)
    (hcmem : c ∈ ws) (hdmem : d ∈ ws) : c.word = d.word := by
  have hctext := hcuts.spelling c hcmem (by rw [hc]; decide)
  have hdtext := hcuts.spelling d hdmem (by rw [hd]; decide)
  rw [Lexeme.word, Lexeme.word, hc, hd, hctext, hdtext, hc, hd, hnext]

theorem rewords (h : Moves text ws cs vs) {s s' : Pending} (hs : s.At text)
    (hcuts : s.Cuts ws s') : Rewords ws cs (vs.map Lexeme.word) := by
  induction h generalizing s s' with
  | nil => exact .nil
  | one w => exact .keep .nil
  | append _ _ ih ih' =>
      obtain ⟨m, hws, hws'⟩ := Pending.cuts_append.mp hcuts
      rw [List.map_append]
      exact (ih hs hws).append (ih' (hs.cuts hws) hws')
  | @andThen dot name opening closing d fs fs' ds cs hd hE hn hc hl hnext _ ih =>
      have hword := closing_word hcuts hc hl hnext (by simp) (by simp)
      have hcuts : s.Cuts ([dot, name, opening] ++ (fs ++ closing :: (ds ++ [d]))) s' := hcuts
      obtain ⟨m, hhead, hrest⟩ := Pending.cuts_append.mp hcuts
      have hm := hs.cuts hhead
      obtain ⟨m', hfs, -⟩ := Pending.cuts_append.mp hrest
      have hdrop : Rewords (closing :: (ds ++ [d])) [⟨closing.token.stop.offset, d.token.stop.offset, []⟩]
          [closing.word] := .drop hc hnext .nil
      have htail := (ih hm hfs).append hdrop
      have hname : name? "and_then".toList = some "and_then".toList := by decide
      have hall := Rewords.rename hd hE hn hname (.keep (w := opening) htail)
      rw [hword] at hall
      simp only [List.map_cons, List.map_append, List.map_nil]
      rw [← hn] at hall
      exact hall
  | @mapOr dot name opening x closing second before d fs fs' ds as cs a hd hE hn ho hoE hx hc hl hnext
      hb has ha _ ih =>
      have hword := closing_word hcuts hc hl hnext (by simp) (by simp)
      have hcuts :
          s.Cuts ([dot, name, opening] ++ (x :: fs ++ closing :: second :: (ds ++ [d]))) s' := hcuts
      obtain ⟨m, hhead, hrest⟩ := Pending.cuts_append.mp hcuts
      have hm := hs.cuts hhead
      obtain ⟨m', hfs, hrest⟩ := Pending.cuts_append.mp hrest
      have hm' := hm.cuts hfs
      have hdrop : Rewords (closing :: (second :: ds ++ [d]))
          [⟨closing.token.stop.offset, d.token.stop.offset, []⟩] [closing.word] :=
        .drop hc hnext .nil
      obtain ⟨front, back, rfl⟩ := has
      have hinserts : Inserts opening.next
          (slice text (startOf as).offset (stopOf as).offset ++ ", ".toList)
          ((as ++ [Lexeme.mk ⟨.comma, [','], second.token.start, second.token.stop⟩
            .expressionOrClose]).map Lexeme.word) := by
        have heq : closing :: second :: (front ++ before :: as ++ back ++ [d]) =
            (closing :: second :: front) ++ (before :: as ++ (back ++ [d])) := by simp
        rw [heq] at hrest
        obtain ⟨n, hfront, hrest⟩ := Pending.cuts_append.mp hrest
        obtain ⟨n', hsnippet, -⟩ := Pending.cuts_append.mp hrest
        exact inserts ha hb (hm'.cuts hfront) hsnippet (by rw [hoE]; decide) _ _
      have htail := (ih hm hfs).append hdrop
      have hname : name? "map_or".toList = some "map_or".toList := by decide
      have hall := Rewords.rename hd hE hn hname
        (.insert ho (by rw [hoE]; decide) hx hinserts htail)
      rw [hword, ← hn] at hall
      have hrespell : Lexeme.word ⟨name.token.respell "map_or", name.next⟩ =
          ⟨name.terminal, "map_or".toList, name.next⟩ := rfl
      simpa [hrespell] using hall

end Moves

namespace Surface

variable (picks : Int → Bool) (text : List Char)

def dropBetween (start stop : Position) : Change := ⟨start.offset, stop.offset, []⟩

def CallPair.rename (p : CallPair) (l : String) : Change :=
  ⟨p.method.start.offset, p.method.stop.offset, l.toList⟩

def CallPair.insert (p : CallPair) : Change :=
  ⟨p.mapper.extent.start.offset, p.mapper.extent.start.offset,
    slice text p.fallback.bare.extent.start.offset p.fallback.bare.extent.stop.offset ++
      ", ".toList⟩

def CallPair.changes (p : CallPair) (stop last : Position) : List Change :=
  if p.fallsToNone then [p.rename "and_then", dropBetween stop last]
  else [p.rename "map_or", dropBetween stop last, p.insert text]

def Expr.changes (e : Expr) : List Change :=
  match e, e.joins? picks with
  | .methodCall receiver _ _ x, some p => p.changes text receiver.extent.stop x.stop
  | _, _ => []

theorem Expr.changes_of_none {e : Expr} (h : e.joins? picks = none) :
    e.changes picks text = [] := by
  unfold changes
  rw [h]
  cases e <;> rfl

theorem Expr.changes_of_not_picked {e : Expr} (h : e.isPicked picks = false) :
    e.changes picks text = [] := by
  refine changes_of_none picks text ?_
  cases hp : e.joins? picks with
  | none => rfl
  | some p =>
      obtain ⟨hpair, hpick, -⟩ := joins?_eq_some picks hp
      rw [isPicked, hpair, Option.any_some, hpick] at h
      cases h

def Remade (ws : List Lexeme) (calls : List Expr) (vs : List Lexeme) : Prop :=
  ∃ cs, Moves text ws cs vs ∧ cs.Perm (calls.flatMap (Expr.changes picks text))

namespace Remade

variable {picks text} {ws ws' vs vs' : List Lexeme} {es es' : List Expr}

theorem kept (ws : List Lexeme) : Remade picks text ws [] ws := ⟨[], .refl text ws, .refl _⟩

theorem append (h : Remade picks text ws es vs) (h' : Remade picks text ws' es' vs') :
    Remade picks text (ws ++ ws') (es ++ es') (vs ++ vs') := by
  obtain ⟨cs, hm, hp⟩ := h
  obtain ⟨cs', hm', hp'⟩ := h'
  refine ⟨cs ++ cs', hm.append hm', ?_⟩
  rw [List.flatMap_append]
  exact hp.append hp'

theorem cons (w : Lexeme) (h : Remade picks text ws es vs) :
    Remade picks text (w :: ws) es (w :: vs) := (kept [w]).append h

theorem after (h : Remade picks text ws es vs) (ws' : List Lexeme) :
    Remade picks text (ws' ++ ws) es (ws' ++ vs) := (kept ws').append h

theorem before (h : Remade picks text ws es vs) (ws' : List Lexeme) :
    Remade picks text (ws ++ ws') es (vs ++ ws') := by
  have := h.append (kept ws')
  rwa [List.append_nil] at this

theorem skip {e : Expr} (he : e.changes picks text = []) (h : Remade picks text ws es vs) :
    Remade picks text ws (e :: es) vs := by
  obtain ⟨cs, hm, hp⟩ := h
  exact ⟨cs, hm, by rwa [List.flatMap_cons, he, List.nil_append]⟩

theorem head? (h : Remade picks text ws es vs) : vs.head? = ws.head? := by
  obtain ⟨cs, hm, -⟩ := h
  exact hm.head?

end Remade

def Phrase.join : Phrase → Phrase
  | .expr e => .expr (e.join picks)
  | .args close es stop => .args close (joinAll picks es) stop
  | .block b => .block (b.join picks)
  | .items is => .items (joinItems picks is)
  | .letItem i => .letItem (i.join picks)
  | .init o => .init (joinOption picks o)

def Phrase.calls : Phrase → List Expr
  | .expr e => e.calls
  | .args _ es _ => callsAll es
  | .block b => b.calls
  | .items is => callsItems is
  | .letItem i => i.calls
  | .init o => callsOption o

def Joins (p : Phrase) (ws : List Lexeme) : Prop :=
  ∃ vs, Spells (p.join picks) vs ∧ Remade picks text ws p.calls vs

inductive ArgParts (close : Terminal) (stop : Position) (f : Expr) : List Lexeme → Prop where
  | mk {wf commas : List Lexeme} {closing : Token} (hf : Spells (.expr f) wf)
      (hj : Joins picks text (.expr f) wf) (hc : closing.terminal = close)
      (hs : closing.stop = stop)
      (hcommas : commas = [] ∨ ∃ comma, comma.terminal = .comma ∧
        commas = [⟨comma, .expressionOrClose⟩]) :
      ArgParts close stop f (wf ++ (commas ++ [⟨closing, .afterOperand⟩]))

inductive CallParts (receiver : Expr) (name : Token) (f : Expr) (x : Extent) :
    List Lexeme → Prop where
  | mk {dot opening : Token} {wr wargs : List Lexeme} (hr : receiver.rank = 7)
      (hedge : receiver.edge .dot = false) (hd : dot.terminal = .dot)
      (hn : name.terminal = .name) (ho : opening.terminal = .lparen)
      (hstart : x.start = receiver.extent.start) (hj : Joins picks text (.expr receiver) wr)
      (hargs : ArgParts picks text .rparen x.stop f wargs) :
      CallParts receiver name f x (wr ++ ⟨dot, .memberName⟩ :: ⟨name, .afterOperand⟩ ::
        ⟨opening, .expressionOrParen⟩ :: wargs)

def Phrase.Parts (ws : List Lexeme) : Phrase → Prop
  | .expr (.methodCall receiver name [f] x) => CallParts picks text receiver name f x ws
  | .args close [f] stop => ArgParts picks text close stop f ws
  | _ => True

theorem Spells.bare_after : (e : Expr) → {ws : List Lexeme} → Spells (.expr e) ws → (w : Lexeme) →
    w.next ∈ Expectation.expressions → ∃ b as, b :: as <:+: w :: ws ∧
      b.next ∈ Expectation.expressions ∧ Spells (.expr e.bare) as
  | .paren inner _, _, h, w, _ => by
      cases h with
      | @paren opening closing e ws ho he hc =>
          obtain ⟨b, as, hin, hb, h⟩ := Spells.bare_after inner he ⟨opening, .expression⟩
            (show Expectation.expression ∈ Expectation.expressions by decide)
          refine ⟨b, as, hin.trans ?_, hb, h⟩
          exact ⟨[w], [⟨closing, .afterOperand⟩], rfl⟩
  | .int _, ws, h, w, hw | .float _, ws, h, w, hw | .string _, ws, h, w, hw
  | .bool _ _, ws, h, w, hw | .path _ _, ws, h, w, hw | .macroCall _ _ _, ws, h, w, hw
  | .tuple _ _, ws, h, w, hw | .array _ _, ws, h, w, hw | .block _, ws, h, w, hw
  | .cond _ _ _ _, ws, h, w, hw | .whileLoop _ _ _, ws, h, w, hw | .loop _ _, ws, h, w, hw
  | .forLoop _ _ _ _, ws, h, w, hw | .ret _ _, ws, h, w, hw | .brk _, ws, h, w, hw
  | .cont _, ws, h, w, hw | .unary _ _ _, ws, h, w, hw | .binary _ _ _ _, ws, h, w, hw
  | .range _ _ _, ws, h, w, hw | .call _ _ _, ws, h, w, hw | .methodCall _ _ _ _, ws, h, w, hw
  | .field _ _ _, ws, h, w, hw | .index _ _ _, ws, h, w, hw
  | .closure _ _ _ _, ws, h, w, hw => ⟨w, ws, List.infix_rfl, hw, h⟩

variable {picks text}

theorem changes_joined {p : CallPair} {name : Token} {x y : Extent}
    (h : Expr.joins? picks (.methodCall (.methodCall p.receiver p.method [p.mapper] y) name
      [p.fallback] x) = some p) :
    (Expr.methodCall (.methodCall p.receiver p.method [p.mapper] y) name [p.fallback] x).calls.flatMap
        (Expr.changes picks text) =
      p.changes text y.stop x.stop ++ (p.receiver.calls.flatMap (Expr.changes picks text) ++
        p.mapper.calls.flatMap (Expr.changes picks text)) := by
  obtain ⟨hpair, -, hfree⟩ := Expr.joins?_eq_some picks h
  have hpair : CallPair.of? (.methodCall p.receiver p.method [p.mapper] y) name [p.fallback] =
      some p := hpair
  obtain ⟨hm, -, -, -, -⟩ := CallPair.of?_eq_some hpair
  have hself : Expr.changes picks text (.methodCall (.methodCall p.receiver p.method [p.mapper] y)
      name [p.fallback] x) = p.changes text y.stop x.stop := by
    unfold Expr.changes
    rw [h]
    rfl
  have hfirst : Expr.changes picks text (.methodCall p.receiver p.method [p.mapper] y) = [] := by
    refine Expr.changes_of_none picks text (Expr.joins?_none picks ?_)
    rw [hm]
    decide
  have hargs : p.fallback.calls.flatMap (Expr.changes picks text) = [] :=
    List.flatMap_eq_nil_iff.mpr fun c hc => Expr.changes_of_not_picked picks text (hfree c hc)
  simp only [Expr.calls, callsAll, List.append_nil, List.flatMap_cons, List.flatMap_append, hself,
    hfirst, hargs, List.nil_append]

theorem Spells.args_one {close : Terminal} {e : Expr} {closing : Token} {ws commas : List Lexeme}
    (he : Spells (.expr e) ws) (hc : closing.terminal = close)
    (hcommas : commas = [] ∨ ∃ comma, comma.terminal = .comma ∧
      commas = [⟨comma, .expressionOrClose⟩]) :
    Spells (.args close [e] closing.stop) (ws ++ (commas ++ [⟨closing, .afterOperand⟩])) := by
  obtain rfl | ⟨comma, hcomma, rfl⟩ := hcommas
  · exact .argsLast he hc
  · exact .argsCons he hcomma (.argsNil hc)

theorem join_pair {p : CallPair} {dot name opening : Token} {x y : Extent} {ws ws' : List Lexeme}
    (h : Expr.joins? picks (.methodCall (.methodCall p.receiver p.method [p.mapper] y) name
      [p.fallback] x) = some p)
    (hparts : CallParts picks text p.receiver p.method p.mapper y ws)
    (hes : Spells (.args .rparen [p.fallback] x.stop) ws') (hstart : x.start = y.start)
    (hjoin : Expr.join picks (.methodCall (.methodCall p.receiver p.method [p.mapper] y) name
        [p.fallback] x) =
      if p.fallsToNone then
        .methodCall (p.receiver.join picks) (p.method.respell "and_then") [p.mapper.join picks] x
      else .methodCall (p.receiver.join picks) (p.method.respell "map_or")
        [p.fallback.bare, p.mapper.join picks] x) :
    Joins picks text (.expr (.methodCall (.methodCall p.receiver p.method [p.mapper] y) name
      [p.fallback] x)) (ws ++ ⟨dot, .memberName⟩ :: ⟨name, .afterOperand⟩ ::
        ⟨opening, .expressionOrParen⟩ :: ws') := by
  obtain @⟨dot₁, opening₁, wr, _, hr, hedge, hd, hn, ho, hystart, ⟨vr, hvr, csr, hmr, hpr⟩,
    @⟨wf, commas, closing₁, hf, ⟨vf, hvf, csf, hmf, hpf⟩, hc, hstop, hcommas⟩⟩ := hparts
  obtain ⟨wa, commas', closing, rfl, ha, hc', hstop', -⟩ := hes.argument
  have hreceiver : (p.receiver.join picks).rank = 7 := (p.receiver.rank_join picks).trans hr
  have hdot : (p.receiver.join picks).edge .dot = false := (p.receiver.edge_join picks _).trans hedge
  have hx : (⟨(p.receiver.join picks).extent.start, closing.stop⟩ : Extent) = x := by
    rw [p.receiver.extent_join, ← hystart, ← hstart, hstop']
  have hname (l : String) : (p.method.respell l).terminal = Terminal.name := hn
  have hlast := Spells.args_one hvf hc' hcommas
  have hmoved : Moves text (wf ++ commas) csf (vf ++ commas) := by
    have := hmf.append (.refl text commas)
    rwa [List.append_nil] at this
  have hsplit : (wr ++ ⟨dot₁, .memberName⟩ :: ⟨p.method, .afterOperand⟩ ::
      ⟨opening₁, .expressionOrParen⟩ :: (wf ++ (commas ++ [⟨closing₁, .afterOperand⟩]))) ++
        ⟨dot, .memberName⟩ :: ⟨name, .afterOperand⟩ :: ⟨opening, .expressionOrParen⟩ ::
          (wa ++ (commas' ++ [⟨closing, .afterOperand⟩])) =
      wr ++ ⟨dot₁, .memberName⟩ :: ⟨p.method, .afterOperand⟩ :: ⟨opening₁, .expressionOrParen⟩ ::
        ((wf ++ commas) ++ ⟨closing₁, .afterOperand⟩ :: ((⟨dot, .memberName⟩ ::
          ⟨name, .afterOperand⟩ :: ⟨opening, .expressionOrParen⟩ :: (wa ++ commas')) ++
            [⟨closing, .afterOperand⟩])) := by
    simp only [List.append_assoc, List.cons_append, List.nil_append]
  have hcs : (csr ++ csf).Perm (p.receiver.calls.flatMap (Expr.changes picks text) ++
      p.mapper.calls.flatMap (Expr.changes picks text)) := hpr.append hpf
  unfold Joins Remade
  rw [Phrase.join, hjoin, hsplit, Phrase.calls, changes_joined h, CallPair.changes, ← hstop, ← hstop']
  split
  · refine ⟨_, hx ▸ Spells.methodCall hvr hreceiver hdot hd (hname _) ho hlast,
      csr ++ p.rename "and_then" :: (csf ++ [dropBetween closing₁.stop closing.stop]), hmr.append ?_, ?_⟩
    · rw [← List.append_assoc vf]
      exact .andThen hd rfl hn hc hc' rfl hmoved
    · refine List.perm_iff_count.mpr fun change => ?_
      have hcount := List.perm_iff_count.mp hcs change
      simp only [List.count_append, List.count_cons, List.count_nil] at hcount ⊢
      omega
  · obtain ⟨before, as, hinfix, hbefore, has⟩ := Spells.bare_after p.fallback ha
      ⟨opening, .expressionOrParen⟩
      (show Expectation.expressionOrParen ∈ Expectation.expressions by decide)
    obtain ⟨v, fs, rfl, hv⟩ := hf.starts_expr
    have hcomma : (⟨.comma, [','], dot.start, dot.stop⟩ : Token).terminal = .comma := rfl
    refine ⟨_, hx ▸ Spells.methodCall hvr hreceiver hdot hd (hname _) ho
      (.argsCons has hcomma hlast), csr ++ p.rename "map_or" :: p.insert text ::
        (csf ++ [dropBetween closing₁.stop closing.stop]), hmr.append ?_, ?_⟩
    · rw [← List.append_assoc vf]
      have hinsert : p.insert text = ⟨v.token.start.offset, v.token.start.offset,
          slice text (startOf as).offset (stopOf as).offset ++ ", ".toList⟩ := by
        rw [CallPair.insert, hf.extends.2.1, has.extends.2.1, has.extends.2.2]
        rfl
      rw [hinsert]
      refine .mapOr hd rfl hn ho rfl
        (Terminal.starters_subset_exprStart _ hv) hc hc' rfl hbefore ?_ has hmoved
      exact hinfix.trans ⟨[⟨name, .afterOperand⟩], commas', by simp⟩
    · refine List.perm_iff_count.mpr fun change => ?_
      have hcount := List.perm_iff_count.mp hcs change
      simp only [List.count_append, List.count_cons, List.count_nil] at hcount ⊢
      omega

theorem join_methodCall {dot name opening : Token} {receiver : Expr} {es : List Expr}
    {stop : Position} {ws ws' : List Lexeme} (hf : Spells (.expr receiver) ws)
    (hr : receiver.rank = 7) (hedge : receiver.edge .dot = false) (hd : dot.terminal = .dot)
    (hn : name.terminal = .name) (ho : opening.terminal = .lparen)
    (hes : Spells (.args .rparen es stop) ws') (hjr : Joins picks text (.expr receiver) ws)
    (hparts : Phrase.Parts picks text ws (.expr receiver))
    (hjes : Joins picks text (.args .rparen es stop) ws') :
    Joins picks text (.expr (.methodCall receiver name es ⟨receiver.extent.start, stop⟩))
      (ws ++ ⟨dot, .memberName⟩ :: ⟨name, .afterOperand⟩ :: ⟨opening, .expressionOrParen⟩ :: ws') := by
  obtain ⟨hnone, hjoin⟩ | ⟨⟨r, m, f, a⟩, y, hsome, hm, rfl, rfl, hjoin⟩ :=
    Expr.join_call picks receiver name es ⟨receiver.extent.start, stop⟩
  · obtain ⟨vs, hs, hmoves⟩ := hjr
    obtain ⟨vs', hs', hmoves'⟩ := hjes
    have h := Spells.methodCall hs ((receiver.rank_join picks).trans hr)
      ((receiver.edge_join picks _).trans hedge) hd hn ho hs'
    rw [receiver.extent_join, ← hjoin] at h
    refine ⟨_, h, Remade.skip (Expr.changes_of_none picks text hnone) ?_⟩
    exact hmoves.append (((hmoves'.cons _).cons _).cons _)
  · exact join_pair hsome hparts hes rfl hjoin

theorem Spells.join {p : Phrase} {ws : List Lexeme} (h : Spells p ws) :
    Joins picks text p ws ∧ p.Parts picks text ws := by
  induction h with
  | int ht => exact ⟨⟨_, .int ht, .kept _⟩, trivial⟩
  | float ht => exact ⟨⟨_, .float ht, .kept _⟩, trivial⟩
  | string ht => exact ⟨⟨_, .string ht, .kept _⟩, trivial⟩
  | true ht => exact ⟨⟨_, .true ht, .kept _⟩, trivial⟩
  | false ht => exact ⟨⟨_, .false ht, .kept _⟩, trivial⟩
  | path ht hts => exact ⟨⟨_, .path ht hts, .kept _⟩, trivial⟩
  | bracketMacro ht hb ho _ ih =>
      obtain ⟨⟨vs, hs, hm⟩, -⟩ := ih
      exact ⟨⟨_, .bracketMacro ht hb ho hs, ((hm.cons _).cons _).cons _⟩, trivial⟩
  | macroCall ht hb ho _ ih =>
      obtain ⟨⟨vs, hs, hm⟩, -⟩ := ih
      exact ⟨⟨_, .macroCall ht hb ho hs, ((hm.cons _).cons _).cons _⟩, trivial⟩
  | paren ho _ hc ih =>
      obtain ⟨⟨vs, hs, hm⟩, -⟩ := ih
      exact ⟨⟨_, .paren ho hs hc, (hm.before _).cons _⟩, trivial⟩
  | tuple ho _ hc _ ih ihs =>
      obtain ⟨⟨vs, hs, hm⟩, -⟩ := ih
      obtain ⟨⟨vs', hs', hm'⟩, -⟩ := ihs
      exact ⟨⟨_, .tuple ho hs hc hs', (hm.append (hm'.cons _)).cons _⟩, trivial⟩
  | array ho _ ih =>
      obtain ⟨⟨vs, hs, hm⟩, -⟩ := ih
      exact ⟨⟨_, .array ho hs, hm.cons _⟩, trivial⟩
  | block _ ih =>
      obtain ⟨⟨vs, hs, hm⟩, -⟩ := ih
      exact ⟨⟨_, .block hs, hm⟩, trivial⟩
  | @cond word test yes ws ws' hw _ hedge _ ih ihyes =>
      obtain ⟨⟨vs, hs, hm⟩, -⟩ := ih
      obtain ⟨⟨vs', hs', hm'⟩, -⟩ := ihyes
      have h := Spells.cond hw hs ((test.edge_join picks _).trans hedge) hs'
      rw [yes.extent_join] at h
      refine ⟨⟨_, h, ?_⟩, trivial⟩
      have := (hm.append hm').cons ⟨word, .expression⟩
      simpa [Phrase.calls, Expr.calls, callsOption] using this
  | @condElse word other test yes no ws ws' ws'' hw _ hedge _ ho _ ih ihyes ihno =>
      obtain ⟨⟨vs, hs, hm⟩, -⟩ := ih
      obtain ⟨⟨vs', hs', hm'⟩, -⟩ := ihyes
      obtain ⟨⟨vs'', hs'', hm''⟩, -⟩ := ihno
      have h := Spells.condElse hw hs ((test.edge_join picks _).trans hedge) hs' ho hs''
      rw [no.extent_join] at h
      exact ⟨⟨_, h, (hm.append (hm'.append (hm''.cons _))).cons _⟩, trivial⟩
  | @condElseIf word other word' test test' yes yes' no' x ws ws' ws'' hw _ hedge _ ho hw' _ ih ihyes
      ihno =>
      obtain ⟨⟨vs, hs, hm⟩, -⟩ := ih
      obtain ⟨⟨vs', hs', hm'⟩, -⟩ := ihyes
      obtain ⟨⟨vs'', hs'', hm''⟩, -⟩ := ihno
      obtain ⟨us, rfl⟩ : ∃ us, vs'' = ⟨word', .expression⟩ :: us := by
        have := hm''.head?
        cases vs'' with
        | nil => cases this
        | cons v us =>
            cases this
            exact ⟨us, rfl⟩
      have h := Spells.condElseIf hw hs ((test.edge_join picks _).trans hedge) hs' ho hw' hs''
      exact ⟨⟨_, h, (hm.append (hm'.append (hm''.cons _))).cons _⟩, trivial⟩
  | @whileLoop word test body ws ws' hw _ hedge _ ih ihbody =>
      obtain ⟨⟨vs, hs, hm⟩, -⟩ := ih
      obtain ⟨⟨vs', hs', hm'⟩, -⟩ := ihbody
      have h := Spells.whileLoop hw hs ((test.edge_join picks _).trans hedge) hs'
      rw [body.extent_join] at h
      exact ⟨⟨_, h, (hm.append hm').cons _⟩, trivial⟩
  | @loop word body ws hw _ ih =>
      obtain ⟨⟨vs, hs, hm⟩, -⟩ := ih
      have h := Spells.loop hw hs
      rw [body.extent_join] at h
      exact ⟨⟨_, h, hm.cons _⟩, trivial⟩
  | @forLoop word inward p iterable body ws ws' ws'' hw hp hi _ hedge _ ih ihbody =>
      obtain ⟨⟨vs, hs, hm⟩, -⟩ := ih
      obtain ⟨⟨vs', hs', hm'⟩, -⟩ := ihbody
      have h := Spells.forLoop hw hp hi hs ((iterable.edge_join picks _).trans hedge) hs'
      rw [body.extent_join] at h
      exact ⟨⟨_, h, (((hm.append hm').cons _).after _).cons _⟩, trivial⟩
  | retNone hw => exact ⟨⟨_, .retNone hw, .kept _⟩, trivial⟩
  | @ret word value ws hw _ ih =>
      obtain ⟨⟨vs, hs, hm⟩, -⟩ := ih
      have h := Spells.ret hw hs
      rw [value.extent_join] at h
      exact ⟨⟨_, h, hm.cons _⟩, trivial⟩
  | brk hw => exact ⟨⟨_, .brk hw, .kept _⟩, trivial⟩
  | cont hw => exact ⟨⟨_, .cont hw, .kept _⟩, trivial⟩
  | @unary op e ws ws' hop _ hr ih =>
      obtain ⟨⟨vs, hs, hm⟩, -⟩ := ih
      have h := Spells.unary hop hs (by rwa [e.rank_join])
      rw [e.extent_join] at h
      exact ⟨⟨_, h, hm.after _⟩, trivial⟩
  | @binary op t left right ws ws' hop _ hlr hedge _ hrr ih ihr =>
      obtain ⟨⟨vs, hs, hm⟩, -⟩ := ih
      obtain ⟨⟨vs', hs', hm'⟩, -⟩ := ihr
      have h := Spells.binary hop hs (by rwa [left.rank_join])
        ((left.edge_join picks _).trans hedge) hs' (by rwa [right.rank_join])
      rw [left.extent_join, right.extent_join] at h
      exact ⟨⟨_, h, hm.append (hm'.cons _)⟩, trivial⟩
  | rangeAll hd => exact ⟨⟨_, .rangeAll hd, .kept _⟩, trivial⟩
  | @rangeTo dots upper ws hd _ hur ih =>
      obtain ⟨⟨vs, hs, hm⟩, -⟩ := ih
      have h := Spells.rangeTo hd hs (by rwa [upper.rank_join])
      rw [upper.extent_join] at h
      exact ⟨⟨_, h, hm.cons _⟩, trivial⟩
  | @rangeFrom dots lower ws hd _ hlr hedge ih =>
      obtain ⟨⟨vs, hs, hm⟩, -⟩ := ih
      have h := Spells.rangeFrom hd hs (by rwa [lower.rank_join])
        ((lower.edge_join picks _).trans hedge)
      rw [lower.extent_join] at h
      exact ⟨⟨_, h, hm.append (.kept _)⟩, trivial⟩
  | @range dots lower upper ws ws' hd _ hlr hedge _ hur ih ihu =>
      obtain ⟨⟨vs, hs, hm⟩, -⟩ := ih
      obtain ⟨⟨vs', hs', hm'⟩, -⟩ := ihu
      have h := Spells.range hd hs (by rwa [lower.rank_join])
        ((lower.edge_join picks _).trans hedge) hs' (by rwa [upper.rank_join])
      rw [lower.extent_join, upper.extent_join] at h
      exact ⟨⟨_, h, hm.append (hm'.cons _)⟩, trivial⟩
  | @call opening callee es stop ws ws' _ hr hedge ho _ ih ihs =>
      obtain ⟨⟨vs, hs, hm⟩, -⟩ := ih
      obtain ⟨⟨vs', hs', hm'⟩, -⟩ := ihs
      have h := Spells.call hs ((callee.rank_join picks).trans hr)
        ((callee.edge_join picks _).trans hedge) ho hs'
      rw [callee.extent_join] at h
      exact ⟨⟨_, h, hm.append (hm'.cons _)⟩, trivial⟩
  | @methodCall dot name opening receiver es stop ws ws' hf hr hedge hd hn ho hes ih ihs =>
      refine ⟨join_methodCall hf hr hedge hd hn ho hes ih.1 ih.2 ihs.1, ?_⟩
      match es, ihs.2 with
      | [], _ | _ :: _ :: _, _ => exact trivial
      | [f], hparts => exact .mk hr hedge hd hn ho rfl ih.1 hparts
  | @field dot name subject ws _ hr hedge hd hn ih =>
      obtain ⟨⟨vs, hs, hm⟩, -⟩ := ih
      have h := Spells.field hs ((subject.rank_join picks).trans hr)
        ((subject.edge_join picks _).trans hedge) hd hn
      rw [subject.extent_join] at h
      exact ⟨⟨_, h, hm.before _⟩, trivial⟩
  | @index opening closing subject position ws ws' _ hr hedge ho _ hc ih ihp =>
      obtain ⟨⟨vs, hs, hm⟩, -⟩ := ih
      obtain ⟨⟨vs', hs', hm'⟩, -⟩ := ihp
      have h := Spells.index hs ((subject.rank_join picks).trans hr)
        ((subject.edge_join picks _).trans hedge) ho hs' hc
      rw [subject.extent_join] at h
      exact ⟨⟨_, h, hm.append ((hm'.before _).cons _)⟩, trivial⟩
  | @closure isMove ps body ws ws' ws'' hmove hh _ ih =>
      obtain ⟨⟨vs, hs, hm⟩, -⟩ := ih
      have h := Spells.closure hmove hh hs
      rw [body.extent_join] at h
      exact ⟨⟨_, h, (hm.after _).after _⟩, trivial⟩
  | argsNil hc => exact ⟨⟨_, .argsNil hc, .kept _⟩, trivial⟩
  | argsLast he hc ih =>
      obtain ⟨vs, hs, hm⟩ := ih.1
      exact ⟨⟨_, .argsLast hs hc, hm.append (.kept _)⟩, ArgParts.mk he ih.1 hc rfl (.inl rfl)⟩
  | @argsCons close comma e es stop ws ws' he hc hes ih ihs =>
      obtain ⟨vs, hs, hm⟩ := ih.1
      obtain ⟨⟨vs', hs', hm'⟩, -⟩ := ihs
      refine ⟨⟨_, .argsCons hs hc hs', hm.append (hm'.cons _)⟩, ?_⟩
      cases es with
      | nil =>
          cases hes with
          | argsNil hclose => exact ArgParts.mk he ih.1 hclose rfl (.inr ⟨comma, hc, rfl⟩)
      | cons f fs => exact trivial
  | mkBlock ho _ hc ih =>
      obtain ⟨⟨vs, hs, hm⟩, -⟩ := ih
      exact ⟨⟨_, .mkBlock ho hs hc, (hm.before _).cons _⟩, trivial⟩
  | itemsNil => exact ⟨⟨_, .itemsNil, .kept _⟩, trivial⟩
  | itemsEmpty hs _ ih =>
      obtain ⟨⟨vs, h, hm⟩, -⟩ := ih
      exact ⟨⟨_, .itemsEmpty hs h, hm.cons _⟩, trivial⟩
  | itemsLet _ _ ih ihs =>
      obtain ⟨⟨vs, hs, hm⟩, -⟩ := ih
      obtain ⟨⟨vs', hs', hm'⟩, -⟩ := ihs
      exact ⟨⟨_, .itemsLet hs hs', hm.append hm'⟩, trivial⟩
  | @itemsSemi semi e is ws ws' _ hsemi _ ih ihs =>
      obtain ⟨⟨vs, hs, hm⟩, -⟩ := ih
      obtain ⟨⟨vs', hs', hm'⟩, -⟩ := ihs
      have h := Spells.itemsSemi hs hsemi hs'
      rw [e.extent_join] at h
      exact ⟨⟨_, h, hm.append (hm'.cons _)⟩, trivial⟩
  | @itemsExpr e is ws ws' _ hend _ ih ihs =>
      obtain ⟨⟨vs, hs, hm⟩, -⟩ := ih
      obtain ⟨⟨vs', hs', hm'⟩, -⟩ := ihs
      have h := Spells.itemsExpr hs (hend.join picks (by rw [hm'.head?])) hs'
      rw [e.extent_join] at h
      exact ⟨⟨_, h, hm.append hm'⟩, trivial⟩
  | letItem hw hp hd _ hs ih =>
      obtain ⟨⟨vs, hv, hm⟩, -⟩ := ih
      exact ⟨⟨_, .letItem hw hp hd hv hs, (((hm.before _).after _).after _).cons _⟩, trivial⟩
  | initNone => exact ⟨⟨_, .initNone, .kept _⟩, trivial⟩
  | init hq _ ih =>
      obtain ⟨⟨vs, hs, hm⟩, -⟩ := ih
      exact ⟨⟨_, .init hq hs, hm.cons _⟩, trivial⟩

end Surface

end ChainLint
