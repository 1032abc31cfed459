import ChainLint.Proofs.Grammar.Extents
import ChainLint.Proofs.Grammar.Words
import ChainLint.Proofs.Report.Changes

namespace ChainLint

open Lexer Terminal

def Inserts (E : Expectation) (snippet : List Char) (vs : List Word) : Prop :=
  vs ≠ [] ∧ ∃ l, ∃ F ∈ Expectation.expressions, snippet = l ++ [' '] ∧
    ∀ rest, blankRun false (l ++ ' ' :: rest) = [] ∧
      Word.Splits vs E (l ++ ' ' :: rest) F (' ' :: rest)

inductive Rewords : List Lexeme → List Change → List Word → Prop where
  | nil : Rewords [] [] []
  | keep {w : Lexeme} {ws : List Lexeme} {cs : List Change} {us : List Word}
      (h : Rewords ws cs us) : Rewords (w :: ws) cs (w.word :: us)
  | rename {dot name : Lexeme} {l : List Char} {ws : List Lexeme} {cs : List Change}
      {us : List Word} (hd : dot.terminal = .dot) (hE : dot.next = .memberName)
      (hn : name.terminal = .name) (hl : name? l = some l) (h : Rewords ws cs us) :
      Rewords (dot :: name :: ws)
        (⟨name.token.start.offset, name.token.stop.offset, l⟩ :: cs)
        (dot.word :: ⟨.name, l, name.next⟩ :: us)
  | insert {opening x : Lexeme} {snippet : List Char} {ws : List Lexeme} {cs : List Change}
      {us vs : List Word} (ho : opening.terminal = .lparen)
      (hE : opening.next ∈ Expectation.expressions) (hx : x.terminal ∈ exprStart)
      (hv : Inserts opening.next snippet vs) (h : Rewords (x :: ws) cs us) :
      Rewords (opening :: x :: ws)
        (⟨x.token.start.offset, x.token.start.offset, snippet⟩ :: cs)
        (opening.word :: (vs ++ us))
  | drop {closing d : Lexeme} {ds ws : List Lexeme} {cs : List Change} {us : List Word}
      (hc : closing.terminal = .rparen) (hd : d.next = closing.next) (h : Rewords ws cs us) :
      Rewords (closing :: (ds ++ d :: ws))
        (⟨closing.token.stop.offset, d.token.stop.offset, []⟩ :: cs) (closing.word :: us)

namespace Rewords

variable {ws ws' : List Lexeme} {cs cs' : List Change} {us us' : List Word}

theorem refl (ws : List Lexeme) : Rewords ws [] (ws.map Lexeme.word) := by
  induction ws with
  | nil => exact .nil
  | cons w ws ih => exact .keep ih

theorem append (h : Rewords ws cs us) (h' : Rewords ws' cs' us') :
    Rewords (ws ++ ws') (cs ++ cs') (us ++ us') := by
  induction h with
  | nil => exact h'
  | keep _ ih => exact .keep ih
  | rename hd hE hn hl _ ih => exact .rename hd hE hn hl ih
  | insert ho hE hx hv _ ih =>
      have := Rewords.insert ho hE hx hv ih
      rwa [← List.append_assoc] at this
  | drop hc hd _ ih =>
      rw [List.cons_append, List.append_assoc, List.cons_append]
      exact .drop hc hd ih

theorem head {w : Lexeme} (h : Rewords (w :: ws) cs us) : ∃ us', us = w.word :: us' := by
  cases h <;> exact ⟨_, rfl⟩

end Rewords

namespace Pending

theorem Cuts.text {ws : List Lexeme} {s s' : Pending} (h : s.Cuts ws s') :
    ∃ consumed, s.text = consumed ++ s'.text ∧
      s'.place.offset = s.place.offset + consumed.length := by
  induction ws generalizing s with
  | nil =>
      cases h
      exact ⟨[], rfl, rfl⟩
  | cons w ws ih =>
      obtain ⟨rest, hw, h⟩ := h
      obtain ⟨consumed, rfl, hplace⟩ := ih h
      refine ⟨blankRun false s.text ++ w.token.text ++ consumed, ?_, ?_⟩
      · rw [List.append_assoc, List.append_assoc]
        exact hw.text
      · rw [hplace, hw.stop_offset, hw.start, Position.advance_offset]
        simp only [List.length_append]
        omega

theorem Cuts.last {w : Lexeme} {ws : List Lexeme} {s s' : Pending} (h : s.Cuts (ws ++ [w]) s') :
    s'.expected = w.next ∧ s'.place = w.token.stop := by
  obtain ⟨m, -, rest, -, rfl⟩ := cuts_append.mp h
  exact ⟨rfl, rfl⟩

theorem CutsOne.blank {s : Pending} {t : Token} {rest : List Char} (h : s.CutsOne t rest) :
    blankRun false (t.text ++ rest) = [] := by
  have htext := h.text
  generalize hb : blankRun false s.text = b at htext
  rw [htext] at hb
  exact blankRun_rest hb

end Pending

/-- What the changes make of a text: the blanks before its first word stay, its other characters
become others, and the words are those they should be, whatever comes after them that ends the last
word. -/
structure Retexts (ws : List Lexeme) (cs : List Change) (us : List Word) (s s' : Pending)
    (b core out : List Char) : Prop where
  text : s.text = b ++ (core ++ s'.text)
  offset : s'.place.offset = s.place.offset + b.length + core.length
  first : ∀ w ∈ ws.head?, w.token.start.offset = s.place.offset + b.length ∧ core ≠ [] ∧
    blankRun false (b ++ (core ++ s'.text)) = b
  merges : Merges (s.place.offset + b.length) core cs out
  later : ∀ c ∈ cs, s.place.offset + b.length < c.hi
  sorted : cs.Pairwise fun c d => c.hi < d.hi
  follows : ∀ {rest}, Follows s'.text rest → Follows (core ++ s'.text) (out ++ rest)
  blank : ∀ {rest}, Follows s'.text rest → ws ≠ [] → blankRun false (out ++ rest) = []
  splits : ∀ {rest}, Follows s'.text rest →
    Word.Splits us s.expected (b ++ (out ++ rest)) s'.expected rest

namespace Retexts

variable {ws : List Lexeme} {cs : List Change} {us : List Word} {s s' m : Pending}
  {b core out rest : List Char}

theorem nil (s : Pending) : Retexts [] [] [] s s [] [] [] where
  text := rfl
  offset := rfl
  first := nofun
  merges := .done
  later := nofun
  sorted := .nil
  follows := id
  blank := fun _ h => absurd rfl h
  splits := fun _ => ⟨rfl, rfl⟩

theorem followsAll (h : Retexts ws cs us m s' b core out) (hrest : Follows s'.text rest) :
    Follows m.text (b ++ (out ++ rest)) := by
  rw [h.text]
  exact (h.follows hrest).append b

theorem cons {w : Lexeme} {text : List Char} (hw : s.CutsOne w.token text)
    (h : Retexts ws cs us ⟨w.next, w.token.stop, text⟩ s' b core out) :
    Retexts (w :: ws) cs (w.word :: us) s s' (blankRun false s.text)
      (w.token.text ++ (b ++ core)) (w.token.text ++ (b ++ out)) := by
  have htext : text = b ++ (core ++ s'.text) := h.text
  have hstart : w.token.start.offset = s.place.offset + (blankRun false s.text).length := by
    rw [hw.start, Position.advance_offset]
  have hstop := hw.stop_offset
  have hcore : w.token.text ++ (b ++ core) ++ s'.text = w.token.text ++ text := by
    rw [htext]
    simp
  have hblank : blankRun false (blankRun false s.text ++ (w.token.text ++ text)) =
      blankRun false s.text := by
    rw [← hw.text]
  have hout : ∀ rest, w.token.text ++ (b ++ out) ++ rest =
      w.token.text ++ (b ++ (out ++ rest)) := by simp
  refine ⟨?_, ?_, ?_, ?_, ?_, h.sorted, ?_, ?_, ?_⟩
  · rw [hcore]
    exact hw.text
  · have := h.offset
    simp only [List.length_append] at this ⊢
    omega
  · rintro v hv
    cases hv
    rw [hcore]
    exact ⟨hstart, by simp [hw.ne_nil], hblank⟩
  · rw [← List.append_assoc w.token.text, ← List.append_assoc w.token.text]
    refine .keep ?_
    have := h.merges
    rw [List.length_append]
    rwa [hstop, hstart, Nat.add_assoc _ _ b.length] at this
  · intro c hc
    have := h.later c hc
    simp only at this
    omega
  · intro rest hrest
    rw [hcore, hout]
    exact (h.followsAll hrest).append _
  · intro rest hrest _
    rw [hout]
    exact blankRun_follows (h.followsAll hrest) hw.ne_nil hw.blank
  · intro rest hrest
    rw [hout]
    refine ⟨b ++ (out ++ rest), .of_blank (w := w.word) ?_ ?_, h.splits hrest⟩
    · refine blankRun_lead hblank (by simp [hw.ne_nil]) ?_
      exact blankRun_follows (h.followsAll hrest) hw.ne_nil hw.blank
    · exact scan_follows (h.followsAll hrest) hw.scan

theorem follows_rename {bn n l a : List Char} (a' : List Char)
    (hbn : blankRun false (bn ++ (n ++ a)) = bn) (hn : n ≠ []) (hl : name? l = some l) :
    Follows ('.' :: (bn ++ (n ++ a))) ('.' :: (bn ++ (l ++ a'))) := by
  by_cases hb : bn = []
  · obtain ⟨c, l, rfl, hc⟩ := name?_self_cons hl
    subst hb
    refine ⟨['.'], c :: (l ++ a'), rfl, ⟨n ++ a, rfl⟩, .inr ⟨⟨[], rfl⟩, c, rfl, hc⟩⟩
  · obtain ⟨b', c, rfl, hc⟩ := blankRun_last hbn (by simp [hn]) hb
    refine ⟨'.' :: b', c :: (l ++ a'), by simp, ⟨c :: (n ++ a), by simp⟩, .inl fun d hd => ?_⟩
    cases hd
    simp [isBreak, hc]

theorem scan_rename {E : List Terminal} {bn n l a : List Char} (a' : List Char)
    (hbn : blankRun false (bn ++ (n ++ a)) = bn) (hn : n ≠ []) (hl : name? l = some l)
    (hs : Lexer.scan E ('.' :: (bn ++ (n ++ a))) = some (.dot, ['.'])) :
    Lexer.scan E ('.' :: (bn ++ (l ++ a'))) = some (.dot, ['.']) := by
  by_cases hb : bn = []
  · obtain ⟨c, l, rfl, hc⟩ := name?_self_cons hl
    subst hb
    exact scan_dot (scan_terminal hs) hc
  · obtain ⟨b', c, rfl, hc⟩ := blankRun_last hbn (by simp [hn]) hb
    refine scan_follows (t := ['.']) (a := b' ++ [c] ++ (n ++ a)) ?_ hs
    refine ⟨b', c :: (l ++ a'), by simp, ⟨c :: (n ++ a), by simp⟩, .inl fun d hd => ?_⟩
    cases hd
    simp [isBreak, hc]

theorem rename {dot name : Lexeme} {l text text' : List Char} (hd : dot.terminal = .dot)
    (hE : dot.next = .memberName) (hn : name.terminal = .name) (hl : name? l = some l)
    (hdot : s.CutsOne dot.token text)
    (hname : (Pending.mk dot.next dot.token.stop text).CutsOne name.token text')
    (h : Retexts ws cs us ⟨name.next, name.token.stop, text'⟩ s' b core out) :
    Retexts (dot :: name :: ws) (⟨name.token.start.offset, name.token.stop.offset, l⟩ :: cs)
      (dot.word :: ⟨.name, l, name.next⟩ :: us) s s' (blankRun false s.text)
      (dot.token.text ++ (blankRun false text ++ (name.token.text ++ (b ++ core))))
      (dot.token.text ++ (blankRun false text ++ (l ++ (b ++ out)))) := by
  have hold := (h.cons hname).cons hdot
  have hplace := h.offset
  have hspell : dot.token.text = ['.'] := by
    have := scan_spelling hdot.scan (by rw [show dot.token.terminal = _ from hd]; decide)
    rwa [show dot.token.terminal = _ from hd] at this
  have hbn : blankRun false (blankRun false text ++ (name.token.text ++ text')) =
      blankRun false text := by
    have := hname.text
    simp only at this
    rw [← this]
  have hstart : name.token.start.offset =
      dot.token.stop.offset + (blankRun false text).length := by
    rw [hname.start, Position.advance_offset]
  have hdotstart : dot.token.start.offset =
      s.place.offset + (blankRun false s.text).length := (hold.first dot rfl).1
  have hstop := hname.stop_offset
  have hdotstop := hdot.stop_offset
  have htext : dot.token.text ++ (blankRun false text ++ (name.token.text ++ (b ++ core))) ++
      s'.text = dot.token.text ++ (blankRun false text ++ (name.token.text ++ text')) := by
    have : text' = b ++ (core ++ s'.text) := h.text
    rw [this]
    simp
  have hout : ∀ rest, dot.token.text ++ (blankRun false text ++ (l ++ (b ++ out))) ++ rest =
      '.' :: (blankRun false text ++ (l ++ (b ++ (out ++ rest)))) := by
    simp [hspell]
  have hscandot := hdot.scan
  have htext' := hname.text
  simp only at htext'
  rw [htext', hspell, show dot.token.terminal = _ from hd] at hscandot
  have hblank : ∀ rest, blankRun false ('.' :: rest) = [] := fun rest =>
    blankRun_eq_nil.mpr ⟨by decide, fun h => absurd h.1 (by decide)⟩
  refine ⟨hold.text, hold.offset, hold.first, ?_, ?_, ?_, ?_, ?_, ?_⟩
  · rw [← List.append_assoc dot.token.text, ← List.append_assoc dot.token.text]
    refine .keep (.here ?_ ?_ (.keep h.merges))
    · simp only [List.length_append]
      omega
    · simp only [List.length_append]
      omega
  · intro c hc
    rcases List.mem_cons.mp hc with rfl | hc
    · have := List.length_pos_iff.mpr hname.ne_nil
      simp only
      omega
    · have := h.later c hc
      simp only at this
      omega
  · refine .cons (fun c hc => ?_) h.sorted
    exact Nat.lt_of_le_of_lt (Nat.le_add_right _ _) (h.later c hc)
  · intro rest hrest
    have := follows_rename (b ++ (out ++ rest)) hbn hname.ne_nil hl
    rw [htext, hout, hspell]
    exact this
  · intro rest _ _
    rw [hout]
    exact hblank _
  · intro rest hrest
    have hnew := scan_rename (b ++ (out ++ rest)) hbn hname.ne_nil hl hscandot
    have hold' := scan_follows (h.followsAll hrest) hname.scan
    simp only [hE] at hold'
    rw [show name.token.terminal = _ from hn] at hold'
    have hfirst := (hold.first dot rfl).2.2
    rw [htext, hspell] at hfirst
    rw [hout]
    refine ⟨blankRun false text ++ (l ++ (b ++ (out ++ rest))), ?_, _, ?_, h.splits hrest⟩
    · have hw : dot.word = ⟨.dot, ['.'], dot.next⟩ := by
        rw [Lexeme.word, hd, hspell]
      rw [hw]
      exact .of_blank (w := ⟨.dot, ['.'], dot.next⟩)
        (blankRun_lead hfirst (by simp) (hblank _)) hnew
    · rw [show dot.word.next = _ from hE]
      refine .of_blank (w := ⟨.name, l, name.next⟩) ?_ (scan_member hold' hl)
      exact blankRun_lead hbn (by simp [hname.ne_nil]) (blankRun_name hl _)

theorem mark_follows {t : Terminal} (ht : t ∈ marks) (a a' : List Char) :
    Follows a (t.spelling ++ a') := by
  refine .of_breaks fun c hc => ?_
  simp only [marks, List.mem_cons, List.not_mem_nil, or_false] at ht
  rcases ht with rfl | rfl | rfl | rfl | rfl | rfl | rfl | rfl <;>
    · cases hc
      rfl

theorem replaceAfter {w : Lexeme} {t : Terminal} {old new text : List Char}
    {cs' : List Change} {us' : List Word} (ht : t ∈ marks) (hw : w.terminal = t)
    (hone : s.CutsOne w.token text) (htext : text = old ++ s'.text)
    (hplace : s'.place.offset = w.token.stop.offset + old.length)
    (hmerges : Merges w.token.stop.offset old cs' new)
    (hlater : ∀ c ∈ cs', w.token.start.offset < c.hi)
    (hsorted : cs'.Pairwise fun c d => c.hi < d.hi)
    (hsplits : ∀ {rest}, Follows s'.text rest →
      Word.Splits us' w.next (new ++ rest) s'.expected rest) :
    Retexts (w :: ws) cs' (w.word :: us') s s' (blankRun false s.text) (w.token.text ++ old)
      (w.token.text ++ new) := by
  have hE : t ∈ s.expected.terminals := hw ▸ hone.terminal_mem
  have hspell : w.token.text = t.spelling := by
    have hscan := hone.scan
    rw [show w.token.terminal = _ from hw] at hscan
    refine scan_spelling hscan ?_
    revert ht
    cases t <;> decide
  have hword : w.word = ⟨t, t.spelling, w.next⟩ := by
    rw [Lexeme.word, hw, hspell]
  have hstart : w.token.start.offset = s.place.offset + (blankRun false s.text).length := by
    rw [hone.start, Position.advance_offset]
  have hstop := hone.stop_offset
  have hblank : blankRun false (blankRun false s.text ++ (w.token.text ++ text)) =
      blankRun false s.text := by
    rw [← hone.text]
  have hold : w.token.text ++ old ++ s'.text = w.token.text ++ text := by
    rw [htext, List.append_assoc]
  refine ⟨?_, ?_, ?_, ?_, ?_, hsorted, ?_, ?_, ?_⟩
  · rw [hold]
    exact hone.text
  · simp only [List.length_append]
    omega
  · rintro v hv
    cases hv
    rw [hold]
    exact ⟨hstart, by simp [hone.ne_nil], hblank⟩
  · refine .keep ?_
    rwa [hstop, hstart] at hmerges
  · intro c hc
    rw [← hstart]
    exact hlater c hc
  · intro rest _
    rw [hspell, List.append_assoc, List.append_assoc]
    exact mark_follows ht _ _
  · intro rest _ _
    rw [hspell, List.append_assoc]
    exact (scan_mark ht hE _).2
  · intro rest hrest
    refine ⟨new ++ rest, ?_, hsplits hrest⟩
    rw [hword, hspell, List.append_assoc]
    refine .of_blank (w := ⟨t, t.spelling, w.next⟩) ?_ (scan_mark ht hE _).1
    exact blankRun_lead hblank (by simp [hone.ne_nil]) (scan_mark ht hE _).2

theorem insert {opening x : Lexeme} {snippet text : List Char} {vs : List Word}
    (ho : opening.terminal = .lparen) (hE : opening.next ∈ Expectation.expressions)
    (hx : x.terminal ∈ exprStart) (hv : Inserts opening.next snippet vs)
    (hus : ∃ us', us = x.word :: us') (hone : s.CutsOne opening.token text)
    (h : Retexts (x :: ws) cs us ⟨opening.next, opening.token.stop, text⟩ s' b core out) :
    Retexts (opening :: x :: ws) (⟨x.token.start.offset, x.token.start.offset, snippet⟩ :: cs)
      (opening.word :: (vs ++ us)) s s' (blankRun false s.text) (opening.token.text ++ (b ++ core))
      (opening.token.text ++ (b ++ (snippet ++ out))) := by
  obtain ⟨hfirst, hcore, hblank⟩ := h.first x rfl
  simp only at hfirst
  have hplace := h.offset
  simp only at hplace
  have hlt := hone.start_lt_stop
  obtain ⟨hvs, l, F, hF, rfl, hv⟩ := hv
  have hmerges := h.merges
  simp only at hmerges
  refine replaceAfter (t := .lparen) (by decide) ho hone ?_ ?_ ?_ ?_ ?_ ?_
  · rw [List.append_assoc]
    exact h.text
  · rw [List.length_append]
    omega
  · refine .keep ?_
    rw [← hfirst]
    rw [← hfirst] at hmerges
    exact @Merges.here _ _ _ _ [] _ rfl rfl hmerges
  · intro c hc
    rcases List.mem_cons.mp hc with rfl | hc
    · simp only
      omega
    · have := h.later c hc
      simp only at this
      omega
  · refine .cons (fun c hc => ?_) h.sorted
    simp only
    rw [hfirst]
    exact h.later c hc
  · intro rest hrest
    obtain ⟨us', rfl⟩ := hus
    obtain ⟨v, vs, rfl⟩ := List.exists_cons_of_ne_nil hvs
    obtain ⟨hvblank, hvsplits⟩ := hv (out ++ rest)
    have hout := h.blank hrest (List.cons_ne_nil x ws)
    have hspace : blankRun false ([' '] ++ (out ++ rest)) = [' '] := by
      rw [List.singleton_append, blankRun, if_pos (by decide), hout]
    have htext : b ++ (l ++ [' '] ++ out) ++ rest = b ++ (l ++ ' ' :: (out ++ rest)) := by
      simp
    rw [htext]
    refine Word.splits_append.mpr ⟨F, ' ' :: (out ++ rest), ?_, ?_⟩
    · refine hvsplits.lead hvblank (blankRun_lead hblank ?_ hvblank)
      exact List.append_ne_nil_of_left_ne_nil hcore _
    · have hsplits := h.splits hrest
      simp only at hsplits
      have hx' := (hsplits.unlead (blankRun_lead hblank
        (List.append_ne_nil_of_left_ne_nil hcore _) hout)).expect hout fun hscan =>
          scan_expression (List.Subset.trans operandStart_subset_exprStart
            (Expectation.exprStart_subset hE)) hF hx (fun hname => ?_) hscan
      · exact hx'.lead hout hspace
      · rw [show x.word.terminal = _ from hname] at hscan
        exact scan_name_ne (by decide) (Expectation.exprStart_subset hE (by decide)) hscan

theorem drop {closing d : Lexeme} {ds : List Lexeme} {text : List Char}
    (hc : closing.terminal = .rparen) (hd : d.next = closing.next)
    (hone : s.CutsOne closing.token text)
    (hcuts : (Pending.mk closing.next closing.token.stop text).Cuts (ds ++ [d]) m)
    (h : Retexts ws cs us m s' b core out) :
    ∃ old, Retexts (closing :: (ds ++ d :: ws))
      (⟨closing.token.stop.offset, d.token.stop.offset, []⟩ :: cs) (closing.word :: us) s s'
      (blankRun false s.text) (closing.token.text ++ (old ++ (b ++ core)))
      (closing.token.text ++ (b ++ out)) := by
  obtain ⟨old, hold, hoffset⟩ := hcuts.text
  obtain ⟨hexpected, hstop⟩ := hcuts.last
  simp only at hold hoffset
  have hlt := hone.start_lt_stop
  have hplace := h.offset
  have htext := h.text
  refine ⟨old, replaceAfter (t := .rparen) (by decide) hc hone ?_ ?_ ?_ ?_ ?_ ?_⟩
  · rw [hold, htext]
    simp
  · simp only [List.length_append]
    omega
  · have hmerges : Merges m.place.offset (b ++ core) cs (b ++ out) := .keep h.merges
    rw [hstop] at hmerges
    refine .here rfl ?_ hmerges
    simp only
    rw [← hstop, hoffset]
  · intro c hc
    rcases List.mem_cons.mp hc with rfl | hc
    · simp only
      rw [← hstop]
      omega
    · have := h.later c hc
      omega
  · refine .cons (fun c hc => ?_) h.sorted
    simp only
    rw [← hstop]
    have := h.later c hc
    omega
  · intro rest hrest
    have := h.splits hrest
    rw [hexpected, hd] at this
    rwa [List.append_assoc]

end Retexts

theorem Rewords.retexts {ws : List Lexeme} {cs : List Change} {us : List Word}
    (h : Rewords ws cs us) {s s' : Pending} (hcuts : s.Cuts ws s') :
    ∃ b core out, Retexts ws cs us s s' b core out := by
  induction h generalizing s with
  | nil =>
      cases hcuts
      exact ⟨[], [], [], .nil _⟩
  | keep h ih =>
      obtain ⟨rest, hw, hcuts⟩ := hcuts
      obtain ⟨b, core, out, h⟩ := ih hcuts
      exact ⟨_, _, _, h.cons hw⟩
  | rename hd hE hn hl h ih =>
      obtain ⟨rest, hdot, rest', hname, hcuts⟩ := hcuts
      obtain ⟨b, core, out, h⟩ := ih hcuts
      exact ⟨_, _, _, h.rename hd hE hn hl hdot hname⟩
  | insert ho hE hx hv h ih =>
      obtain ⟨rest, hone, hcuts⟩ := hcuts
      obtain ⟨b, core, out, h'⟩ := ih hcuts
      exact ⟨_, _, _, h'.insert ho hE hx hv h.head hone⟩
  | @drop closing d ds ws cs us hc hd h ih =>
      obtain ⟨rest, hone, hcuts⟩ := hcuts
      rw [List.append_cons] at hcuts
      obtain ⟨m, hds, hcuts⟩ := Pending.cuts_append.mp hcuts
      obtain ⟨b, core, out, h⟩ := ih hcuts
      obtain ⟨old, h⟩ := h.drop hc hd hone hds
      exact ⟨_, _, _, h⟩

end ChainLint
