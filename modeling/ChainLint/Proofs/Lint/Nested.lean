import ChainLint.Proofs.Lint.Excerpt
import ChainLint.Proofs.Lint.Fixing

namespace ChainLint

namespace Tree

theorem Fits.nested_or_apart {a b : Int} {ns : List Node} (h : Fits a b ns) :
    ∀ v ∈ ns.flatMap Node.preorder, ∀ w ∈ ns.flatMap Node.preorder,
      v ∈ w.preorder ∨ w ∈ v.preorder ∨ v.span.hi ≤ w.span.lo ∨ w.span.hi ≤ v.span.lo := by
  induction h with
  | nil => exact fun v hv => absurd hv List.not_mem_nil
  | @cons a b n ns hlo hlt hn hparts hns ihparts ih =>
      have hfront {v : Node} (hv : v ∈ n.preorder) : v.span.hi ≤ n.span.hi := by
        have hone : Fits a n.span.hi [n] := .cons hlo hlt hn hparts (.nil (Int.le_refl _))
        exact (hone.forall_preorder v (by rwa [List.flatMap_singleton])).2.2.1
      have hlater {v : Node} (hv : v ∈ ns.flatMap Node.preorder) : n.span.hi ≤ v.span.lo :=
        (hns.forall_preorder v hv).1
      have hinner {v : Node} (hv : v ∈ n.preorder) : v = n ∨ v ∈ n.children.flatMap Node.preorder := by
        rw [Node.preorder_eq] at hv
        exact List.mem_cons.mp hv
      intro v hv w hw
      rcases List.mem_append.mp hv with hv | hv
      · rcases List.mem_append.mp hw with hw | hw
        · rcases hinner hv with rfl | hv'
          · exact .inr (.inl hw)
          · rcases hinner hw with rfl | hw'
            · exact .inl hv
            · exact ihparts v hv' w hw'
        · exact .inr (.inr (.inl (Int.le_trans (hfront hv) (hlater hw))))
      · rcases List.mem_append.mp hw with hw | hw
        · exact .inr (.inr (.inr (Int.le_trans (hfront hw) (hlater hv))))
        · exact ih v hv w hw

end Tree

namespace MapUnwrapOr

open Tree

variable {file : Option String} {text : List Char} {m : Module} {levels : LintLevels}
  {ds : List Diagnostic} {c d : Chain}

def Chain.IsReported (file : Option String) (text : List Char) (ds : List Diagnostic) (c : Chain) :
    Prop := ∃ severity, c.report (Sources.empty.add file text) severity ∈ ds

namespace Chain

theorem mem_functions {a : Analysis} (hc : c ∈ chains a) :
    c.whole ∈ (a.module.functions.map Node.function).flatMap Node.preorder := by
  obtain ⟨hin, hat⟩ := of_mem hc
  rw [Node.preorder_eq, List.mem_cons] at hin
  refine hin.resolve_left fun heq => ?_
  obtain ⟨_, _, _, _, _, _, -, hcall⟩ := hat
  cases hcall.symm.trans heq

theorem span_of_mem (h : (Module.ofText file text .empty).1 = .ok m)
    (hc : c ∈ chains (Analysis.ofModule m)) {n v : Node} (hn : n ∈ c.whole.preorder)
    (hv : v ∈ n.preorder) : n.span.lo ≤ v.span.lo ∧ v.span.lo < v.span.hi ∧ v.span.hi ≤ n.span.hi := by
  obtain ⟨b, hfits⟩ := Analysis.fits_module h
  have hchains : chains (Analysis.ofModule m) =
      ((Analysis.ofModule m).module.functions.map Node.function).flatMap Node.chains :=
    Node.chains_of_none rfl
  rw [hchains] at hc
  obtain ⟨f, hf, hc⟩ := List.mem_flatMap.mp hc
  have hmem := List.mem_flatMap.mpr ⟨f, hf, Node.mem_preorder_trans hn (of_mem hc).1⟩
  obtain ⟨-, hlt, -, -, hparts⟩ := hfits.forall_preorder n hmem
  rw [Node.preorder_eq, List.mem_cons] at hv
  rcases hv with rfl | hv
  · exact ⟨Int.le_refl _, hlt, Int.le_refl _⟩
  · obtain ⟨hlo, hlt, hhi, -⟩ := hparts.forall_preorder v hv
    exact ⟨hlo, hlt, hhi⟩

theorem mem_chains {a : Analysis} (hd : d ∈ chains a) {n : Node} (hn : n ∈ d.whole.preorder)
    (hc : c ∈ n.chains) : c ∈ chains a := by
  obtain ⟨v, hv, hof⟩ := List.mem_filterMap.mp hc
  have hin := Node.mem_preorder_trans (Node.mem_preorder_trans hv hn) (of_mem hd).1
  exact List.mem_filterMap.mpr ⟨v, hin, hof⟩

structure Spread (c : Chain) : Prop where
  front : c.whole.span.lo < c.nameSpan.lo
  receiver : c.receiver.span.hi ≤ c.nameSpan.lo
  mapper : c.mapper.span.hi ≤ c.mapCall.span.hi

theorem IsAt.inner {n : Node} (hat : c.IsAt n) : c.mapCall ∈ n.preorder ∧
    c.receiver ∈ c.mapCall.preorder ∧ c.mapper ∈ c.mapCall.preorder := by
  obtain ⟨i, j, receiver, mapper, fallback, s, hparts, rfl⟩ := hat
  rw [hparts]
  exact ⟨Node.mem_preorder_of_child List.mem_cons_self (Node.mem_preorder_self _),
    Node.mem_preorder_of_child List.mem_cons_self (Node.mem_preorder_self _),
    Node.mem_preorder_of_child (List.mem_cons_of_mem _ List.mem_cons_self)
      (Node.mem_preorder_self _)⟩

theorem IsAt.mem_mapCall {n v : Node} (hat : c.IsAt n)
    (hin : v ∈ c.receiver.preorder ∨ v ∈ c.mapper.preorder) : v ∈ c.mapCall.preorder :=
  hin.elim (Node.mem_preorder_trans · hat.inner.2.1) (Node.mem_preorder_trans · hat.inner.2.2)

theorem spread (h : (Module.ofText file text .empty).1 = .ok m)
    (hc : c ∈ chains (Analysis.ofModule m)) : c.Spread := by
  obtain ⟨hmem, hat⟩ := of_mem hc
  obtain ⟨hmap, hreceiver, hmapper⟩ := hat.inner
  have hname : c.receiver.span.hi ≤ c.nameSpan.lo := by
    have hspanned := (places_of_ofText h (Node.mem_preorder_trans hmap hmem)
      (Node.not_isModule_of_child hat.mapCall.1)).1
    obtain ⟨i, j, receiver, mapper, fallback, s, hparts, -⟩ := hat
    rw [hparts] at hspanned ⊢
    exact hspanned.2.2.1
  obtain ⟨hlo, hlt, -⟩ := span_of_mem h hc (Node.mem_preorder_self _)
    (Node.mem_preorder_trans hreceiver hmap)
  exact ⟨by omega, hname, (span_of_mem h hc hmap hmapper).2.2⟩

theorem in_parts (hc : c ∈ chains (Analysis.ofModule m)) (hd : d ∈ chains (Analysis.ofModule m))
    (hin : c.whole ∈ d.whole.preorder) :
    c = d ∨ c.whole ∈ d.receiver.preorder ∨ c.whole ∈ d.mapper.preorder ∨
      c.whole ∈ d.fallback.preorder := by
  have hat := (of_mem hc).2
  have hat' := (of_mem hd).2
  rw [Node.preorder_eq, List.mem_cons] at hin
  rcases hin with heq | hin
  · rw [heq] at hat
    exact .inl (Option.some.inj
      ((ofNode?_eq_some_iff.mpr hat).symm.trans (ofNode?_eq_some_iff.mpr hat')))
  · refine .inr ?_
    obtain ⟨_, _, _, _, _, _, -, hcall⟩ := hat
    obtain ⟨i, j, receiver, mapper, fallback, s, hparts, hwhole⟩ := hat'
    rw [hwhole] at hin
    rw [hparts]
    simp only [Node.children, Expr.children, List.map_cons, List.map_nil, List.flatMap_cons,
      List.flatMap_nil, List.append_nil, List.mem_append] at hin
    rcases hin with hin | hin
    · rw [Node.preorder_eq, List.mem_cons] at hin
      rcases hin with heq | hin
      · -- The first call is not of the method that the whole of a chain calls.
        rw [hcall] at heq
        injection heq with heq
        injection heq with _ _ hname
        exact absurd hname (by decide)
      · simp only [Node.children, Expr.children, List.map_cons, List.map_nil, List.flatMap_cons,
          List.flatMap_nil, List.append_nil, List.mem_append] at hin
        exact hin.imp_right .inl
    · exact .inr (.inr hin)

namespace Laid

variable {n : Nat}

theorem edits_between (h : c.Laid file n) : ∀ e ∈ c.edits text,
    c.nameSpan.lo ≤ e.span.lo ∧ e.span.lo ≤ e.span.hi ∧ e.span.hi ≤ c.whole.span.hi ∧
      e.span.lo < c.whole.span.hi := by
  obtain ⟨h₁, h₂, h₃, h₄, h₅, h₆, h₇, h₈, -⟩ := h
  have hrename : c.nameSpan.lo ≤ (c.rename text).span.lo ∧
      (c.rename text).span.lo ≤ (c.rename text).span.hi ∧
      (c.rename text).span.hi ≤ c.whole.span.hi ∧ (c.rename text).span.lo < c.whole.span.hi := by
    simp only [rename]
    omega
  have hremove : c.nameSpan.lo ≤ c.remove.span.lo ∧ c.remove.span.lo ≤ c.remove.span.hi ∧
      c.remove.span.hi ≤ c.whole.span.hi ∧ c.remove.span.lo < c.whole.span.hi := by
    simp only [remove, Span.startingAt]
    omega
  have hinsert : c.nameSpan.lo ≤ (c.insert text).span.lo ∧
      (c.insert text).span.lo ≤ (c.insert text).span.hi ∧
      (c.insert text).span.hi ≤ c.whole.span.hi ∧ (c.insert text).span.lo < c.whole.span.hi := by
    simp only [insert, Span.atStart]
    omega
  unfold edits
  split <;> simp [hrename, hremove, hinsert]

theorem apart_of_le (hc : c.Laid file n) (hd : d.Laid file n)
    (hle : c.whole.span.hi ≤ d.nameSpan.lo) :
    ∀ e ∈ c.edits text, ∀ f ∈ d.edits text, e.Apart f := by
  intro e he f hf
  obtain ⟨h₁, h₂, h₃, h₄⟩ := hc.edits_between e he
  obtain ⟨h₅, -⟩ := hd.edits_between f hf
  exact .of_le (by omega) (by omega)

theorem apart_of_mapper (hc : c.Laid file n) (hd : d.Laid file n)
    (hlo : d.mapper.span.lo < c.nameSpan.lo) (hhi : c.whole.span.hi ≤ d.mapCall.span.hi) :
    ∀ e ∈ c.edits text, ∀ f ∈ d.edits text, e.Apart f := by
  intro e he f hf
  obtain ⟨h₁, h₂, h₃, h₄⟩ := hc.edits_between e he
  obtain ⟨h₅, h₆, h₇, h₈, -⟩ := hd
  have hrename : (d.rename text).Apart e :=
    .of_le (by simp only [rename]; omega) (by simp only [rename]; omega)
  have hremove : e.Apart d.remove :=
    .of_le (by simp only [remove, Span.startingAt]; omega)
      (by simp only [remove, Span.startingAt]; omega)
  have hinsert : (d.insert text).Apart e :=
    .of_le (by simp only [insert, Span.atStart]; omega) (by simp only [insert, Span.atStart]; omega)
  have hf : f = d.rename text ∨ f = d.remove ∨ f = d.insert text := by
    unfold edits at hf
    split at hf <;> simp at hf <;> tauto
  rcases hf with rfl | rfl | rfl
  · exact hrename.symm
  · exact hremove
  · exact hinsert.symm

theorem firstOffset (h : c.Laid file n) (help : String) (applicability : Applicability) :
    Suggestion.firstOffset ⟨help, c.edits text, applicability⟩ = c.nameSpan.lo := by
  obtain ⟨h₁, h₂, h₃, h₄, h₅, h₆, h₇, h₈, -⟩ := h
  unfold edits
  split <;>
    · simp only [Suggestion.firstOffset, List.foldl_cons, List.foldl_nil, rename, remove, insert,
        Span.startingAt, Span.atStart]
      omega

end Laid

section

variable (h : (Module.ofText file text .empty).1 = .ok m) (hc : c ∈ chains (Analysis.ofModule m))
  (hd : d ∈ chains (Analysis.ofModule m))

include h hc hd

theorem apart_of_inside (hin : c.whole ∈ d.receiver.preorder ∨ c.whole ∈ d.mapper.preorder) :
    ∀ e ∈ c.edits text, ∀ f ∈ d.edits text, e.Apart f := by
  obtain ⟨hmap, hreceiver, hmapper⟩ := (of_mem hd).2.inner
  obtain ⟨-, hbehind, hbefore⟩ := spread h hd
  rcases hin with hin | hin
  · obtain ⟨-, -, hhi⟩ := span_of_mem h hd (Node.mem_preorder_trans hreceiver hmap) hin
    exact (laid h hc).apart_of_le (laid h hd) (by omega)
  · obtain ⟨hlo, -, hhi⟩ := span_of_mem h hd (Node.mem_preorder_trans hmapper hmap) hin
    have hfront := (spread h hc).front
    exact (laid h hc).apart_of_mapper (laid h hd) (by omega) (by omega)

theorem nested_or_apart : c.whole ∈ d.whole.preorder ∨ d.whole ∈ c.whole.preorder ∨
    c.whole.span.hi ≤ d.whole.span.lo ∨ d.whole.span.hi ≤ c.whole.span.lo := by
  obtain ⟨b, hfits⟩ := Analysis.fits_module h
  exact hfits.nested_or_apart c.whole (mem_functions hc) d.whole (mem_functions hd)

theorem edits_apart (hne : c ≠ d) (hcd : c.whole ∉ d.fallback.preorder)
    (hdc : d.whole ∉ c.fallback.preorder) :
    ∀ e ∈ c.edits text, ∀ f ∈ d.edits text, e.Apart f := by
  rcases nested_or_apart h hc hd with hin | hin | hle | hle
  · rcases in_parts hc hd hin with heq | hin | hin | hin
    · exact absurd heq hne
    · exact apart_of_inside h hc hd (.inl hin)
    · exact apart_of_inside h hc hd (.inr hin)
    · exact absurd hin hcd
  · have hback : ∀ f ∈ d.edits text, ∀ e ∈ c.edits text, f.Apart e := by
      rcases in_parts hd hc hin with heq | hin | hin | hin
      · exact absurd heq.symm hne
      · exact apart_of_inside h hd hc (.inl hin)
      · exact apart_of_inside h hd hc (.inr hin)
      · exact absurd hin hdc
    exact fun e he f hf => (hback f hf e he).symm
  · have hfront := (spread h hd).front
    exact (laid h hc).apart_of_le (laid h hd) (by omega)
  · have hfront := (spread h hc).front
    exact fun e he f hf => ((laid h hd).apart_of_le (laid h hc) (by omega) f hf e he).symm

theorem name_of_fallback (hin : c.whole ∈ d.fallback.preorder) :
    d.nameSpan.lo < c.nameSpan.lo ∧ d.mapCall.span.hi ≤ c.nameSpan.lo ∧
      c.nameSpan.lo < d.whole.span.hi := by
  have hfallback := Node.mem_preorder_of_child (of_mem hd).2.fallback (Node.mem_preorder_self _)
  obtain ⟨hlo, -, hhi⟩ := span_of_mem h hd hfallback hin
  have hfront := (spread h hc).front
  obtain ⟨h₁, h₂, h₃, h₄, h₅, h₆, h₇, h₈, -⟩ := laid h hd
  obtain ⟨k₁, k₂, k₃, k₄, k₅, k₆, k₇, k₈, -⟩ := laid h hc
  omega

theorem not_in_fallback_of_inside
    (hin : c.whole ∈ d.receiver.preorder ∨ c.whole ∈ d.mapper.preorder) :
    c.whole ∉ d.fallback.preorder := by
  intro hfallback
  have hat := (of_mem hd).2
  obtain ⟨-, hlt, hhi⟩ := span_of_mem h hd hat.inner.1 (hat.mem_mapCall hin)
  obtain ⟨-, hlo, -⟩ := name_of_fallback h hc hd hfallback
  obtain ⟨k₁, k₂, k₃, k₄, k₅, k₆, k₇, k₈, -⟩ := laid h hc
  omega

theorem not_in_fallback_of_nested {e : Chain} (he : e ∈ chains (Analysis.ofModule m))
    (hin : c.whole ∈ d.receiver.preorder ∨ c.whole ∈ d.mapper.preorder)
    (hout : d.whole ∉ e.fallback.preorder)
    (hbetween : e.whole ∈ d.whole.preorder → c.whole ∉ e.fallback.preorder) :
    c.whole ∉ e.fallback.preorder := by
  intro hfallback
  have hat := (of_mem hd).2
  have hcd : c.whole ∈ d.whole.preorder := Node.mem_preorder_trans (hat.mem_mapCall hin) hat.inner.1
  rcases nested_or_apart h hd he with hnested | hnested | hle | hle
  · rcases in_parts hd he hnested with rfl | hpart | hpart | hpart
    · exact not_in_fallback_of_inside h hc hd hin hfallback
    · exact not_in_fallback_of_inside h hc he (.inl (Node.mem_preorder_trans hcd hpart)) hfallback
    · exact not_in_fallback_of_inside h hc he (.inr (Node.mem_preorder_trans hcd hpart)) hfallback
    · exact hout hpart
  · exact hbetween hnested hfallback
  all_goals
    have hce : c.whole ∈ e.whole.preorder := Node.mem_preorder_trans hfallback
      (Node.mem_preorder_of_child (of_mem he).2.fallback (Node.mem_preorder_self _))
    have := span_of_mem h hd (Node.mem_preorder_self _) hcd
    have := span_of_mem h he (Node.mem_preorder_self _) hce
    omega

end

theorem IsReported.suggested (h : c.IsReported file text ds) :
    (suggestion (Sources.empty.add file text) c).2 ∈ ds.flatMap Diagnostic.suggestions := by
  obtain ⟨severity, hmem⟩ := h
  exact List.mem_flatMap.mpr ⟨_, hmem, List.mem_singleton_self _⟩

end Chain

section

variable (h : (Module.ofText file text .empty).1 = .ok m)
  (hds : lintText file levels text = .ok ds)

include h hds

theorem reported_of_suggested {s : Suggestion} (hs : s ∈ ds.flatMap Diagnostic.suggestions) :
    ∃ c ∈ chains (Analysis.ofModule m), c.IsReported file text ds ∧
      Reportable (Analysis.ofModule m) c ∧ s = (suggestion (Sources.empty.add file text) c).2 := by
  classical
  obtain ⟨-, -, rfl⟩ := (lintText_eq_run_iff h).mp hds
  cases hl : (levels.get code).severity? with
  | none =>
      rw [run_of_allow _ _ hl] at hs
      cases hs
  | some severity =>
      rw [run_eq h _ hl] at hs
      obtain ⟨r, hr, hs⟩ := List.mem_flatMap.mp hs
      obtain ⟨c, hc, rfl⟩ := List.mem_map.mp hr
      obtain ⟨hmem, hreportable⟩ := List.mem_filter.mp hc
      refine ⟨c, hmem, ⟨severity, ?_⟩, of_decide_eq_true hreportable, List.mem_singleton.mp hs⟩
      rwa [run_eq h _ hl]

namespace Chain

theorem IsReported.suggestion_eq (hc : c ∈ chains (Analysis.ofModule m))
    (hr : c.IsReported file text ds) : suggestion (Sources.empty.add file text) c =
      (c.merge text, ⟨(c.merge text).help, c.edits text, .machineApplicable⟩) := by
  obtain ⟨d, hd, -, hreportable, heq⟩ := reported_of_suggested h hds hr.suggested
  rw [eq_of_nameSpan h hc hd (congrArg Span.lo (nameSpan_of_suggestion heq))]
  exact hreportable.suggestion_eq h hd

theorem isMade_of_not_in_fallback (hc : c ∈ chains (Analysis.ofModule m))
    (hr : c.IsReported file text ds) (hout : ∀ d ∈ chains (Analysis.ofModule m),
      d.IsReported file text ds → c.whole ∉ d.fallback.preorder) : c.isMade file text ds = true := by
  have heq := congrArg Prod.snd (hr.suggestion_eq h hds hc)
  have hcandidate : (suggestion (Sources.empty.add file text) c).2 ∈
      Suggestion.candidates true (ds.flatMap Diagnostic.suggestions) := by
    refine Suggestion.mem_candidates.mpr ⟨hr.suggested, ?_, fun _ => by rw [heq]⟩
    obtain ⟨l, es, hparts⟩ := suggestion_name (Sources.empty.add file text) c
    rw [hparts]
    exact List.cons_ne_nil _ _
  obtain ⟨before, after, hsplit⟩ := List.append_of_mem hcandidate
  rw [isMade, List.contains_iff_mem, Suggestion.made, hsplit]
  refine Suggestion.mem_accept after ?_ (fun _ _ _ he => absurd he List.not_mem_nil) fun t ht => ?_
  · rw [heq]
    exact (laid h hc).edits_apart
  · -- What is taken before the chain is named before it, so it is not in the chain's own fallback.
    have hin : t ∈ ds.flatMap Diagnostic.suggestions :=
      (Suggestion.mem_candidates.mp (hsplit ▸ List.mem_append_left _ ht)).1
    obtain ⟨d, hd, hdr, -, rfl⟩ := reported_of_suggested h hds hin
    have hsorted := Suggestion.candidates_sorted true (ds.flatMap Diagnostic.suggestions)
    have hnodup : (Suggestion.candidates true (ds.flatMap Diagnostic.suggestions)).Nodup :=
      (sortStable_perm _ _).nodup_iff.mpr ((suggestions_nodup h hds).filter _)
    rw [hsplit] at hsorted hnodup
    have hle := (List.pairwise_append.mp hsorted).2.2 _ ht _ List.mem_cons_self
    have hne : c ≠ d := fun hcd =>
      (List.pairwise_append.mp hnodup).2.2 _ ht _ List.mem_cons_self (by rw [hcd])
    have heq' := congrArg Prod.snd (hdr.suggestion_eq h hds hd)
    rw [heq, heq', (laid h hc).firstOffset, (laid h hd).firstOffset] at hle
    rw [heq, heq']
    refine edits_apart h hc hd hne (hout d hd hdr) fun hinner => ?_
    have := (name_of_fallback h hd hc hinner).1
    omega

theorem exists_made_around (hd : d ∈ chains (Analysis.ofModule m))
    (hdr : d.IsReported file text ds) (hin : c.whole ∈ d.fallback.preorder) :
    ∃ e ∈ chains (Analysis.ofModule m), e.isMade file text ds = true ∧
      c.whole ∈ e.fallback.preorder := by
  induction hk : d.nameSpan.lo.toNat using Nat.strong_induction_on generalizing d with
  | h k ih =>
      by_cases hout : ∃ e ∈ chains (Analysis.ofModule m), e.IsReported file text ds ∧
          d.whole ∈ e.fallback.preorder
      · obtain ⟨e, he, her, hinner⟩ := hout
        have hlt := (name_of_fallback h hd he hinner).1
        have hstart := (laid h he).start
        have hfallback := Node.mem_preorder_of_child (of_mem hd).2.fallback (Node.mem_preorder_self _)
        exact ih e.nameSpan.lo.toNat (by omega) he her
          (Node.mem_preorder_trans (Node.mem_preorder_trans hin hfallback) hinner) rfl
      · refine ⟨d, hd, isMade_of_not_in_fallback h hds hd hdr fun e he her hinner => ?_, hin⟩
        exact hout ⟨e, he, her, hinner⟩

theorem isMade_iff (hc : c ∈ chains (Analysis.ofModule m)) (hr : c.IsReported file text ds) :
    c.isMade file text ds = true ↔ ∀ d ∈ chains (Analysis.ofModule m),
      d.IsReported file text ds → c.whole ∉ d.fallback.preorder := by
  refine ⟨fun hmade d hd hdr hin => ?_, isMade_of_not_in_fallback h hds hc hr⟩
  obtain ⟨e, he, hemade, hinner⟩ := exists_made_around h hds hd hdr hin
  obtain ⟨-, hlo, hhi⟩ := name_of_fallback h hc he hinner
  have hnot := not_made_in_removed h hds he hemade hlo hhi
  rw [isMadeAt_nameSpan h hc, hmade] at hnot
  cases hnot

end Chain

/-- A suggestion is taken exactly if its chain is not in the fallback of another chain that is
reported. So chains that stand in each other through what they are called on, or what they map with,
are all merged, however deep. -/
theorem taken_of_nested :
    (∀ s ∈ ds.flatMap Diagnostic.suggestions, ∃ c ∈ chains (Analysis.ofModule m),
      c.IsReported file text ds ∧ s = (suggestion (Sources.empty.add file text) c).2) ∧
    (∀ c ∈ chains (Analysis.ofModule m), c.IsReported file text ds →
      (c.isMade file text ds = true ↔ ∀ d ∈ chains (Analysis.ofModule m),
        d.IsReported file text ds → c.whole ∉ d.fallback.preorder)) ∧
    ∀ c ∈ chains (Analysis.ofModule m), ∀ d ∈ chains (Analysis.ofModule m),
      c.IsReported file text ds → d.IsReported file text ds →
      c.whole ∈ d.receiver.preorder ∨ c.whole ∈ d.mapper.preorder →
      (∀ e ∈ chains (Analysis.ofModule m), e.IsReported file text ds →
        d.whole ∉ e.fallback.preorder ∧
          (e.whole ∈ d.whole.preorder → c.whole ∉ e.fallback.preorder)) →
      c.isMade file text ds = true ∧ d.isMade file text ds = true := by
  refine ⟨fun s hs => ?_, fun c hc hr => Chain.isMade_iff h hds hc hr, ?_⟩
  · obtain ⟨c, hc, hr, -, heq⟩ := reported_of_suggested h hds hs
    exact ⟨c, hc, hr, heq⟩
  · intro c hc d hd hcr hdr hin hout
    refine ⟨(Chain.isMade_iff h hds hc hcr).mpr fun e he her => ?_,
      (Chain.isMade_iff h hds hd hdr).mpr fun e he her => (hout e he her).1⟩
    exact Chain.not_in_fallback_of_nested h hc hd he hin (hout e he her).1 (hout e he her).2

end

theorem exists_taken_of_nested :
    let text := ("fn f(o: Option<i32>, p: Option<i32>) " ++
      "\x7b o.map(|v| p.map(|w| w).unwrap_or(v)).unwrap_or(p.map(|w| w).unwrap_or(2)); \x7d").toList
    ∃ m ds, (Module.ofText none text .empty).1 = .ok m ∧ lintText none {} text = .ok ds ∧
      ∃ d ∈ chains (Analysis.ofModule m), d.isMade none text ds = true ∧
        (∃ c ∈ chains (Analysis.ofModule m), c.whole ∈ d.mapper.preorder ∧
          c.isMade none text ds = true) ∧
        ∃ e ∈ chains (Analysis.ofModule m), e.whole ∈ d.fallback.preorder ∧
          e.IsReported none text ds ∧ e.isMade none text ds = false := by
  intro text
  have hchecked : ((Module.ofText none text .empty).1.toOption.bind fun m =>
      (lintText none {} text).toOption.map fun ds =>
        let reported (c : Chain) := decide (c.report (Sources.empty.add none text) .warning ∈ ds)
        let free (c : Chain) := (chains (Analysis.ofModule m)).all fun e =>
          !(e.fallback.chains.map Chain.nameSpan).contains c.nameSpan
        (chains (Analysis.ofModule m)).any fun d => reported d && free d &&
          (d.mapper.chains.any fun c => reported c && free c) && d.fallback.chains.any reported) =
        some true := by
    decide +kernel
  obtain ⟨m, hm, hchecked⟩ := Option.bind_eq_some_iff.mp hchecked
  obtain ⟨ds, hds, hchecked⟩ := Option.map_eq_some_iff.mp hchecked
  simp only [List.any_eq_true, List.all_eq_true, Bool.and_eq_true, decide_eq_true_eq,
    Bool.not_eq_true', ← Bool.not_eq_true, List.contains_iff_mem] at hchecked
  obtain ⟨d, hd, ⟨⟨hdr, hdfree⟩, c, hcin, hcr, hcfree⟩, e, hein, her⟩ := hchecked
  have hm : (Module.ofText none text .empty).1 = .ok m := ok_of_toOption hm
  have hds : lintText none {} text = .ok ds := ok_of_toOption hds
  have hmapper : d.mapper ∈ d.whole.preorder :=
    Node.mem_preorder_trans (Chain.of_mem hd).2.inner.2.2 (Chain.of_mem hd).2.inner.1
  have hfallback := Node.mem_preorder_of_child (Chain.of_mem hd).2.fallback (Node.mem_preorder_self _)
  have hc := Chain.mem_chains hd hmapper hcin
  have he := Chain.mem_chains hd hfallback hein
  have hfree {c e : Chain} (hin : c.whole ∈ e.fallback.preorder) (hc : c ∈ chains (Analysis.ofModule m)) :
      c.nameSpan ∈ e.fallback.chains.map Chain.nameSpan :=
    List.mem_map_of_mem (List.mem_filterMap.mpr
      ⟨c.whole, hin, Chain.ofNode?_eq_some_iff.mpr (Chain.of_mem hc).2⟩)
  obtain ⟨-, hiff, hnested⟩ := taken_of_nested hm hds
  obtain ⟨hcmade, hdmade⟩ := hnested c hc d hd ⟨_, hcr⟩ ⟨_, hdr⟩ (.inr (Chain.of_mem hcin).1)
    fun e he _ => ⟨fun hin => hdfree e he (hfree hin hd), fun _ hin => hcfree e he (hfree hin hc)⟩
  refine ⟨m, ds, hm, hds, d, hd, hdmade, ⟨c, hc, (Chain.of_mem hcin).1, hcmade⟩, e, he,
    (Chain.of_mem hein).1, ⟨_, her⟩, Bool.eq_false_iff.mpr fun hmade => ?_⟩
  exact (hiff e he ⟨_, her⟩).mp hmade d hd ⟨_, hdr⟩ (Chain.of_mem hein).1

end MapUnwrapOr

end ChainLint
