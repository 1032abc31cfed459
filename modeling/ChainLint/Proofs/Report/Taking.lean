import ChainLint.Proofs.Report.Applying
import Mathlib.Data.List.FinRange
import Mathlib.Data.List.Perm.Basic
import Mathlib.Order.Bounds.Basic

namespace ChainLint

section

variable {α β : Type} {le : α → α → Bool}

theorem insertSorted_map (f : β → α) (x : β) (xs : List β) :
    insertSorted le (f x) (xs.map f) =
      (insertSorted (fun a b => le (f a) (f b)) x xs).map f := by
  induction xs with
  | nil => rfl
  | cons y ys ih =>
      rw [List.map_cons, insertSorted, insertSorted]
      split
      · rfl
      · rw [ih, List.map_cons]

theorem sortStable_map (f : β → α) (xs : List β) :
    sortStable le (xs.map f) = (sortStable (fun a b => le (f a) (f b)) xs).map f := by
  induction xs with
  | nil => rfl
  | cons x xs ih =>
      change insertSorted le (f x) (sortStable le (xs.map f)) = _
      rw [ih, insertSorted_map]
      rfl

theorem sortStable_stable (total : ∀ a b, le a b = true ∨ le b a = true)
    (trans : ∀ a b c, le a b = true → le b c = true → le a c = true) {R : α → α → Prop}
    {xs : List α} (h : xs.Pairwise R) :
    (sortStable le xs).Pairwise fun a b => le a b = true ∧ (le b a = true → R a b) := by
  have hinsert {x : α} {ys : List α} (hx : ∀ y ∈ ys, R x y)
      (hys : ys.Pairwise fun a b => le a b = true ∧ (le b a = true → R a b)) :
      (insertSorted le x ys).Pairwise fun a b => le a b = true ∧ (le b a = true → R a b) := by
    induction hys with
    | nil => exact List.pairwise_singleton _ x
    | @cons y ys hy hys ih =>
        rw [insertSorted]
        split
        · next hxy =>
            refine .cons (fun z hz => ⟨?_, fun _ => hx z hz⟩) (.cons hy hys)
            rcases List.mem_cons.mp hz with rfl | hz
            · exact hxy
            · exact trans _ _ _ hxy (hy z hz).1
        · next hxy =>
            refine .cons (fun z hz => ?_) (ih fun z hz => hx z (List.mem_cons_of_mem y hz))
            rcases List.mem_cons.mp ((insertSorted_perm le x ys).mem_iff.mp hz) with rfl | hz
            · exact ⟨(total _ _).resolve_left hxy, fun hle => absurd hle hxy⟩
            · exact hy z hz
  induction h with
  | nil => exact .nil
  | @cons x xs hx _ ih =>
      exact hinsert (fun y hy => hx y ((sortStable_perm le xs).mem_iff.mp hy)) ih

end

namespace Edit

/-- Two insertions at one place, two edits that take away one character, or an insertion inside of what the
other takes away. -/
def Collides (e f : Edit) : Prop :=
  (e.span.lo = e.span.hi ∧ f.span.lo = f.span.hi ∧ e.span.lo = f.span.lo) ∨
  (∃ k, (e.span.lo ≤ k ∧ k < e.span.hi) ∧ f.span.lo ≤ k ∧ k < f.span.hi) ∨
  (e.span.lo = e.span.hi ∧ f.span.lo < e.span.lo ∧ e.span.lo < f.span.hi) ∨
  (f.span.lo = f.span.hi ∧ e.span.lo < f.span.lo ∧ f.span.lo < e.span.hi)

theorem overlaps_iff {e f : Edit} (he : e.span.lo ≤ e.span.hi) (hf : f.span.lo ≤ f.span.hi) :
    e.overlaps f = true ↔ e.Collides f := by
  rw [overlaps, Collides]
  split
  · next hempty =>
      rw [beq_iff_eq]
      refine ⟨fun h => .inl ⟨hempty.1, hempty.2, h⟩, ?_⟩
      rintro (h | ⟨k, h⟩ | h | h) <;> omega
  · next hempty =>
      rw [Bool.and_eq_true, decide_eq_true_eq, decide_eq_true_eq]
      constructor
      · intro h
        by_cases he' : e.span.lo = e.span.hi
        · exact .inr (.inr (.inl ⟨he', by omega, by omega⟩))
        · by_cases hf' : f.span.lo = f.span.hi
          · exact .inr (.inr (.inr ⟨hf', by omega, by omega⟩))
          · exact .inr (.inl ⟨max e.span.lo f.span.lo, by omega, by omega⟩)
      · rintro (h | ⟨k, h⟩ | h | h) <;> omega

theorem apart_iff {e f : Edit} (he : e.span.lo ≤ e.span.hi) (hf : f.span.lo ≤ f.span.hi) :
    e.Apart f ↔ ¬ e.Collides f := by
  rw [Apart, ← overlaps_iff he hf, Bool.not_eq_true]

end Edit

namespace Suggestion

def isCandidate (onlyMachine : Bool) (s : Suggestion) : Bool :=
  !s.parts.isEmpty && (!onlyMachine || s.applicability = .machineApplicable)

theorem isLeast_firstOffset {s : Suggestion} (h : s.parts ≠ []) :
    IsLeast {k | ∃ e ∈ s.parts, e.span.lo = k} s.firstOffset := by
  have hfold (m : Int) (ps : List Edit) :
      IsLeast {k | k = m ∨ ∃ e ∈ ps, e.span.lo = k} (ps.foldl (fun m q => min m q.span.lo) m) := by
    induction ps generalizing m with
    | nil => simp [IsLeast]
    | cons p ps ih =>
        obtain ⟨hmem, hle⟩ := ih (min m p.span.lo)
        refine ⟨?_, ?_⟩
        · rcases hmem with hmem | ⟨e, he, hlo⟩
          · rcases Int.le_total m p.span.lo with hm | hm
            · exact .inl (hmem.trans (Int.min_eq_left hm))
            · exact .inr ⟨p, List.mem_cons_self, (hmem.trans (Int.min_eq_right hm)).symm⟩
          · exact .inr ⟨e, List.mem_cons_of_mem p he, hlo⟩
        · have hleft := hle (Set.mem_ofPred.mpr (.inl rfl))
          rintro k (rfl | ⟨e, he, rfl⟩)
          · exact hleft.trans (Int.min_le_left ..)
          · rcases List.mem_cons.mp he with rfl | he
            · exact hleft.trans (Int.min_le_right ..)
            · exact hle (.inr ⟨e, he, rfl⟩)
  obtain ⟨p, ps, hps⟩ := List.exists_cons_of_ne_nil h
  have hp := hfold p.span.lo ps
  rw [firstOffset, hps]
  simpa [eq_comm] using hp

def Precedes (ss : List Suggestion) (i j : Fin ss.length) : Prop :=
  ss[i].firstOffset < ss[j].firstOffset ∨ ss[i].firstOffset = ss[j].firstOffset ∧ i < j

def places (onlyMachine : Bool) (ss : List Suggestion) : List (Fin ss.length) :=
  sortStable (fun i j => ss[i].firstOffset ≤ ss[j].firstOffset)
    ((List.finRange ss.length).filter fun i => ss[i].isCandidate onlyMachine)

theorem mem_places {onlyMachine : Bool} {ss : List Suggestion} {i : Fin ss.length} :
    i ∈ places onlyMachine ss ↔ ss[i].isCandidate onlyMachine = true := by
  rw [places, (sortStable_perm _ _).mem_iff, List.mem_filter]
  exact and_iff_right (List.mem_finRange i)

theorem places_precede (onlyMachine : Bool) (ss : List Suggestion) :
    (places onlyMachine ss).Pairwise (Precedes ss) := by
  refine (sortStable_stable (fun i j => ?_) (fun i j k hij hjk => ?_)
    ((List.pairwise_lt_finRange ss.length).filter _)).imp fun {i j} hij => ?_
  · simpa using Int.le_total _ _
  · simp only [decide_eq_true_eq] at hij hjk ⊢
    omega
  · simp only [decide_eq_true_eq] at hij
    rcases Int.lt_or_eq_of_le hij.1 with hlt | heq
    · exact .inl hlt
    · exact .inr ⟨heq, hij.2 (Int.le_of_eq heq.symm)⟩

theorem candidates_eq_map (onlyMachine : Bool) (ss : List Suggestion) :
    candidates onlyMachine ss = (places onlyMachine ss).map fun i => ss[i] := by
  have hfilter : ss.filter (isCandidate onlyMachine) =
      ((List.finRange ss.length).filter fun i => ss[i].isCandidate onlyMachine).map
        fun i => ss[i] := by
    conv_lhs => rw [← List.map_getElem_finRange ss]
    exact List.filter_map
  change sortStable _ (ss.filter (isCandidate onlyMachine)) = _
  rw [hfilter]
  exact sortStable_map _ _

/-- Whole suggestions, by their places in a list, in the order in which they are come to: those that may
be made and collide neither in themselves nor with one taken before. -/
structure Taking (onlyMachine : Bool) (ss : List Suggestion) (taken : List (Fin ss.length)) :
    Prop where
  candidate : ∀ i ∈ taken, ss[i].isCandidate onlyMachine = true
  ordered : taken.Pairwise (Precedes ss)
  apart : (taken.flatMap fun i => ss[i].parts).Pairwise fun e f => ¬ e.Collides f
  left_out : ∀ j, ss[j].isCandidate onlyMachine = true → j ∉ taken →
    (∃ e f, [e, f].Sublist ss[j].parts ∧ e.Collides f) ∨
      ∃ i ∈ taken, Precedes ss i j ∧ ∃ e ∈ ss[i].parts, ∃ f ∈ ss[j].parts, e.Collides f

theorem exists_accept {ι : Type} (f : ι → Suggestion) (is : List ι) (edits : List Edit) :
    ∃ taken : List ι, taken.Sublist is ∧ accept edits (is.map f) = taken.map f ∧
      ∀ j ∈ is, j ∉ taken → ¬ (f j).parts.Pairwise Edit.Apart ∨
        (∃ e ∈ edits, ∃ p ∈ (f j).parts, ¬ e.Apart p) ∨
        ∃ i ∈ taken, [i, j].Sublist is ∧ ∃ e ∈ (f i).parts, ∃ p ∈ (f j).parts, ¬ e.Apart p := by
  induction is generalizing edits with
  | nil => exact ⟨[], .slnil, rfl, fun j hj => absurd hj List.not_mem_nil⟩
  | cons i is ih =>
      rw [List.map_cons, accept]
      split
      · next hway =>
          obtain ⟨taken, hsub, haccept, hleft⟩ := ih edits
          refine ⟨taken, hsub.cons i, haccept,
            List.forall_mem_cons.mpr ⟨fun _ => ?_, fun j hj hnot => ?_⟩⟩
          · rw [Bool.or_eq_true] at hway
            rcases hway with hway | hway
            · refine .inr (.inl ?_)
              by_contra hnone
              push Not at hnone
              rw [conflictsWith_eq_false.mpr fun p hp e he => (hnone e he p hp).symm] at hway
              cases hway
            · refine .inl fun hself => ?_
              rw [selfConflicting_eq_false.mpr hself] at hway
              cases hway
          · rcases hleft j hj hnot with hself | hedits | ⟨i', hi', hij, hcol⟩
            · exact .inl hself
            · exact .inr (.inl hedits)
            · exact .inr (.inr ⟨i', hi', hij.cons i, hcol⟩)
      · -- `i` is taken: what is in the way of its edits later is in the way of a suggestion before it.
        obtain ⟨taken, hsub, haccept, hleft⟩ := ih (edits ++ (f i).parts)
        refine ⟨i :: taken, hsub.cons_cons i, by rw [haccept, List.map_cons],
          List.forall_mem_cons.mpr
            ⟨fun hnot => absurd List.mem_cons_self hnot, fun j hj hnot => ?_⟩⟩
        have hnot' : j ∉ taken := fun hmem => hnot (List.mem_cons_of_mem i hmem)
        rcases hleft j hj hnot' with hself | ⟨e, he, hcol⟩ | ⟨i', hi', hij, hcol⟩
        · exact .inl hself
        · rcases List.mem_append.mp he with he | he
          · exact .inr (.inl ⟨e, he, hcol⟩)
          · exact .inr (.inr ⟨i, List.mem_cons_self,
              (List.singleton_sublist.mpr hj).cons_cons i, e, he, hcol⟩)
        · exact .inr (.inr ⟨i', List.mem_cons_of_mem i hi', hij.cons i, hcol⟩)

theorem taking_of_sublist {onlyMachine : Bool} {ss : List Suggestion}
    (h : ∀ s ∈ ss, ∀ e ∈ s.parts, e.span.lo ≤ e.span.hi) {taken : List (Fin ss.length)}
    (hsub : taken.Sublist (places onlyMachine ss))
    (happart : (taken.flatMap fun i => ss[i].parts).Pairwise Edit.Apart)
    (hleft : ∀ j ∈ places onlyMachine ss, j ∉ taken → ¬ ss[j].parts.Pairwise Edit.Apart ∨
      ∃ i ∈ taken, [i, j].Sublist (places onlyMachine ss) ∧
        ∃ e ∈ ss[i].parts, ∃ p ∈ ss[j].parts, ¬ e.Apart p) :
    Taking onlyMachine ss taken := by
  have hle {i : Fin ss.length} {e : Edit} (he : e ∈ ss[i].parts) : e.span.lo ≤ e.span.hi :=
    h _ (List.getElem_mem i.isLt) e he
  have hprecede := places_precede onlyMachine ss
  refine ⟨fun i hi => mem_places.mp (hsub.mem hi), hprecede.sublist hsub, ?_, fun j hj hnot => ?_⟩
  · refine happart.imp_of_mem fun {e f} he hf hef => ?_
    obtain ⟨i, -, he⟩ := List.mem_flatMap.mp he
    obtain ⟨j, -, hf⟩ := List.mem_flatMap.mp hf
    exact (Edit.apart_iff (hle he) (hle hf)).mp hef
  · rcases hleft j (mem_places.mpr hj) hnot with hself | ⟨i, hi, hij, e, he, p, hp, hcol⟩
    · rw [List.pairwise_iff_forall_sublist] at hself
      push Not at hself
      obtain ⟨e, f, hef, hcol⟩ := hself
      have he := hle (hef.mem List.mem_cons_self)
      have hf := hle (hef.mem (List.mem_cons_of_mem e List.mem_cons_self))
      rw [Edit.apart_iff he hf, not_not] at hcol
      exact .inl ⟨e, f, hef, hcol⟩
    · rw [Edit.apart_iff (hle he) (hle hp), not_not] at hcol
      exact .inr ⟨i, hi, List.pairwise_pair.mp (hprecede.sublist hij), e, he, p, hp, hcol⟩

theorem candidates_perm {onlyMachine : Bool} {ss ss' : List Suggestion} (hperm : ss'.Perm ss)
    (h : ((ss.filter (isCandidate onlyMachine)).map firstOffset).Nodup) :
    candidates onlyMachine ss' = candidates onlyMachine ss := by
  have hsame : (candidates onlyMachine ss).Perm (ss.filter (isCandidate onlyMachine)) :=
    sortStable_perm _ _
  have hsame' : (candidates onlyMachine ss').Perm (ss.filter (isCandidate onlyMachine)) :=
    (sortStable_perm _ _).trans (hperm.filter _)
  refine (hsame'.trans hsame.symm).eq_of_pairwise (fun s t hs ht hst hts => ?_)
    (candidates_sorted onlyMachine ss') (candidates_sorted onlyMachine ss)
  exact List.inj_on_of_nodup_map h (hsame'.mem_iff.mp hs) (hsame.mem_iff.mp ht)
    (Int.le_antisymm hst hts)

/-- What is made of a list of suggestions are whole suggestions, as many as are counted, that collide
nowhere, and each other one collides in itself or with one that was come to before it. Where no two begin
at one offset the order of the list does not matter. -/
theorem exists_taking {ss : List Suggestion} (h : ∀ s ∈ ss, ∀ e ∈ s.parts, e.span.lo ≤ e.span.hi)
    (onlyMachine : Bool) (text : List Char) :
    (∃ taken, Taking onlyMachine ss taken ∧ applyAll text ss onlyMachine =
      (Edit.applyAll text (taken.flatMap fun i => ss[i].parts), taken.length)) ∧
    (((ss.filter (isCandidate onlyMachine)).map firstOffset).Nodup → ∀ ss', ss'.Perm ss →
      applyAll text ss' onlyMachine = applyAll text ss onlyMachine) ∧
    ∀ s ∈ ss, s.isCandidate onlyMachine = true →
      IsLeast {k | ∃ e ∈ s.parts, e.span.lo = k} s.firstOffset := by
  refine ⟨?_, fun hnodup ss' hperm => ?_, fun s _ hs => isLeast_firstOffset ?_⟩
  · obtain ⟨taken, hsub, haccept, hleft⟩ :=
      exists_accept (fun i => ss[i]) (places onlyMachine ss) []
    have hflat : (taken.flatMap fun i => ss[i].parts) =
        (accept [] (candidates onlyMachine ss)).flatMap parts := by
      rw [candidates_eq_map, haccept, List.flatMap_map]
    refine ⟨taken, taking_of_sublist h hsub ?_ fun j hj hnot => ?_, ?_⟩
    · rw [hflat]
      exact accept_apart .nil _
    · rcases hleft j hj hnot with hself | ⟨e, he, -⟩ | hothers
      · exact .inl hself
      · cases he
      · exact .inr hothers
    · rw [applyAll, ← hflat, candidates_eq_map, haccept, List.length_map]
  · rw [applyAll, applyAll, candidates_perm hperm hnodup]
  · intro hnil
    rw [isCandidate, hnil] at hs
    cases hs

theorem exists_taking_of_three :
    let edit (lo hi : Int) (snippet : String) : Edit := ⟨{ lo := lo, hi := hi }, snippet.toList⟩
    let ss : List Suggestion := [⟨"", [edit 5 5 "x", edit 4 4 "y"], .machineApplicable⟩,
      ⟨"", [edit 2 4 "Y"], .machineApplicable⟩, ⟨"", [edit 1 3 "X"], .machineApplicable⟩]
    (∀ s ∈ ss, ∀ e ∈ s.parts, e.span.lo ≤ e.span.hi) ∧
      applyAll "abcdef".toList ss = ("aXdyexf".toList, 2) ∧
      (∃ taken, Taking true ss taken ∧ applyAll "abcdef".toList ss =
        (Edit.applyAll "abcdef".toList (taken.flatMap fun i => ss[i].parts), taken.length)) ∧
      ((ss.filter (isCandidate true)).map firstOffset).Nodup ∧
      applyAll "abcdef".toList ss.reverse = applyAll "abcdef".toList ss := by
  intro edit ss
  have h : ∀ s ∈ ss, ∀ e ∈ s.parts, e.span.lo ≤ e.span.hi := by
    simp [ss, edit]
  have hnodup : ((ss.filter (isCandidate true)).map firstOffset).Nodup := by decide
  obtain ⟨htaking, hperm, -⟩ := exists_taking h true "abcdef".toList
  exact ⟨h, by decide, htaking, hnodup, hperm hnodup _ (List.reverse_perm ss)⟩

end Suggestion

end ChainLint
