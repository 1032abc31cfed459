import ChainLint.Proofs.Report.Changes

namespace ChainLint

namespace Merges

variable {a : Nat} {text out : List Char} {cs : List Change}

theorem exists_of_ordered (h : cs.Pairwise fun c d => c.hi ≤ d.lo)
    (hin : ∀ c ∈ cs, a ≤ c.lo ∧ c.lo ≤ c.hi ∧ c.hi ≤ a + text.length) :
    ∃ out, Merges a text cs out := by
  induction h generalizing a text with
  | nil => exact ⟨text, .done⟩
  | @cons c cs hc _ ih =>
      obtain ⟨hlo, hle, hhi⟩ := hin c List.mem_cons_self
      have hrest : ∃ out, Merges c.hi (text.drop (c.hi - a)) cs out := by
        refine ih fun d hd => ?_
        have := hin d (List.mem_cons_of_mem _ hd)
        have := hc d hd
        simp only [List.length_drop]
        omega
      obtain ⟨out, hout⟩ := hrest
      have htext : text = text.take (c.lo - a) ++
          ((text.drop (c.lo - a)).take (c.hi - c.lo) ++ text.drop (c.hi - a)) := by
        have hdrop : text.drop (c.hi - a) = (text.drop (c.lo - a)).drop (c.hi - c.lo) := by
          rw [List.drop_drop]
          congr 1
          omega
        rw [hdrop, List.take_append_drop, List.take_append_drop]
      rw [htext]
      refine ⟨_, .change ?_ ?_ hout⟩
      · rw [List.length_take]
        omega
      · rw [List.length_take, List.length_drop]
        omega

theorem length (h : Merges a text cs out) :
    out.length + (cs.map fun c => c.hi - c.lo).sum =
      text.length + (cs.map fun c => c.snippet.length).sum := by
  induction h with
  | done => rfl
  | change hlo hhi h ih =>
      simp only [List.length_append, List.map_cons, List.sum_cons]
      omega

end Merges

namespace Edit

def Apart (e f : Edit) : Prop := e.overlaps f = false

theorem Apart.symm {e f : Edit} (h : e.Apart f) : f.Apart e := by
  rw [Apart, overlaps_comm]
  exact h

theorem Apart.of_le {e f : Edit} (h : e.span.hi ≤ f.span.lo) (hne : e.span.lo ≠ f.span.lo) :
    e.Apart f := by
  unfold Apart overlaps
  split
  · exact beq_eq_false_iff_ne.mpr hne
  · have hlt : ¬f.span.lo < e.span.hi := by omega
    rw [decide_eq_false hlt, Bool.and_false]

def Within (n : Nat) (e : Edit) : Prop :=
  0 ≤ e.span.lo ∧ e.span.lo ≤ e.span.hi ∧ e.span.hi ≤ n

def removed (e : Edit) : Nat := e.change.hi - e.change.lo

theorem Apart.ordered {n : Nat} {e f : Edit} (h : e.Apart f) (he : e.Within n) (hf : f.Within n)
    (hfe : f.laterFirst e = true) : e.change.hi ≤ f.change.lo ∧ e.change.Before f.change := by
  obtain ⟨he₁, he₂, he₃⟩ := he
  obtain ⟨hf₁, hf₂, hf₃⟩ := hf
  simp only [laterFirst, Bool.or_eq_true, Bool.and_eq_true, decide_eq_true_eq, beq_iff_eq] at hfe
  simp only [Apart, overlaps] at h
  split at h
  · simp only [beq_eq_false_iff_ne] at h
    simp only [change, Change.Before]
    omega
  · simp only [Bool.and_eq_false_iff, decide_eq_false_iff_not] at h
    simp only [change, Change.Before]
    omega

def earlierFirst (e f : Edit) : Bool := f.laterFirst e

theorem sorted_earlierFirst (edits : List Edit) :
    (sortStable earlierFirst edits).Pairwise fun e f => e.earlierFirst f = true :=
  sortStable_pairwise (fun e f => laterFirst_total f e)
    (fun e f g hef hfg => laterFirst_trans g f e hfg hef) edits

theorem ordered_earlierFirst {n : Nat} {edits : List Edit} (hin : ∀ e ∈ edits, e.Within n)
    (h : edits.Pairwise Apart) : (sortStable earlierFirst edits).Pairwise fun e f =>
      e.change.hi ≤ f.change.lo ∧ e.change.Before f.change := by
  have hperm := sortStable_perm earlierFirst edits
  have happart := hperm.symm.pairwise h Apart.symm
  refine (happart.and (sorted_earlierFirst edits)).imp_of_mem fun he hf hef => ?_
  exact hef.1.ordered (hin _ (hperm.mem_iff.mp he)) (hin _ (hperm.mem_iff.mp hf)) hef.2

theorem merges_applyAll {text : List Char} {edits : List Edit}
    (hin : ∀ e ∈ edits, e.Within text.length) (h : edits.Pairwise Apart) :
    Merges 0 text ((sortStable earlierFirst edits).map change) (applyAll text edits) := by
  have hperm := sortStable_perm earlierFirst edits
  have hordered := ordered_earlierFirst hin h
  have hbounds : ∀ c ∈ (sortStable earlierFirst edits).map change,
      0 ≤ c.lo ∧ c.lo ≤ c.hi ∧ c.hi ≤ 0 + text.length := by
    intro c hc
    obtain ⟨e, he, rfl⟩ := List.mem_map.mp hc
    obtain ⟨h₁, h₂, h₃⟩ := hin e (hperm.mem_iff.mp he)
    simp only [change]
    omega
  obtain ⟨out, hout⟩ := Merges.exists_of_ordered
    (List.pairwise_map.mpr (hordered.imp And.left)) hbounds
  have heq : applyAll text edits = out := by
    refine applyAll_eq (fun e he => ?_) (hperm.symm.map change)
      (List.pairwise_map.mpr (hordered.imp And.right)) hout
    obtain ⟨h₁, h₂, h₃⟩ := hin e he
    exact ⟨h₁, by omega⟩
  exact heq ▸ hout

theorem exists_merges {text : List Char} {edits : List Edit}
    (hin : ∀ e ∈ edits, e.Within text.length) (h : edits.Pairwise Apart) :
    ∃ cs, (edits.map change).Perm cs ∧ Merges 0 text cs (applyAll text edits) :=
  ⟨_, (sortStable_perm earlierFirst edits).symm.map change, merges_applyAll hin h⟩

theorem length_applyAll {text : List Char} {edits : List Edit}
    (hin : ∀ e ∈ edits, e.Within text.length) (h : edits.Pairwise Apart) :
    (applyAll text edits).length + (edits.map removed).sum =
      text.length + (edits.map fun e => e.snippet.length).sum := by
  obtain ⟨cs, hperm, hmerges⟩ := exists_merges hin h
  have hremoved := (hperm.map fun c => c.hi - c.lo).sum_nat
  have hadded := (hperm.map fun c => c.snippet.length).sum_nat
  rw [List.map_map] at hremoved hadded
  have hlength := hmerges.length
  rw [← hremoved, ← hadded] at hlength
  exact hlength

end Edit

namespace Suggestion

theorem selfConflicting_eq_false {ps : List Edit} :
    selfConflicting ps = false ↔ ps.Pairwise Edit.Apart := by
  induction ps with
  | nil => exact iff_of_true rfl .nil
  | cons p ps ih =>
      rw [selfConflicting, Bool.or_eq_false_iff, List.any_eq_false, List.pairwise_cons, ih]
      simp only [Bool.not_eq_true, Edit.Apart]

theorem conflictsWith_eq_false {s : Suggestion} {edits : List Edit} :
    s.conflictsWith edits = false ↔ ∀ p ∈ s.parts, ∀ e ∈ edits, p.Apart e := by
  simp only [conflictsWith, List.any_eq_false, Bool.not_eq_true, Edit.Apart]

theorem accept_apart {edits : List Edit} (h : edits.Pairwise Edit.Apart)
    (suggestions : List Suggestion) :
    (edits ++ (accept edits suggestions).flatMap parts).Pairwise Edit.Apart := by
  induction suggestions generalizing edits with
  | nil => simpa [accept] using h
  | cons s rest ih =>
      rw [accept]
      split
      · exact ih h
      · next hs =>
          simp only [Bool.or_eq_true, not_or, Bool.not_eq_true] at hs
          have hparts := selfConflicting_eq_false.mp hs.2
          have hothers := conflictsWith_eq_false.mp hs.1
          rw [List.flatMap_cons, ← List.append_assoc]
          refine ih (List.pairwise_append.mpr ⟨h, hparts, fun e he p hp => ?_⟩)
          exact (hothers p hp e he).symm

theorem mem_accept {s : Suggestion} {before : List Suggestion} (after : List Suggestion)
    {edits : List Edit} (hself : s.parts.Pairwise Edit.Apart)
    (hedits : ∀ p ∈ s.parts, ∀ e ∈ edits, p.Apart e)
    (hbefore : ∀ t ∈ before, ∀ p ∈ s.parts, ∀ e ∈ t.parts, p.Apart e) :
    s ∈ accept edits (before ++ s :: after) := by
  induction before generalizing edits with
  | nil =>
      rw [List.nil_append, accept, conflictsWith_eq_false.mpr hedits,
        selfConflicting_eq_false.mpr hself]
      exact List.mem_cons_self
  | cons t before ih =>
      have hrest : ∀ u ∈ before, ∀ p ∈ s.parts, ∀ e ∈ u.parts, p.Apart e := fun u hu =>
        hbefore u (List.mem_cons_of_mem t hu)
      rw [List.cons_append, accept]
      split
      · exact ih hedits hrest
      · refine List.mem_cons_of_mem t (ih (fun p hp e he => ?_) hrest)
        rcases List.mem_append.mp he with he | he
        · exact hedits p hp e he
        · exact hbefore t List.mem_cons_self p hp e he

theorem candidates_sorted (onlyMachine : Bool) (suggestions : List Suggestion) :
    (candidates onlyMachine suggestions).Pairwise fun s t => s.firstOffset ≤ t.firstOffset :=
  (sortStable_pairwise (fun s t => by simpa using Int.le_total _ _)
    (fun s t u hst htu => by simpa using Int.le_trans (by simpa using hst) (by simpa using htu))
    _).imp fun h => by simpa using h

def Shortens (k : Nat) (s : Suggestion) : Prop :=
  (s.parts.map fun e => e.snippet.length).sum + k ≤ (s.parts.map Edit.removed).sum

theorem mem_candidates {onlyMachine : Bool} {suggestions : List Suggestion} {s : Suggestion} :
    s ∈ candidates onlyMachine suggestions ↔ s ∈ suggestions ∧ s.parts ≠ [] ∧
      (onlyMachine = true → s.applicability = .machineApplicable) := by
  rw [candidates, (sortStable_perm _ _).mem_iff, List.mem_filter]
  cases onlyMachine <;> simp

theorem mem_of_mem_accept {onlyMachine : Bool} {suggestions : List Suggestion} {s : Suggestion}
    (h : s ∈ accept [] (candidates onlyMachine suggestions)) : s ∈ suggestions :=
  (mem_candidates.mp ((accept_sublist _ _).mem h)).1

theorem length_applyAll_add_le {text : List Char} {suggestions : List Suggestion} {k : Nat}
    {onlyMachine : Bool} (hin : ∀ s ∈ suggestions, ∀ e ∈ s.parts, e.Within text.length)
    (hshort : ∀ s ∈ suggestions, s.Shortens k) :
    (applyAll text suggestions onlyMachine).1.length +
      k * (applyAll text suggestions onlyMachine).2 ≤ text.length := by
  let taken := accept [] (candidates onlyMachine suggestions)
  have htaken : ∀ s ∈ taken, s ∈ suggestions := fun s hs => mem_of_mem_accept hs
  have hlength := @Edit.length_applyAll text (taken.flatMap parts)
    (fun e he => by
      obtain ⟨s, hs, he⟩ := List.mem_flatMap.mp he
      exact hin s (htaken s hs) e he)
    (by simpa using accept_apart .nil (candidates onlyMachine suggestions))
  have hsum (ss : List Suggestion) (hss : ∀ s ∈ ss, s ∈ suggestions) :
      ((ss.flatMap parts).map fun e => e.snippet.length).sum + k * ss.length ≤
        ((ss.flatMap parts).map Edit.removed).sum := by
    induction ss with
    | nil => simp
    | cons s ss ih =>
        have hs := hshort s (hss s List.mem_cons_self)
        have hrest := ih fun t ht => hss t (List.mem_cons_of_mem _ ht)
        rw [Shortens] at hs
        simp only [List.flatMap_cons, List.map_append, List.sum_append, List.length_cons, Nat.mul_add,
          Nat.mul_one]
        omega
  have := hsum taken htaken
  change (Edit.applyAll text (taken.flatMap parts)).length + k * taken.length ≤ text.length
  omega

theorem applyAll_pos {text : List Char} {suggestions : List Suggestion} {s : Suggestion}
    (hs : s ∈ suggestions) (hfit : ∀ s ∈ suggestions, s.parts ≠ [] ∧
      s.applicability = .machineApplicable ∧ s.parts.Pairwise Edit.Apart) :
    0 < (applyAll text suggestions).2 := by
  have hmem : s ∈ candidates true suggestions :=
    mem_candidates.mpr ⟨hs, (hfit s hs).1, fun _ => (hfit s hs).2.1⟩
  change 0 < (accept [] (candidates true suggestions)).length
  cases hc : candidates true suggestions with
  | nil =>
      rw [hc] at hmem
      cases hmem
  | cons first rest =>
      have hfirst : first ∈ suggestions :=
        (mem_candidates.mp (hc ▸ List.mem_cons_self : first ∈ candidates true suggestions)).1
      have hself := selfConflicting_eq_false.mpr (hfit first hfirst).2.2
      have hnone : first.conflictsWith [] = false :=
        conflictsWith_eq_false.mpr fun _ _ _ he => absurd he List.not_mem_nil
      rw [accept, hself, hnone]
      exact Nat.succ_pos _

end Suggestion

end ChainLint
