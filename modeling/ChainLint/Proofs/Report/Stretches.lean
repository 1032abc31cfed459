import ChainLint.Proofs.Report.Applying

namespace ChainLint

namespace Change

def stretches {α : Type} (start : Nat) (text : List α) : List Change → List (List α)
  | [] => [text]
  | c :: cs => text.take (c.lo - start) :: stretches c.hi (text.drop (c.hi - start)) cs

def alternate {α : Type} : List (List α) → List (List α) → List α
  | [], ss => ss.flatten
  | ks, [] => ks.flatten
  | k :: ks, s :: ss => k ++ (s ++ alternate ks ss)

def Covers (c : Change) (k : Nat) : Prop := c.lo ≤ k ∧ k < c.hi

instance (c : Change) (k : Nat) : Decidable (c.Covers k) := inferInstanceAs (Decidable (_ ∧ _))

section

variable {a : Nat} {text : List Char} {cs : List Change}

def untouched (a : Nat) (text : List Char) (cs : List Change) : List (Char × Nat) :=
  (text.zipIdx a).filter fun x => cs.all fun c => ¬ c.Covers x.2

theorem untouched_append (kept text : List Char) :
    untouched a (kept ++ text) cs = untouched a kept cs ++ untouched (a + kept.length) text cs := by
  rw [untouched, List.zipIdx_append, List.filter_append]
  rfl

theorem untouched_eq_self (h : ∀ c ∈ cs, a + text.length ≤ c.lo) :
    untouched a text cs = text.zipIdx a := by
  refine List.filter_eq_self.mpr fun x hx => List.all_eq_true.mpr fun c hc => ?_
  obtain ⟨-, hx, -⟩ := List.mem_zipIdx hx
  have hlo := h c hc
  simp only [Covers, decide_eq_true_eq, not_and]
  omega

theorem untouched_eq_nil {c : Change} (hlo : c.lo ≤ a) (hhi : a + text.length ≤ c.hi) :
    untouched a text (c :: cs) = [] := by
  refine List.filter_eq_nil_iff.mpr fun x hx hall => ?_
  obtain ⟨hx, hx', -⟩ := List.mem_zipIdx hx
  have hc := List.all_eq_true.mp hall c List.mem_cons_self
  simp only [Covers, decide_eq_true_eq, not_and] at hc
  omega

theorem untouched_cons {c : Change} (h : c.hi ≤ a) :
    untouched a text (c :: cs) = untouched a text cs := by
  refine List.filter_congr fun x hx => ?_
  obtain ⟨hx, -, -⟩ := List.mem_zipIdx hx
  have hc : ¬ c.Covers x.2 := fun hc => absurd hc.2 (by omega)
  rw [List.all_cons, decide_eq_true hc, Bool.true_and]

end

end Change

namespace Merges

open Change

variable {a : Nat} {text out : List Char} {cs : List Change}

theorem stretches_cons {c : Change} {kept old : List Char} (hlo : c.lo = a + kept.length)
    (hhi : c.hi = c.lo + old.length) :
    stretches a (kept ++ (old ++ text)) (c :: cs) = kept :: stretches c.hi text cs := by
  have hkept : (kept ++ (old ++ text)).take (c.lo - a) = kept := List.take_left' (by omega)
  have hrest : (kept ++ (old ++ text)).drop (c.hi - a) = text := by
    rw [← List.append_assoc]
    exact List.drop_left' (by rw [List.length_append]; omega)
  rw [stretches, hkept, hrest]

theorem eq_alternate (h : Merges a text cs out) :
    out = alternate (stretches a text cs) (cs.map snippet) := by
  induction h with
  | @done a text =>
      simp only [stretches, List.map_nil, alternate, List.flatten_cons, List.flatten_nil,
        List.append_nil]
  | change hlo hhi h ih => rw [stretches_cons hlo hhi, List.map_cons, alternate, ← ih]

theorem flatten_stretches (h : Merges a text cs out) :
    (stretches a text cs).flatten = (untouched a text cs).map Prod.fst := by
  induction h with
  | @done a text =>
      rw [untouched_eq_self (List.forall_mem_nil _), List.zipIdx_map_fst, stretches,
        List.flatten_singleton]
  | @change a kept old text out c cs hlo hhi h ih =>
      have hbefore : ∀ d ∈ c :: cs, a + kept.length ≤ d.lo :=
        List.forall_mem_cons.mpr ⟨by omega, fun d hd => by have := (h.bounds d hd).1; omega⟩
      have hstop : a + kept.length + old.length = c.hi := by omega
      have hinside : untouched (a + kept.length) old (c :: cs) = [] :=
        untouched_eq_nil (by omega) (by omega)
      rw [stretches_cons hlo hhi, List.flatten_cons, ih, untouched_append, untouched_append,
        untouched_eq_self hbefore, hinside, hstop, untouched_cons (Nat.le_refl _), List.nil_append,
        List.map_append, List.zipIdx_map_fst]

end Merges

theorem pair_sublist_of_pairwise {α : Type} {R : α → α → Prop} {l : List α} (h : l.Pairwise R)
    {a b : α} (ha : a ∈ l) (hb : b ∈ l) (hba : ¬ R b a) (hne : a ≠ b) : [a, b].Sublist l := by
  induction h with
  | nil => cases ha
  | @cons c l hc _ ih =>
      rcases List.mem_cons.mp ha with rfl | ha'
      · exact (List.singleton_sublist.mpr ((List.mem_cons.mp hb).resolve_left hne.symm)).cons_cons a
      · rcases List.mem_cons.mp hb with rfl | hb'
        · exact absurd (hc a ha') hba
        · exact (ih ha' hb').cons c

namespace Suggestion

/-- The text with suggestions made, read from left to right: what the edits taken leave of the text, in
turn with their snippets. That is all the characters that no edit covers, in their order; and an insertion
comes before what replaces the text after it, and after what replaces the text before it. -/
theorem applyAll_eq_alternate {text : List Char} {suggestions : List Suggestion}
    {onlyMachine : Bool} (h : ∀ s ∈ suggestions, ∀ e ∈ s.parts, e.Within text.length) :
    let edits := sortStable Edit.earlierFirst
      ((accept [] (candidates onlyMachine suggestions)).flatMap parts)
    let kept := Change.stretches 0 text (edits.map Edit.change)
    (applyAll text suggestions onlyMachine).1 = Change.alternate kept (edits.map Edit.snippet) ∧
      kept.flatten = (text.zipIdx.filter fun x =>
        edits.all fun e => ¬ e.change.Covers x.2).map Prod.fst ∧
      (edits.Pairwise fun e f => e.earlierFirst f = true ∧ e.span.hi ≤ f.span.lo) ∧
      ∀ i ∈ edits, i.span.lo = i.span.hi → ∀ r ∈ edits, r.span.lo < r.span.hi →
        (r.span.lo = i.span.lo → [i, r].Sublist edits) ∧
        (r.span.hi = i.span.lo → [r, i].Sublist edits) := by
  intro edits kept
  let taken := (accept [] (candidates onlyMachine suggestions)).flatMap parts
  have hin : ∀ e ∈ taken, e.Within text.length := by
    intro e he
    obtain ⟨s, hs, he⟩ := List.mem_flatMap.mp he
    exact h s (mem_of_mem_accept hs) e he
  have happart : taken.Pairwise Edit.Apart := accept_apart .nil _
  have hmerges : Merges 0 text (edits.map Edit.change) (applyAll text suggestions onlyMachine).1 :=
    Edit.merges_applyAll hin happart
  have hsorted := Edit.sorted_earlierFirst taken
  refine ⟨?_, ?_, ?_, fun i hi hempty r hr hlt => ⟨fun hlo => ?_, fun hhi => ?_⟩⟩
  · have heq := hmerges.eq_alternate
    rwa [List.map_map] at heq
  · have heq := hmerges.flatten_stretches
    simp only [Change.untouched, List.all_map] at heq
    exact heq
  · refine (hsorted.and (Edit.ordered_earlierFirst hin happart)).imp_of_mem fun {e f} he hf hef => ?_
    have he := hin e ((sortStable_perm _ _).mem_iff.mp he)
    have hf := hin f ((sortStable_perm _ _).mem_iff.mp hf)
    have hle := hef.2.1
    simp only [Edit.change, Edit.Within] at hle he hf
    exact ⟨hef.1, by omega⟩
  · refine pair_sublist_of_pairwise hsorted hi hr ?_ (by rintro rfl; omega)
    simp only [Edit.earlierFirst, Edit.laterFirst, Bool.or_eq_true, Bool.and_eq_true,
      decide_eq_true_eq, beq_iff_eq]
    omega
  · refine pair_sublist_of_pairwise hsorted hr hi ?_ (by rintro rfl; omega)
    simp only [Edit.earlierFirst, Edit.laterFirst, Bool.or_eq_true, Bool.and_eq_true,
      decide_eq_true_eq, beq_iff_eq]
    omega

theorem applyAll_eq_alternate_touching :
    let edit (lo hi : Int) (snippet : String) : Edit := ⟨{ lo := lo, hi := hi }, snippet.toList⟩
    let text := "abcdef".toList
    let suggestions : List Suggestion := [⟨"", [edit 4 4 "y"], .machineApplicable⟩,
      ⟨"", [edit 2 4 "Z", edit 2 2 "x"], .machineApplicable⟩,
      ⟨"", [edit 3 5 "w"], .machineApplicable⟩]
    let kept := Change.stretches 0 text [⟨2, 2, ['x']⟩, ⟨2, 4, ['Z']⟩, ⟨4, 4, ['y']⟩]
    (∀ s ∈ suggestions, ∀ e ∈ s.parts, e.Within text.length) ∧
      kept = ["ab".toList, [], [], "ef".toList] ∧
      (applyAll text suggestions).1 = Change.alternate kept [['x'], ['Z'], ['y']] := by
  intro edit text suggestions kept
  have h : ∀ s ∈ suggestions, ∀ e ∈ s.parts, e.Within text.length := by
    simp [suggestions, edit, text, Edit.Within]
  exact ⟨h, by decide, (applyAll_eq_alternate h).1⟩

end Suggestion

end ChainLint
