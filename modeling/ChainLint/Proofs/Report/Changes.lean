import ChainLint.Report.Fix
import Mathlib.Algebra.GroupWithZero.Nat

namespace ChainLint

structure Change where
  lo : Nat
  hi : Nat
  snippet : List Char
  deriving DecidableEq, Repr

namespace Change

def apply (c : Change) (text : List Char) : List Char :=
  text.take c.lo ++ c.snippet ++ text.drop c.hi

/-- An insertion comes before a replacement that starts where it stands. -/
def Before (c d : Change) : Prop := c.lo < d.lo ∨ c.lo = d.lo ∧ c.hi < d.hi

theorem Before.irrefl {c d : Change} (h : c.Before d) : ¬(c.lo = d.lo ∧ c.hi = d.hi) := by
  rintro ⟨hlo, hhi⟩
  rcases h with h | ⟨-, h⟩ <;> omega

theorem eq_or_before {cs : List Change} (h : cs.Pairwise Before) {c d : Change} (hc : c ∈ cs)
    (hd : d ∈ cs) : c = d ∨ c.Before d ∨ d.Before c := by
  induction h with
  | nil => cases hc
  | cons hhead _ ih =>
      rcases List.mem_cons.mp hc with rfl | hc'
      · rcases List.mem_cons.mp hd with rfl | hd'
        · exact .inl rfl
        · exact .inr (.inl (hhead d hd'))
      · rcases List.mem_cons.mp hd with rfl | hd'
        · exact .inr (.inr (hhead c hc'))
        · exact ih hc' hd'

end Change

def Edit.change (e : Edit) : Change := ⟨e.span.lo.toNat, e.span.hi.toNat, e.snippet⟩

inductive Merges : Nat → List Char → List Change → List Char → Prop where
  | done {a : Nat} {text : List Char} : Merges a text [] text
  | change {a : Nat} {kept old text out : List Char} {c : Change} {cs : List Change}
      (hlo : c.lo = a + kept.length) (hhi : c.hi = c.lo + old.length)
      (h : Merges c.hi text cs out) :
      Merges a (kept ++ (old ++ text)) (c :: cs) (kept ++ (c.snippet ++ out))

namespace Merges

variable {a : Nat} {text text' out out' : List Char} {cs cs' : List Change}

theorem keep {p : List Char} (h : Merges (a + p.length) text cs out) :
    Merges a (p ++ text) cs (p ++ out) := by
  cases h with
  | done => exact .done
  | @change _ kept old _ _ c cs hlo hhi h =>
      rw [← List.append_assoc, ← List.append_assoc p]
      refine .change ?_ hhi h
      rw [hlo, List.length_append, Nat.add_assoc]

theorem here {old : List Char} {c : Change} (hlo : c.lo = a) (hhi : c.hi = a + old.length)
    (h : Merges c.hi text cs out) : Merges a (old ++ text) (c :: cs) (c.snippet ++ out) := by
  rw [← hlo] at hhi
  exact @change a [] old text out c cs hlo hhi h

theorem bounds (h : Merges a text cs out) :
    ∀ c ∈ cs, a ≤ c.lo ∧ c.lo ≤ c.hi ∧ c.hi ≤ a + text.length := by
  induction h with
  | done => exact fun c hc => absurd hc List.not_mem_nil
  | @change a kept old text out c cs hlo hhi h ih =>
      intro d hd
      simp only [List.length_append]
      rcases List.mem_cons.mp hd with rfl | hd
      · omega
      · have := ih d hd
        omega

theorem ordered (h : Merges a text cs out) : cs.Pairwise fun c d => c.lo ≤ c.hi ∧ c.hi ≤ d.lo := by
  induction h with
  | done => exact .nil
  | change hlo hhi h ih =>
      refine .cons (fun d hd => ?_) ih
      have := h.bounds d hd
      omega

theorem before (h : Merges a text cs out) (hcs : cs.Pairwise fun c d => c.hi < d.hi) :
    cs.Pairwise Change.Before := by
  refine (h.ordered.and hcs).imp fun {c d} hcd => ?_
  obtain ⟨⟨h₁, h₂⟩, h₃⟩ := hcd
  by_cases he : c.lo = d.lo
  · exact .inr ⟨he, h₃⟩
  · exact .inl (by omega)

theorem foldr_apply (h : Merges a text cs out) {pre : List Char} (hpre : pre.length = a) :
    cs.foldr Change.apply (pre ++ text) = pre ++ out := by
  induction h generalizing pre with
  | done => rfl
  | @change a kept old text out c cs hlo hhi h ih =>
      have hsplit : (pre ++ kept ++ old).length = c.hi := by
        simp only [List.length_append]
        omega
      have hkept : (pre ++ kept).length = c.lo := by
        simp only [List.length_append]
        omega
      have hrest := ih hsplit
      have htext : pre ++ (kept ++ (old ++ text)) = pre ++ kept ++ old ++ text := by simp
      rw [List.foldr_cons, htext, hrest, Change.apply, ← hsplit, List.drop_left, ← hkept,
        List.append_assoc (pre ++ kept), List.take_left]
      simp

end Merges

namespace Edit

theorem laterFirst_total (e f : Edit) : e.laterFirst f = true ∨ f.laterFirst e = true := by
  simp only [laterFirst, Bool.or_eq_true, Bool.and_eq_true, decide_eq_true_eq, beq_iff_eq]
  omega

theorem laterFirst_trans (e f g : Edit) (h : e.laterFirst f = true) (h' : f.laterFirst g = true) :
    e.laterFirst g = true := by
  simp only [laterFirst, Bool.or_eq_true, Bool.and_eq_true, decide_eq_true_eq, beq_iff_eq] at h h' ⊢
  omega

theorem applyAll_eq {edits : List Edit} {cs : List Change} {text out : List Char}
    (hin : ∀ e ∈ edits, 0 ≤ e.span.lo ∧ 0 ≤ e.span.hi) (hperm : (edits.map change).Perm cs)
    (hcs : cs.Pairwise Change.Before) (h : Merges 0 text cs out) : applyAll text edits = out := by
  have hsorted : ((sortStable laterFirst edits).map change).Pairwise fun c d =>
      d.lo < c.lo ∨ d.lo = c.lo ∧ d.hi ≤ c.hi := by
    refine List.pairwise_map.mpr ?_
    refine (sortStable_pairwise laterFirst_total laterFirst_trans edits).imp_of_mem ?_
    intro e f he hf hef
    obtain ⟨he₁, he₂⟩ := hin e ((sortStable_perm _ _).mem_iff.mp he)
    obtain ⟨hf₁, hf₂⟩ := hin f ((sortStable_perm _ _).mem_iff.mp hf)
    simp only [laterFirst, Bool.or_eq_true, Bool.and_eq_true, decide_eq_true_eq, beq_iff_eq] at hef
    simp only [change]
    omega
  have hreverse : cs.reverse.Pairwise fun c d => d.lo < c.lo ∨ d.lo = c.lo ∧ d.hi ≤ c.hi := by
    refine List.pairwise_reverse.mpr (hcs.imp fun hcd => ?_)
    rcases hcd with hcd | hcd <;> omega
  have hsame : (sortStable laterFirst edits).map change = cs.reverse := by
    refine List.Perm.eq_of_pairwise (fun c d hc hd hcd hdc => ?_) hsorted hreverse ?_
    · have hc' : c ∈ cs :=
        (((sortStable_perm laterFirst edits).map change).trans hperm).mem_iff.mp hc
      have hd' : d ∈ cs := List.mem_reverse.mp hd
      rcases Change.eq_or_before hcs hc' hd' with he | hb | hb
      · exact he
      · exact absurd (by omega) hb.irrefl
      · exact absurd (by omega) hb.irrefl
    · exact ((sortStable_perm laterFirst edits).map change).trans (hperm.trans cs.reverse_perm.symm)
  have hfold (text : List Char) (edits : List Edit) :
      edits.foldl splice text = (edits.map change).foldl (fun t c => c.apply t) text := by
    rw [List.foldl_map]
    rfl
  rw [applyAll, hfold, hsame, List.foldl_reverse]
  exact h.foldr_apply (List.length_nil (α := Char))

end Edit

end ChainLint
