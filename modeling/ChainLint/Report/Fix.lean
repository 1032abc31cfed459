import ChainLint.Report.Diagnostic

namespace ChainLint

def insertSorted {α : Type} (le : α → α → Bool) (x : α) : List α → List α
  | [] => [x]
  | y :: ys => if le x y then x :: y :: ys else y :: insertSorted le x ys

def sortStable {α : Type} (le : α → α → Bool) (xs : List α) : List α :=
  xs.foldr (insertSorted le) []

theorem insertSorted_perm {α : Type} (le : α → α → Bool) (x : α) (xs : List α) :
    (insertSorted le x xs).Perm (x :: xs) := by
  induction xs with
  | nil => exact List.Perm.refl _
  | cons y ys ih =>
      unfold insertSorted
      split
      · exact List.Perm.refl _
      · exact (ih.cons y).trans (List.Perm.swap x y ys)

theorem sortStable_perm {α : Type} (le : α → α → Bool) (xs : List α) :
    (sortStable le xs).Perm xs := by
  induction xs with
  | nil => exact List.Perm.refl _
  | cons x xs ih => exact (insertSorted_perm le x _).trans (ih.cons x)

theorem insertSorted_pairwise {α : Type} {le : α → α → Bool}
    (total : ∀ a b, le a b = true ∨ le b a = true)
    (trans : ∀ a b c, le a b = true → le b c = true → le a c = true) (x : α) {xs : List α}
    (h : xs.Pairwise (le · ·)) : (insertSorted le x xs).Pairwise (le · ·) := by
  induction xs with
  | nil => simp [insertSorted]
  | cons y ys ih =>
      obtain ⟨hy, hys⟩ := List.pairwise_cons.mp h
      unfold insertSorted
      split
      · next hx =>
          refine List.pairwise_cons.mpr ⟨fun z hz => ?_, h⟩
          rcases List.mem_cons.mp hz with rfl | hz
          · exact hx
          · exact trans _ _ _ hx (hy z hz)
      · next hx =>
          refine List.pairwise_cons.mpr ⟨fun z hz => ?_, ih hys⟩
          rcases List.mem_cons.mp ((insertSorted_perm le x ys).mem_iff.mp hz) with rfl | hz
          · exact (total _ _).resolve_left hx
          · exact hy z hz

theorem sortStable_pairwise {α : Type} {le : α → α → Bool}
    (total : ∀ a b, le a b = true ∨ le b a = true)
    (trans : ∀ a b c, le a b = true → le b c = true → le a c = true) (xs : List α) :
    (sortStable le xs).Pairwise (le · ·) := by
  induction xs with
  | nil => exact List.Pairwise.nil
  | cons x xs ih => exact insertSorted_pairwise total trans x ih

namespace Edit

/-- Two insertions conflict at one offset; a replacement does not conflict with what touches its
end. -/
def overlaps (a b : Edit) : Bool :=
  if a.span.lo = a.span.hi ∧ b.span.lo = b.span.hi then a.span.lo == b.span.lo
  else a.span.lo < b.span.hi && b.span.lo < a.span.hi

theorem overlaps_comm (a b : Edit) : a.overlaps b = b.overlaps a := by
  unfold overlaps
  by_cases h : a.span.lo = a.span.hi ∧ b.span.lo = b.span.hi
  · have h' : b.span.lo = b.span.hi ∧ a.span.lo = a.span.hi := ⟨h.2, h.1⟩
    rw [if_pos h, if_pos h', Bool.beq_comm]
  · have h' : ¬(b.span.lo = b.span.hi ∧ a.span.lo = a.span.hi) := fun k => h ⟨k.2, k.1⟩
    rw [if_neg h, if_neg h', Bool.and_comm]

/-- Bounds past the end of the text count as its end, and negative ones as its start. The span of a text
has neither. -/
def splice (text : List Char) (e : Edit) : List Char :=
  text.take e.span.lo.toNat ++ e.snippet ++ text.drop e.span.hi.toNat

def laterFirst (a b : Edit) : Bool :=
  b.span.lo < a.span.lo || (a.span.lo == b.span.lo && b.span.hi ≤ a.span.hi)

def applyAll (text : List Char) (edits : List Edit) : List Char :=
  (sortStable laterFirst edits).foldl splice text

end Edit

namespace Suggestion

def firstOffset (s : Suggestion) : Int :=
  match s.parts with
  | [] => 0
  | p :: ps => ps.foldl (fun m q => min m q.span.lo) p.span.lo

def selfConflicting : List Edit → Bool
  | [] => false
  | p :: ps => ps.any p.overlaps || selfConflicting ps

def conflictsWith (s : Suggestion) (accepted : List Edit) : Bool :=
  s.parts.any fun p => accepted.any p.overlaps

def candidates (onlyMachine : Bool) (suggestions : List Suggestion) : List Suggestion :=
  sortStable (fun a b => a.firstOffset ≤ b.firstOffset)
    (suggestions.filter fun s =>
      !s.parts.isEmpty && (!onlyMachine || s.applicability = .machineApplicable))

def accept : List Edit → List Suggestion → List Suggestion
  | _, [] => []
  | edits, s :: rest =>
      if s.conflictsWith edits || selfConflicting s.parts then accept edits rest
      else s :: accept (edits ++ s.parts) rest

theorem accept_sublist (edits : List Edit) (suggestions : List Suggestion) :
    (accept edits suggestions).Sublist suggestions := by
  induction suggestions generalizing edits with
  | nil => exact List.Sublist.slnil
  | cons s rest ih =>
      unfold accept
      split
      · exact (ih edits).cons s
      · exact (ih _).cons_cons s

def applyAll (text : List Char) (suggestions : List Suggestion) (onlyMachine : Bool := true) :
    List Char × Nat :=
  let accepted := accept [] (candidates onlyMachine suggestions)
  (Edit.applyAll text (accepted.flatMap parts), accepted.length)

end Suggestion

end ChainLint
