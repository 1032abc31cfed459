import ChainLint.Tree.Basic

namespace ChainLint.Tree

structure Link where
  info : Info
  op : BinaryOp
  right : Expr

noncomputable def Link.weight : List Link → Nat
  | [] => 0
  | link :: links => sizeOf link.right + 1 + Link.weight links

theorem Info.sizeOf_pos (i : Info) : 0 < sizeOf i := by
  cases i
  simp only [Info.mk.sizeOf_spec]
  omega

namespace Expr

/-- Down the left operands, with the operators that were passed put before those given: the innermost one
comes first. -/
def spine : Expr → List Link → Expr × List Link
  | .binary i op left right, links => left.spine (⟨i, op, right⟩ :: links)
  | e, links => (e, links)

theorem spine_size (e : Expr) (links : List Link) :
    sizeOf (e.spine links).1 + Link.weight (e.spine links).2 ≤ sizeOf e + Link.weight links := by
  fun_induction spine e links with
  | case1 i op left right links ih =>
      have hinfo := i.sizeOf_pos
      simp only [Link.weight, Expr.binary.sizeOf_spec] at ih ⊢
      omega
  | case2 => exact Nat.le_refl _

theorem spine_lt (i : Info) (op : BinaryOp) (left right : Expr) :
    sizeOf (left.spine [⟨i, op, right⟩]).1 + Link.weight (left.spine [⟨i, op, right⟩]).2 <
      sizeOf (Expr.binary i op left right) := by
  have hsize := left.spine_size [⟨i, op, right⟩]
  have hinfo := i.sizeOf_pos
  simp only [Link.weight, Expr.binary.sizeOf_spec] at hsize ⊢
  omega

end Expr

end ChainLint.Tree
