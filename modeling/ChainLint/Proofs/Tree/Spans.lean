import ChainLint.Proofs.Tree.Erasure

namespace ChainLint.Tree

mutual

def TypeExpr.spans : TypeExpr → List Span
  | .mk _ args s => s :: typeSpans args

def typeSpans : List TypeExpr → List Span
  | [] => []
  | t :: ts => t.spans ++ typeSpans ts

end

def declaredSpans (o : Option TypeExpr) : List Span := o.toList.flatMap TypeExpr.spans

namespace Node

def innerSpans : Node → List Span
  | .expr (.methodCall _ _ _ nameSpan _) => [nameSpan]
  | .param p => declaredSpans p.declared
  | .stmt (.letIn _ _ declared _) => declaredSpans declared
  | .function f => declaredSpans f.result
  | _ => []

def spans (n : Node) : List Span := n.span :: n.innerSpans

end Node

variable (f : Span → Span)

mutual

theorem TypeExpr.spans_erase : (t : TypeExpr) → (t.erase f).spans = t.spans.map f
  | .mk _ args _ => congrArg (List.cons _) (typeSpans_erase args)

theorem typeSpans_erase : (ts : List TypeExpr) →
    typeSpans (eraseTypes f ts) = (typeSpans ts).map f
  | [] => rfl
  | t :: ts => by
      rw [eraseTypes, typeSpans, typeSpans, t.spans_erase, typeSpans_erase ts, List.map_append]

end

theorem declaredSpans_erase (o : Option TypeExpr) :
    declaredSpans (o.map (TypeExpr.erase f)) = (declaredSpans o).map f := by
  cases o with
  | none => rfl
  | some t => simp [declaredSpans, t.spans_erase]

theorem Node.spans_erase (n : Node) : (n.erase f).spans = n.spans.map f := by
  refine congrArg₂ List.cons (n.span_erase f) ?_
  cases n with
  | function g => exact declaredSpans_erase f g.result
  | param p => exact declaredSpans_erase f p.declared
  | pat p => cases p <;> rfl
  | block b => cases b; rfl
  | stmt s =>
      cases s with
      | expr => rfl
      | letIn i p declared value => exact declaredSpans_erase f declared
  | expr e => cases e <;> rfl
  | module m => rfl

theorem Node.eq_of_erase_eq {f g : Span → Span} {n : Node} (h : n.erase f = n.erase g) :
    ∀ v ∈ n.preorder, ∀ s ∈ v.spans, f s = g s := by
  intro v hv
  have hnodes := congrArg Node.preorder h
  rw [preorder_erase, preorder_erase] at hnodes
  have hspans := congrArg Node.spans (List.map_inj_left.mp hnodes v hv)
  rw [spans_erase, spans_erase] at hspans
  exact List.map_inj_left.mp hspans

end ChainLint.Tree
