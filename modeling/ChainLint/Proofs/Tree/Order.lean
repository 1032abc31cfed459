import ChainLint.Proofs.Tree.Erasure
import ChainLint.Proofs.Tree.Nesting

namespace ChainLint.Tree

namespace Fits

theorem forall_preorder {a b : Int} {ns : List Node} (h : Fits a b ns) :
    ∀ x ∈ ns.flatMap Node.preorder, a ≤ x.span.lo ∧ x.span.lo < x.span.hi ∧ x.span.hi ≤ b ∧
      x.Spanned ∧ Fits x.span.lo x.span.hi x.children := by
  induction h with
  | nil => exact fun x hx => absurd hx List.not_mem_nil
  | cons hlo hlt hn hparts hns ihp ih =>
      intro x hx
      rw [List.flatMap_cons, Node.preorder_eq, List.cons_append, List.mem_cons,
        List.mem_append] at hx
      rcases hx with rfl | hx | hx
      · exact ⟨hlo, hlt, hns.le, hn, hparts⟩
      · obtain ⟨h₁, h₂, h₃, h₄, h₅⟩ := ihp x hx
        exact ⟨Int.le_trans hlo h₁, h₂, Int.le_trans h₃ hns.le, h₄, h₅⟩
      · obtain ⟨h₁, h₂⟩ := ih x hx
        exact ⟨Int.le_trans hlo (Int.le_trans (Int.le_of_lt hlt) h₁), h₂⟩

def StartsBefore (x y : Node) : Prop :=
  x.span.lo ≤ y.span.lo ∧ (x.children = [] → x.span.lo < y.span.lo)

theorem pairwise {a b : Int} {ns : List Node} (h : Fits a b ns) :
    (ns.flatMap Node.preorder).Pairwise StartsBefore := by
  induction h with
  | nil => exact .nil
  | @cons a b n ns hlo hlt hn hparts hns ihp ih =>
      have hbelow := hparts.forall_preorder
      have hlater := hns.forall_preorder
      rw [List.flatMap_cons, Node.preorder_eq, List.pairwise_append]
      refine ⟨List.pairwise_cons.mpr ⟨fun x hx => ⟨(hbelow x hx).1, fun hnil => ?_⟩, ihp⟩, ih,
        fun x hx y hy => ?_⟩
      · rw [hnil] at hx
        cases hx
      · have hy := (hlater y hy).1
        have hlt : x.span.lo < y.span.lo := by
          rcases List.mem_cons.mp hx with rfl | hx
          · omega
          · have := hbelow x hx
            omega
        exact ⟨Int.le_of_lt hlt, fun _ => hlt⟩

theorem preorder {n : Node} (h : Fits n.span.lo n.span.hi n.children) :
    n.preorder.Pairwise StartsBefore := by
  rw [n.preorder_eq]
  refine List.pairwise_cons.mpr ⟨fun x hx => ⟨(h.forall_preorder x hx).1, fun hnil => ?_⟩,
    h.pairwise⟩
  rw [hnil] at hx
  cases hx

end Fits

theorem spanned_erase {n : Node} : (n.erase id).Spanned ↔ n.Spanned := by
  cases n with
  | pat p => cases p <;> exact Iff.rfl
  | block b => cases b; exact Iff.rfl
  | stmt s => cases s <;> exact Iff.rfl
  | expr e =>
      cases e with
      | methodCall i receiver name nameSpan args =>
          have hspan (e : Expr) : (e.erase id).span = e.span := Node.span_erase id (.expr e)
          simp only [Node.erase, Expr.erase, Node.Spanned, eraseExprs_eq, List.forall_mem_map, hspan]
          rfl
      | _ => exact Iff.rfl
  | _ => exact Iff.rfl

theorem Fits.of_erase {a b : Int} {ns : List Node} (h : Fits a b (ns.map (Node.erase id))) :
    Fits a b ns := by
  generalize hms : ns.map (Node.erase id) = ms at h
  induction h generalizing ns with
  | nil h =>
      cases List.map_eq_nil_iff.mp hms
      exact .nil h
  | cons hlo hlt hn hparts hns ihp ih =>
      obtain ⟨n, ns, rfl, rfl, rfl⟩ := List.map_eq_cons_iff.mp hms
      rw [Node.span_erase] at hlo hlt ihp ih
      exact .cons hlo hlt (spanned_erase.mp hn) (ihp (Node.children_erase id n).symm) (ih rfl)

theorem Fits.erase {a b : Int} {ns : List Node} (h : Fits a b ns) :
    Fits a b (ns.map (Node.erase id)) := by
  induction h with
  | nil h => exact .nil h
  | @cons a b n ns hlo hlt hn hparts hns ihp ih =>
      have hspan := n.span_erase id
      simp only [id_eq] at hspan
      refine .cons (by rwa [hspan]) (by rwa [hspan]) (spanned_erase.mpr hn) ?_ ?_
      · rw [hspan, Node.children_erase]
        exact ihp
      · rw [hspan]
        exact ih

end ChainLint.Tree

namespace ChainLint.Analysis

open Tree

theorem fits_module {file : Option String} {text : List Char} {x : Expansions} {m : Module}
    (h : (Module.ofText file text x).1 = .ok m) :
    ∃ b : Nat, Fits 0 b ((Analysis.ofModule m).module.functions.map .function) := by
  obtain ⟨b, hfits⟩ := Module.fits_ofText h
  have he := congrArg Module.functions (erase_module id m)
  have hmap (m : Module) : (m.functions.map .function).map (Node.erase id) =
      (m.erase id).functions.map .function := by
    simp [Module.erase, Node.erase, Function.comp_def]
  refine ⟨b, .of_erase ?_⟩
  rw [hmap, he, ← hmap]
  exact hfits.erase

end ChainLint.Analysis
