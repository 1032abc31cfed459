import ChainLint.Proofs.Tree.Enclosing
import ChainLint.Proofs.Ty.Mirroring
import Mathlib.Data.List.Induction

namespace ChainLint

open Tree

namespace Tree

theorem Module.ids_apart {m : Module} {before after : List Function} {f : Function}
    (hm : m.functions = before ++ f :: after) (hordered : (Node.module m).Ordered) {i : NodeId}
    (hi : i ∈ (Node.function f).ids) : i ∉ Node.idsOf (before.map Node.function) ∧
      i ∉ Node.idsOf (after.map Node.function) := by
  rw [Node.Ordered, Node.ids_eq, Node.children, hm, List.map_append, List.map_cons,
    Node.idsOf_append, Node.idsOf_cons] at hordered
  obtain ⟨-, hparts⟩ := List.pairwise_cons.mp hordered
  obtain ⟨-, hlater, hbefore⟩ := List.pairwise_append.mp hparts
  obtain ⟨-, -, hafter⟩ := List.pairwise_append.mp hlater
  exact ⟨fun h => Int.lt_irrefl _ (hbefore i h i (List.mem_append_left _ hi)),
    fun h => Int.lt_irrefl _ (hafter i hi i h)⟩

def Node.unresolved? : Node → Option String
  | .expr (.var _ name none) => some name
  | _ => none

def Node.unresolved (n : Node) : List String := n.preorder.filterMap unresolved?

theorem Node.unresolved_relabel (f : Span → Span) (g : NodeId → NodeId) (n : Node) :
    (n.relabel (.following f g)).unresolved = n.unresolved := by
  rw [unresolved, unresolved, preorder_relabel, List.filterMap_map]
  refine List.filterMap_congr fun v _ => ?_
  cases v with
  | expr e =>
      cases e with
      | var i name binding => cases binding <;> rfl
      | _ => rfl
  | _ => rfl

theorem Function.asks {m : Module} {f : Function}
    (hf : f ∈ (Analysis.ofModule m).module.functions) : (Node.function f).Asks
      (· ∈ (Node.function f).ids) (· ∈ (Node.function f).ids) (· ∈ (Node.function f).unresolved) := by
  obtain ⟨t, -, rfl⟩ := List.mem_map.mp hf
  refine ⟨fun _ hi => hi, fun i name binding hv => ?_⟩
  obtain ⟨τ, hr, hb⟩ := Node.reaches_of_mem_resolve (n := .function t) (fun _ => rfl) hv
  cases binding with
  | none => exact List.mem_filterMap.mpr ⟨_, hv, rfl⟩
  | some b => exact (hr.scope_ids _ (Scope.mem_of_find? hb.symm)).resolve_left List.not_mem_nil

end Tree

namespace Infer

theorem functions_append (a b : List Function) :
    functions (a ++ b) = functions a >>= fun _ => functions b := by
  induction a with
  | nil => rfl
  | cons f fs ih =>
      rw [List.cons_append, functions, functions, ih]
      rfl

theorem run_functions_amid (before after : List Function) (f : Function) (t : Typing) :
    ((functions (before ++ f :: after)).run t).2 = ((functions after).run
      ((functions [f]).run ((functions before).run t).2).2).2 := by
  have hsplit : before ++ f :: after = before ++ ([f] ++ after) := rfl
  rw [hsplit, functions_append, functions_append]
  rfl

theorem keeps_functions (fs : List Function) (t : Typing) :
    Keeps (· ∈ Node.idsOf (fs.map Node.function)) t ((functions fs).run t).2 := by
  refine relates_functions (framing (f := id) _) fs (fun c hc => ⟨fun i hi => ?_, ?_⟩) t
  · exact (Node.ids_sublist_idsOf hc).subset hi
  · intro _ _ binding _
    cases binding <;> trivial

end Infer

namespace Typing

theorem lookup_filter_ne {α : Type} {name other : String} (h : name ≠ other)
    (xs : List (String × α)) : (xs.filter fun x => x.1 ≠ other).lookup name = xs.lookup name := by
  induction xs with
  | nil => rfl
  | cons x xs ih =>
      by_cases hx : x.1 = other
      · have hne : name ≠ x.1 := hx ▸ h
        rw [List.filter_cons_of_neg (by simpa using hx), ih, List.lookup_cons,
          beq_eq_false_iff_ne.mpr hne]
      · rw [List.filter_cons_of_pos (by simpa using hx), List.lookup_cons, List.lookup_cons, ih]

theorem functionType?_declaring (fs : List Function) (name : String) :
    (declaring fs).functionType? name =
      ((fs.filter fun h => h.name = name).getLast?).map Function.type := by
  induction fs using List.reverseRecOn with
  | nil => rfl
  | append_singleton fs h ih =>
      rw [declaring, List.foldl_append, ← declaring, List.filter_append]
      change List.lookup name ((h.name, h.type) :: (declaring fs).functions.filter _) = _
      by_cases hname : h.name = name
      · rw [List.filter_cons_of_pos (by simpa using hname), List.filter_nil, List.getLast?_append,
          List.lookup_cons, hname, beq_self_eq_true]
        rfl
      · have hne : name ≠ h.name := fun h => hname h.symm
        rw [List.filter_cons_of_neg (by simpa using hname), List.filter_nil, List.append_nil, ← ih,
          List.lookup_cons, beq_eq_false_iff_ne.mpr hne]
        exact lookup_filter_ne hne _

theorem alike_alone {m : Module} {before after : List Function} {f₀ : Function} {f : Span → Span}
    {g : NodeId → NodeId} (hg : Function.Injective g)
    (hm : m.functions = before ++ f₀.relabel (.following f g) :: after)
    (hordered : (Node.module m).Ordered) {start : Typing}
    (hstart : start.exprs = [] ∧ start.bindings = [])
    (hasks : (Node.function f₀).Asks (· ∈ (Node.function f₀).ids) (· ∈ (Node.function f₀).ids)
      (· ∈ (Node.function f₀).unresolved))
    (hnames : ∀ name ∈ (Node.function f₀).unresolved,
      (declaring m.functions).functionType? name = start.functionType? name) :
    Infer.Alike g (· ∈ (Node.function f₀).ids)
      (· ∈ (Node.function f₀).unresolved) False
      ((Infer.functions [f₀]).run start).2 (ofModule m) := by
  have hapart {i : NodeId} (hi : i ∈ (Node.function f₀).ids) :
      g i ∉ Node.idsOf (before.map Node.function) ∧ g i ∉ Node.idsOf (after.map Node.function) := by
    refine Module.ids_apart hm hordered ?_
    exact (Node.ids_relabel (.following f g) (.function f₀)).symm ▸
      List.mem_map_of_mem hi
  let first := ((Infer.functions before).run (declaring m.functions)).2
  have hfirst : Infer.Keeps (· ∈ Node.idsOf (before.map Node.function)) (declaring m.functions)
      first := Infer.keeps_functions before _
  obtain ⟨hexprs, hbindings⟩ := declaring_empty m.functions
  have halike : Infer.Alike g (· ∈ (Node.function f₀).ids)
      (· ∈ (Node.function f₀).unresolved) False start first := by
    refine ⟨fun i hi => ?_, fun i hi => ?_, fun name hname => ?_, False.elim⟩
    · rw [hfirst.exprs _ (hapart hi).1, exprType?, exprType?, hexprs, hstart.1]
      rfl
    · rw [hfirst.bindings _ (hapart hi).1, bindingType?, bindingType?, hbindings, hstart.2]
      rfl
    · rw [functionType?, hfirst.functions]
      exact hnames name hname
  have hmirrored : ∀ c ∈ [f₀].map Node.function, c.Asks (fun _ => True)
      (· ∈ (Node.function f₀).ids) (· ∈ (Node.function f₀).unresolved) :=
    List.forall_mem_singleton.mpr ⟨fun _ _ => trivial, hasks.uses⟩
  have hsecond :=
    (Infer.relates_functions (Infer.mirroring _ False f hg) _ hmirrored _ _ halike).2
  have hlast := Infer.keeps_functions after ((Infer.functions ([f₀].map
    (Function.relabel (.following f g)))).run first).2
  have hmodule : ofModule m = ((Infer.functions after).run ((Infer.functions
      ([f₀].map (Function.relabel (.following f g)))).run first).2).2 := by
    have hrun := Infer.run_functions_amid before after
      (f₀.relabel (.following f g)) (declaring m.functions)
    rw [← hm] at hrun
    exact hrun
  rw [hmodule]
  refine ⟨fun i hi => ?_, fun i hi => ?_, fun name hname => ?_, False.elim⟩
  · exact (hlast.exprs _ (hapart hi).2).trans (hsecond.exprs i hi)
  · exact (hlast.bindings _ (hapart hi).2).trans (hsecond.bindings i hi)
  · rw [functionType?, hlast.functions]
    exact hsecond.functions name hname

end Typing

end ChainLint
