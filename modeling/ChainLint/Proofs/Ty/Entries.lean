import ChainLint.Proofs.Tree.Enclosing
import ChainLint.Proofs.Ty.Sound
import Mathlib.Data.List.Perm.Subperm

namespace ChainLint

open Tree

theorem lookup_eq_some_iff_mem {α β : Type} [BEq α] [LawfulBEq α] {l : List (α × β)}
    (h : (l.map Prod.fst).Nodup) {k : α} {x : β} : l.lookup k = some x ↔ (k, x) ∈ l := by
  refine ⟨mem_of_lookup, fun hmem => ?_⟩
  obtain ⟨y, hy⟩ := exists_lookup hmem
  obtain ⟨rfl⟩ : y = x := congrArg Prod.snd
    (List.inj_on_of_nodup_map h (mem_of_lookup hy) hmem rfl)
  exact hy

namespace Infer

theorem id_of_typed {n : Node} {i : NodeId} (h : typedId? n = some i) : n.id = i := by
  cases n with
  | expr e => exact Option.some.inj h
  | _ => cases h

theorem id_of_bound {n : Node} {i : NodeId} (h : boundId? n = some i) : n.id = i := by
  cases n with
  | pat p =>
      cases p with
      | binding i' name isMut => exact Option.some.inj h
      | _ => cases h
  | _ => cases h

theorem filterMap_sublist_ids {f : Node → Option NodeId} (hf : ∀ n i, f n = some i → n.id = i)
    (vs : List Node) : (vs.filterMap f).Sublist (vs.map Node.id) := by
  induction vs with
  | nil => exact .slnil
  | cons v vs ih =>
      rw [List.filterMap_cons, List.map_cons]
      split
      · exact ih.cons _
      · next i hi =>
          rw [hf v i hi]
          exact ih.cons_cons _

namespace Typed

variable {τ : Typing} {ns : List Node} {first : List (Option Expected)} {others : Option Expected}
  {tys : List Ty} {vs : List Node}

theorem noted_sublist (n : Node) : (noted n).Sublist [n] := by
  cases n with
  | expr e => exact .refl _
  | pat p =>
      cases p with
      | binding => exact .refl _
      | _ => exact List.nil_sublist _
  | _ => exact List.nil_sublist _

theorem subperm (h : Typed τ ns first others tys vs) : vs.Subperm (ns.flatMap Node.preorder) := by
  induction h with
  | nil => exact List.Subperm.refl _
  | skip _ _ ih => exact ih.trans (List.sublist_append_right _ _).subperm
  | @cons n ns first others x parts ty tys us vs _ _ _ _ _ ihparts ihlater =>
      rw [List.flatMap_cons, n.preorder_eq]
      have hself : (us ++ noted n).Subperm (n :: n.children.flatMap Node.preorder) :=
        (ihparts.append (noted_sublist n).subperm).trans
          (List.perm_append_singleton n _).subperm
      exact hself.append ihlater

end Typed

end Infer

namespace Typing

variable {m : Module}

theorem exists_noted (h : (Node.module m.resolve).ids.Nodup) : ∃ tys vs,
    Infer.Typed (ofModule m.resolve) (Node.module m.resolve).children [] (some .nothing) tys vs ∧
    vs ⊆ (Node.module m.resolve).preorder ∧
    (∀ i, i ∈ (ofModule m.resolve).exprs.map Prod.fst ↔ i ∈ vs.filterMap Infer.typedId?) ∧
    ((ofModule m.resolve).exprs.map Prod.fst).Nodup ∧
    ((ofModule m.resolve).bindings.map Prod.fst).Nodup := by
  obtain ⟨tys, vs, htyped, hexprs, hbindings⟩ := exists_typed m
  obtain ⟨us, hperm, hsub⟩ := htyped.subperm
  have hsub : us.Sublist (Node.module m.resolve).preorder := by
    rw [Node.preorder_eq]
    exact hsub.cons _
  have hids : (vs.map Node.id).Nodup :=
    (hperm.map Node.id).nodup_iff.mp ((hsub.map Node.id).nodup h)
  have hnodup {ks : List NodeId} {f : Node → Option NodeId} (hf : ∀ n i, f n = some i → n.id = i)
      (hks : ks.Perm (vs.filterMap f)) : ks.Nodup :=
    hks.nodup_iff.mpr (hids.sublist (Infer.filterMap_sublist_ids hf vs))
  exact ⟨tys, vs, htyped, fun v hv => hsub.subset (hperm.mem_iff.mpr hv), fun i => hexprs.mem_iff,
    hnodup (fun _ _ => Infer.id_of_typed) hexprs, hnodup (fun _ _ => Infer.id_of_bound) hbindings⟩

theorem exprs_nodup (h : (Node.module m.resolve).ids.Nodup) :
    ((ofModule m.resolve).exprs.map Prod.fst).Nodup := by
  obtain ⟨_, _, -, -, -, hexprs, -⟩ := exists_noted h
  exact hexprs

theorem bindings_nodup (h : (Node.module m.resolve).ids.Nodup) :
    ((ofModule m.resolve).bindings.map Prod.fst).Nodup := by
  obtain ⟨_, _, -, -, -, -, hbindings⟩ := exists_noted h
  exact hbindings

end Typing

namespace Analysis

section

variable (m : Module)

theorem ids_nodup : (Node.module (ofModule m).module).ids.Nodup :=
  (ordered_module m).imp Int.ne_of_lt

theorem exprs_nodup : ((ofModule m).typing.exprs.map Prod.fst).Nodup :=
  Typing.exprs_nodup (m := (m.number 1).1) (ids_nodup m)

theorem bindings_nodup : ((ofModule m).typing.bindings.map Prod.fst).Nodup :=
  Typing.bindings_nodup (m := (m.number 1).1) (ids_nodup m)

theorem exprType?_eq_some_iff {i : NodeId} {ty : Ty} :
    (ofModule m).typing.exprType? i = some ty ↔ (i, ty) ∈ (ofModule m).typing.exprs :=
  lookup_eq_some_iff_mem (exprs_nodup m)

theorem bindingType?_eq_some_iff {b : NodeId} {ty : Ty} :
    (ofModule m).typing.bindingType? b = some ty ↔ (b, ty) ∈ (ofModule m).typing.bindings :=
  lookup_eq_some_iff_mem (bindings_nodup m)

theorem typeOf_of_mem {a : Analysis} (h : (a.typing.exprs.map Prod.fst).Nodup) {n : Node} {ty : Ty}
    (hmem : (n.id, ty) ∈ a.typing.exprs) : a.typeOf n = ty := by
  rw [typeOf, Typing.exprType?, (lookup_eq_some_iff_mem h).mpr hmem]
  rfl

theorem exists_typed : ∃ tys vs,
    Infer.Typed (ofModule m).typing (Node.module (ofModule m).module).children [] (some .nothing) tys
      vs ∧ ∀ e, .expr e ∈ (Node.module (ofModule m).module).preorder →
        (.expr e ∈ vs ↔ ((ofModule m).typing.exprType? e.info.id).isSome) := by
  obtain ⟨tys, vs, htyped, hsub, hkeys, -⟩ :=
    Typing.exists_noted (m := (m.number 1).1) (ids_nodup m)
  refine ⟨tys, vs, htyped, fun e he => ?_⟩
  have hkey : ((ofModule m).typing.exprType? e.info.id).isSome ↔
      e.info.id ∈ (ofModule m).typing.exprs.map Prod.fst := by
    rw [Typing.exprType?, List.lookup_isSome_iff, List.mem_map]
    exact exists_congr fun p => and_congr_right fun _ => by rw [beq_iff_eq, eq_comm]
  rw [hkey]
  refine Iff.trans ?_ (hkeys e.info.id).symm
  rw [List.mem_filterMap]
  constructor
  · exact fun hv => ⟨_, hv, rfl⟩
  · rintro ⟨v, hv, hid⟩
    have heq : v = .expr e :=
      List.inj_on_of_nodup_map (ids_nodup m) (hsub hv) he
        (Infer.id_of_typed hid)
    exact heq ▸ hv

end

end Analysis

namespace Infer

theorem Typed.use {τ : Typing} {ns : List Node} {first : List (Option Expected)}
    {others : Option Expected} {tys : List Ty} {vs : List Node}
    (h : Typed τ ns first others tys vs) {i : Info} {name : String} {b : NodeId}
    (hv : .expr (.var i name (some b)) ∈ vs) :
    ∃ ty, (i.id, ty) ∈ τ.exprs ∧ (b, ty) ∈ τ.bindings := by
  induction h with
  | nil => cases hv
  | skip _ _ ih => exact ih hv
  | @cons n ns first others x parts ty tys us vs _ _ hsaid hnoted _ ihparts ihlater =>
      rcases List.mem_append.mp hv with hv | hv
      · rcases List.mem_append.mp hv with hv | hv
        · exact ihparts hv
        · have hself : Node.expr (.var i name (some b)) = n :=
            List.mem_singleton.mp ((noted_sublist n).subset hv)
          subst hself
          exact ⟨ty, hnoted, hsaid⟩
      · exact ihlater hv

end Infer

namespace Analysis

/-- A use of a local of which the type is known has the one type that its binding has: no use is looked
at before the binding, and no binding again after it. -/
theorem bindingType?_of_use (m : Module) {i : Info} {name : String} {b : NodeId} {ty : Ty}
    (h : .expr (.var i name (some b)) ∈ (Node.module (ofModule m).module).preorder)
    (hty : (ofModule m).typing.exprType? i.id = some ty) :
    (ofModule m).typing.bindingType? b = some ty ∧
      ∀ ty', (b, ty') ∈ (ofModule m).typing.bindings → ty' = ty := by
  obtain ⟨_, vs, htyped, hknown⟩ := exists_typed m
  have hvisited : Node.expr (.var i name (some b)) ∈ vs :=
    (hknown _ h).mpr (Option.isSome_iff_exists.mpr ⟨ty, hty⟩)
  obtain ⟨ty', hexpr, hbinding⟩ := htyped.use hvisited
  obtain rfl : ty' = ty :=
    Option.some.inj (((exprType?_eq_some_iff m).mpr hexpr).symm.trans hty)
  have hlookup := (bindingType?_eq_some_iff m).mpr hbinding
  refine ⟨hlookup, fun ty'' hmem => ?_⟩
  exact Option.some.inj (((bindingType?_eq_some_iff m).mpr hmem).symm.trans hlookup)

theorem bindingType?_of_use_of_let :
    let i : Info := ⟨0, {}⟩
    let m : Module := ⟨i, none, [⟨i, "f", [], .mk i
      [.letIn i (.binding i "x" false) none (some (.int i 1 none))] (some (.var i "x" none)), none⟩]⟩
    let use : Expr := .var ⟨7, {}⟩ "x" (some 5)
    .expr use ∈ (Node.module (ofModule m).module).preorder ∧
      (ofModule m).typing.exprType? 7 = some (.scalar .i32) ∧
      (ofModule m).typing.bindingType? 5 = some (.scalar .i32) ∧
      ∀ ty, (5, ty) ∈ (ofModule m).typing.bindings → ty = .scalar .i32 := by
  intro i m use
  have h : .expr use ∈ (Node.module (ofModule m).module).preorder :=
    List.mem_of_getElem? (i := 6) rfl
  have hty : (ofModule m).typing.exprType? 7 = some (.scalar .i32) := rfl
  exact ⟨h, hty, bindingType?_of_use m h hty⟩

end Analysis

end ChainLint
