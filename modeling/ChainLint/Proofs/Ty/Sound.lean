import ChainLint.Proofs.Tree.Resolution
import ChainLint.Proofs.Ty.Mirroring
import ChainLint.Proofs.Ty.Typed

namespace ChainLint

open Tree

theorem mem_of_lookup {α β : Type} [BEq α] [LawfulBEq α] {l : List (α × β)} {k : α} {x : β}
    (h : l.lookup k = some x) : (k, x) ∈ l := by
  obtain ⟨before, after, rfl, -⟩ := List.lookup_eq_some_iff.mp h
  exact List.mem_append_right _ List.mem_cons_self

theorem exists_lookup {α β : Type} [BEq α] [LawfulBEq α] {l : List (α × β)} {k : α} {x : β}
    (h : (k, x) ∈ l) : ∃ y, l.lookup k = some y :=
  Option.isSome_iff_exists.mp (List.lookup_isSome_iff.mpr ⟨_, h, beq_self_eq_true k⟩)

namespace Infer

def typedId? : Node → Option NodeId
  | .expr e => some e.info.id
  | _ => none

def boundId? : Node → Option NodeId
  | .pat (.binding i _ _) => some i.id
  | _ => none

structure Extends (t t' : Typing) : Prop where
  exprs : t.exprs ⊆ t'.exprs
  bindings : t.bindings ⊆ t'.bindings
  functions : t'.functions = t.functions

theorem Extends.refl (t : Typing) : Extends t t := ⟨List.Subset.refl _, List.Subset.refl _, rfl⟩

theorem Extends.trans {t t' t'' : Typing} (h : Extends t t') (h' : Extends t' t'') :
    Extends t t'' :=
  ⟨List.Subset.trans h.exprs h'.exprs, List.Subset.trans h.bindings h'.bindings,
    h'.functions.trans h.functions⟩

structure Grows (t : Typing) (vs : List Node) (t' : Typing) : Prop extends Extends t t' where
  typed : (t'.exprs.map Prod.fst).Perm (vs.filterMap typedId? ++ t.exprs.map Prod.fst)
  bound : (t'.bindings.map Prod.fst).Perm (vs.filterMap boundId? ++ t.bindings.map Prod.fst)

theorem Grows.refl (t : Typing) : Grows t [] t := ⟨.refl t, .refl _, .refl _⟩

theorem Grows.trans {t t' t'' : Typing} {us vs : List Node} (h : Grows t us t')
    (h' : Grows t' vs t'') : Grows t (us ++ vs) t'' := by
  have hkeys {ks : List NodeId} {old : List NodeId} {f : Node → Option NodeId} {mid : List NodeId}
      (hks : ks.Perm (vs.filterMap f ++ mid)) (hmid : mid.Perm (us.filterMap f ++ old)) :
      ks.Perm ((us ++ vs).filterMap f ++ old) := by
    rw [List.filterMap_append, List.append_assoc]
    refine hks.trans ((hmid.append_left _).trans ?_)
    exact List.perm_append_comm_assoc _ _ _
  exact ⟨h.toExtends.trans h'.toExtends, hkeys h'.typed h.typed, hkeys h'.bound h.bound⟩

theorem Grows.perm {t t' : Typing} {us vs : List Node} (h : Grows t us t') (hp : us.Perm vs) :
    Grows t vs t' :=
  ⟨h.toExtends, h.typed.trans ((hp.filterMap _).append_right _),
    h.bound.trans ((hp.filterMap _).append_right _)⟩

def Binds (t : Typing) (σ : Scope) : Prop := ∀ b ∈ σ, ∃ ty, (b.2, ty) ∈ t.bindings

theorem Binds.mono {t t' : Typing} {σ : Scope} (h : Binds t σ) (ht : Extends t t') : Binds t' σ :=
  fun b hb => (h b hb).imp fun _ hty => ht.bindings hty

section

variable {α β γ : Type} {σ σ' σ'' : Scope}

/-- Where the types of the locals in the first scope are known, the inference comes to some nodes, and
those in the second scope are known after it. Of what it gives and the nodes it came to a property
holds, by that typing and by any that knows more. -/
def Leads (σ σ' : Scope) (a : Infer α) (Q : Typing → α → List Node → Prop) : Prop :=
  ∀ t, Binds t σ → Binds (a.run t).2 σ' ∧
    ∀ τ, Extends (a.run t).2 τ → ∃ vs, Grows t vs (a.run t).2 ∧ Q τ (a.run t).1 vs

variable {a : Infer α} {P Q : Typing → α → List Node → Prop}

theorem Leads.pure {x : α} (h : ∀ τ, Q τ x []) : Leads σ σ (pure x) Q :=
  fun t ht => ⟨ht, fun τ _ => ⟨[], .refl t, h τ⟩⟩

theorem Leads.extends (h : Leads σ σ' a Q) {t : Typing} (ht : Binds t σ) :
    Extends t (a.run t).2 := by
  obtain ⟨_, hgrows, -⟩ := (h t ht).2 _ (.refl _)
  exact hgrows.toExtends

theorem Leads.bind {u : α → Infer β} {R : α → Typing → β → List Node → Prop} (h : Leads σ σ' a P)
    (hu : ∀ x, Leads σ' σ'' (u x) (R x)) : Leads σ σ'' (a >>= u) fun τ y ws =>
      ∃ x us vs, P τ x us ∧ R x τ y vs ∧ ws = us ++ vs := by
  intro t ht
  obtain ⟨hbinds, hfirst⟩ := h t ht
  obtain ⟨hbinds', hsecond⟩ := hu (a.run t).1 _ hbinds
  refine ⟨hbinds', fun τ hτ => ?_⟩
  obtain ⟨vs, hgrows', hr⟩ := hsecond τ hτ
  obtain ⟨us, hgrows, hp⟩ := hfirst τ (hgrows'.toExtends.trans hτ)
  exact ⟨us ++ vs, hgrows.trans hgrows', _, us, vs, hp, hr, rfl⟩

theorem Leads.mono {Q : Typing → α → List Node → Prop} (h : Leads σ σ' a P)
    (hQ : ∀ τ y us, P τ y us → ∃ vs, us.Perm vs ∧ Q τ y vs) : Leads σ σ' a Q := by
  refine fun t ht => ⟨(h t ht).1, fun τ hτ => ?_⟩
  obtain ⟨us, hgrows, hp⟩ := (h t ht).2 τ hτ
  obtain ⟨vs, hperm, hq⟩ := hQ τ _ us hp
  exact ⟨vs, hgrows.perm hperm, hq⟩

theorem Leads.map {u : α → β} {Q : Typing → β → List Node → Prop} (h : Leads σ σ' a P)
    (hQ : ∀ τ y us, P τ y us → Q τ (u y) us) :
    Leads σ σ' (a >>= fun x => Pure.pure (u x)) Q := by
  refine fun t ht => ⟨(h t ht).1, fun τ hτ => ?_⟩
  obtain ⟨us, hgrows, hp⟩ := (h t ht).2 τ hτ
  exact ⟨us, hgrows, hQ τ _ us hp⟩

theorem Leads.mapped {u : α → β} (h : Leads σ σ' a P) :
    Leads σ σ' (a >>= fun x => Pure.pure (u x)) fun τ y us => ∃ x, P τ x us ∧ y = u x :=
  h.map fun _ x _ hp => ⟨x, hp, rfl⟩

theorem Leads.leave (h : Leads σ σ' a Q) : Leads σ σ a Q :=
  fun t ht => ⟨ht.mono (h.extends ht), (h t ht).2⟩

theorem leads_record (e : Expr) (ty : Ty) : Leads σ σ (record e ty) fun τ y vs =>
    y = ty ∧ vs = [.expr e] ∧ Noted τ ty (.expr e) := by
  intro t ht
  have hgrows : Grows t [.expr e] ((record e ty).run t).2 :=
    ⟨⟨List.subset_cons_self _ _, List.Subset.refl _, rfl⟩, .refl _, .refl _⟩
  exact ⟨ht.mono hgrows.toExtends, fun τ hτ =>
    ⟨_, hgrows, rfl, rfl, hτ.exprs List.mem_cons_self⟩⟩

theorem leads_leaf {e : Expr} {x : Expected} {ty : Ty} (hleaf : (Node.expr e).children = [])
    (hsaid : ∀ τ, Says τ x [] ty (.expr e)) :
    Leads σ σ (record e ty) fun τ y vs => Judged τ (.expr e) x y vs := by
  refine (leads_record e ty).mono ?_
  rintro τ _ _ ⟨rfl, rfl, hnoted⟩
  refine ⟨_, .refl _, ⟨[], [], ?_, hsaid τ, rfl⟩, hnoted⟩
  rw [hleaf]
  exact .nil

theorem exists_judged {τ : Typing} {e : Expr} {x : Expected} {ty : Ty} {us ws : List Node}
    (parts : List Ty) (hparts : Typed τ (Node.expr e).children (exprRule τ x parts e).first
      (exprRule τ x parts e).others parts us) (hsaid : Says τ x parts ty (.expr e))
    (hnoted : Noted τ ty (.expr e)) (hws : ws.Perm (us ++ [.expr e])) :
    ∃ vs, ws.Perm vs ∧ Judged τ (.expr e) x ty vs :=
  ⟨_, hws, ⟨parts, us, hparts, hsaid, rfl⟩, hnoted⟩

end

section

variable {σ : Scope}

theorem leads_binding (i : Info) (name : String) (isMut : Bool) (ty : Ty) :
    Leads σ ((name, i.id) :: σ) (bind (.binding i name isMut) ty) fun τ _ vs =>
      Judged τ (.pat (.binding i name isMut)) (.type ty) ty vs := by
  intro t ht
  have hgrows : Grows t [.pat (.binding i name isMut)]
      ((bind (.binding i name isMut) ty).run t).2 :=
    ⟨⟨List.Subset.refl _, List.subset_cons_self _ _, rfl⟩, .refl _, .refl _⟩
  refine ⟨?_, fun τ hτ => ⟨_, hgrows, ⟨[], [], .nil, rfl, rfl⟩, hτ.bindings List.mem_cons_self⟩⟩
  intro b hb
  rcases List.mem_cons.mp hb with rfl | hb
  · exact ⟨ty, List.mem_cons_self⟩
  · exact ht.mono hgrows.toExtends b hb

mutual

theorem leads_bind (σ : Scope) : (p : Pat) → (ty : Ty) → Leads σ (σ.bind p) (bind p ty)
    fun τ _ vs => Judged τ (.pat p) (.type ty) ty vs
  | .binding i name isMut, ty => leads_binding i name isMut ty
  | .wild _, ty => .pure fun _ => ⟨⟨[], [], .nil, rfl, rfl⟩, trivial⟩
  | .tuple i elems, ty => by
      refine (leads_bindAll σ elems (partTypes ty elems.length) (length_partTypes ty _)).mono ?_
      intro τ _ us hus
      exact ⟨us, .refl _, ⟨_, us, hus, rfl, (List.append_nil us).symm⟩, trivial⟩

theorem leads_bindAll (σ : Scope) : (ps : List Pat) → (tys : List Ty) → tys.length = ps.length →
    Leads σ (σ.bindAll ps) (bindAll ps tys) fun τ _ vs =>
      Typed τ (ps.map .pat) (toBind tys) (some .nothing) tys vs
  | [], [], _ => .pure fun _ => .nil
  | p :: ps, ty :: tys, h => by
      refine ((leads_bind σ p ty).bind fun _ => leads_bindAll (σ.bind p) ps tys
        (Nat.succ.inj h)).mono ?_
      rintro τ _ _ ⟨_, us, vs, hp, hps, rfl⟩
      exact ⟨_, .refl _, .of_judged rfl hp hps⟩

end

theorem leads_closureParams (σ : Scope) : (ps : List Param) → (hints : List Ty) →
    Leads σ (σ.bindParams ps) (closureParams ps hints) fun τ tys vs => tys = paramTypes ps hints ∧
      Typed τ (ps.map .param) (toBind tys) (some .nothing) tys vs
  | [], _ => .pure fun _ => ⟨rfl, .nil⟩
  | p :: ps, hints => by
      refine ((leads_bind σ p.pattern _).bind fun _ =>
        (leads_closureParams (σ.bind p.pattern) ps hints.tail).mapped).mono ?_
      rintro τ _ _ ⟨_, us, vs, hp, ⟨_, ⟨rfl, hps⟩, rfl⟩, rfl⟩
      have hparam : Judged τ (.param p) (.type _) _ us :=
        ⟨⟨_, us, .one rfl hp, rfl, (List.append_nil us).symm⟩, trivial⟩
      exact ⟨_, .refl _, rfl, .of_judged rfl hparam hps⟩

theorem getLastD_of_forall_eq {tys : List Ty} {u : Ty} (h : ∀ ty ∈ tys, ty = u) :
    tys.getLastD u = u := by
  cases tys with
  | nil => rfl
  | cons t ts => exact h _ (List.getLast_mem (List.cons_ne_nil t ts))

theorem leads_longField (b : Bool) :
    Leads σ σ (modify fun t : Typing => { t with longField := t.longField || b }) fun _ _ vs =>
      vs = [] := by
  intro t ht
  have hgrows : Grows t [] { t with longField := t.longField || b } :=
    ⟨⟨List.Subset.refl _, List.Subset.refl _, rfl⟩, .refl _, .refl _⟩
  exact ⟨ht.mono hgrows.toExtends, fun τ _ => ⟨[], hgrows, rfl⟩⟩

theorem leads_var (σ : Scope) (i : Info) (name : String) (x : Expected) :
    Leads σ σ (expr (.var i name (σ.find? name)) x) fun τ ty vs =>
      Judged τ (.expr (.var i name (σ.find? name))) x ty vs := by
  intro t ht
  let e := Expr.var i name (σ.find? name)
  obtain ⟨hbinds, hrecord⟩ := leads_record (σ := σ) e (varType t name (σ.find? name) x) t ht
  refine ⟨hbinds, fun τ hτ => ?_⟩
  obtain ⟨vs, hgrows, -, rfl, hnoted⟩ := hrecord τ hτ
  refine ⟨_, hgrows, ⟨[], [], .nil, ?_, rfl⟩, hnoted⟩
  have hknown : Extends t τ := hgrows.toExtends.trans hτ
  change Says τ x [] (varType t name (σ.find? name) x) (.expr (.var i name (σ.find? name)))
  cases hfind : σ.find? name with
  | none =>
      change varType t name none x = varType τ name none x
      rw [varType, varType, Typing.functionType?, Typing.functionType?, hknown.functions]
  | some b =>
      obtain ⟨_, hmem⟩ := ht _ (Scope.mem_of_find? hfind)
      obtain ⟨ty, hty⟩ := exists_lookup hmem
      have hvar : varType t name (some b) x = ty := by
        change (t.bindings.lookup b).getD .unknown = ty
        rw [hty]
        rfl
      rw [hvar]
      exact hknown.bindings (mem_of_lookup hty)

def Initial (declared : Option Ty) (e : Option Expr) (τ : Typing) (ty : Ty) (vs : List Node) : Prop :=
  ∃ tys, Typed τ (e.toList.map .expr) [] (some (match declared with
    | some t => .type t
    | none => .nothing)) tys vs ∧ ty = declared.getD (tys.headD .unknown)

mutual

theorem leads_expr (σ : Scope) : (e : Expr) → (x : Expected) → Leads σ σ (expr (σ.expr e) x)
    fun τ ty vs => Judged τ (.expr (σ.expr e)) x ty vs
  | .int .., _ | .float .., _ | .string .., _ | .bool .., _ | .brk _, _ | .cont _, _ =>
      leads_leaf rfl fun _ => rfl
  | .var i name b, x => leads_var σ i name x
  | .call i callee args, x => by
      rw [Scope.expr, expr]
      cases hpath : pathRule? (σ.expr callee) (σ.exprs args).length x with
      | some rule =>
          refine ((leads_exprs σ args _ _).bind fun _ => leads_record _ _).mono ?_
          rintro τ _ _ ⟨tys, us, _, hargs, ⟨rfl, rfl, hnoted⟩, rfl⟩
          have hafter : exprRule τ x (.unknown :: tys) (.call i (σ.expr callee) (σ.exprs args)) =
              rule.after none := by rw [exprRule, hpath]
          refine exists_judged (.unknown :: tys) ?_ ?_ hnoted (.refl _)
          · rw [hafter]
            exact .skip rfl hargs
          · change _ = (exprRule τ x _ _).result _
            rw [hafter]
            rfl
      | none =>
          refine ((leads_expr σ callee .nothing).bind fun _ => (leads_exprs σ args _ _).bind fun _ =>
            leads_record _ _).mono ?_
          rintro τ _ _ ⟨ty, us, _, hc, ⟨tys, vs, _, hargs, ⟨rfl, rfl, hnoted⟩, rfl⟩, rfl⟩
          have hafter : exprRule τ x (ty :: tys) (.call i (σ.expr callee) (σ.exprs args)) =
              (CallRule.ofCallee ty).after (some .nothing) := by
            rw [exprRule, hpath]
            rfl
          have hparts : Typed τ (.expr (σ.expr callee) :: (σ.exprs args).map .expr)
              ((CallRule.ofCallee ty).after (some .nothing)).first (CallRule.ofCallee ty).others
              (ty :: tys) (us ++ vs) := .of_judged rfl hc hargs
          refine exists_judged (ty :: tys) ?_ ?_ hnoted (.of_eq (List.append_assoc us vs _).symm)
          · rw [hafter]
            exact hparts
          · change _ = (exprRule τ x _ _).result _
            rw [hafter]
            rfl
  | .methodCall i receiver name s args, x => by
      refine ((leads_expr σ receiver .nothing).bind fun _ => (leads_exprs σ args _ _).bind fun _ =>
        leads_record _ _).mono ?_
      rintro τ _ _ ⟨ty, us, _, hr, ⟨tys, vs, _, hargs, ⟨rfl, rfl, hnoted⟩, rfl⟩, rfl⟩
      exact exists_judged (ty :: tys) (.of_judged rfl hr hargs) rfl hnoted (by simp)
  | .field i subject name, x => by
      refine ((leads_expr σ subject .nothing).bind fun _ => (leads_longField _).bind fun _ =>
        leads_record _ _).mono ?_
      rintro τ _ _ ⟨ty, us, _, hs, ⟨_, _, _, rfl, ⟨rfl, rfl, hnoted⟩, rfl⟩, rfl⟩
      exact exists_judged [ty] (.one rfl hs) rfl hnoted (.refl _)
  | .index i subject position, x => by
      refine ((leads_expr σ subject .nothing).bind fun _ => (leads_expr σ position .nothing).bind
        fun _ => leads_record _ _).mono ?_
      rintro τ _ _ ⟨ty, us, _, hs, ⟨ty', vs, _, hp, ⟨rfl, rfl, hnoted⟩, rfl⟩, rfl⟩
      exact exists_judged [ty, ty'] (.of_judged rfl hs (.one rfl hp)) rfl hnoted (by simp)
  | .unary i op operand, x => by
      refine ((leads_expr σ operand .nothing).bind fun _ => leads_record _ _).mono ?_
      rintro τ _ _ ⟨ty, us, _, ho, ⟨rfl, rfl, hnoted⟩, rfl⟩
      exact exists_judged [ty] (.one rfl ho) rfl hnoted (.refl _)
  | .binary i op left right, x => by
      refine ((leads_expr σ left .nothing).bind fun _ => (leads_expr σ right _).bind fun _ =>
        leads_record _ _).mono ?_
      rintro τ _ _ ⟨ty, us, _, hl, ⟨ty', vs, _, hr, ⟨rfl, rfl, hnoted⟩, rfl⟩, rfl⟩
      exact exists_judged [ty, ty'] (.of_judged rfl hl (.one rfl hr)) rfl hnoted (by simp)
  | .range i lower upper, x => by
      refine ((leads_optional σ lower).bind fun _ => (leads_optional σ upper).bind fun _ =>
        leads_record _ _).mono ?_
      rintro τ _ _ ⟨a, us, _, ha, ⟨b, vs, _, hb, ⟨rfl, rfl, hnoted⟩, rfl⟩, rfl⟩
      have hparts := Typed.append ha (by rwa [List.drop_nil])
      rw [← List.map_append] at hparts
      have hhead : (a <|> b).getD .unknown = (a.toList ++ b.toList).headD .unknown := by
        cases a <;> cases b <;> rfl
      exact exists_judged (a.toList ++ b.toList) hparts (congrArg Ty.range hhead) hnoted (by simp)
  | .array i elems, x => by
      refine ((leads_exprs σ elems _ _).bind fun _ => leads_record _ _).mono ?_
      rintro τ _ _ ⟨tys, us, _, he, ⟨rfl, rfl, hnoted⟩, rfl⟩
      exact exists_judged tys he rfl hnoted (.refl _)
  | .tuple i elems, x => by
      refine ((leads_exprs σ elems _ _).bind fun _ => leads_record _ _).mono ?_
      rintro τ _ _ ⟨tys, us, _, he, ⟨rfl, rfl, hnoted⟩, rfl⟩
      exact exists_judged tys he rfl hnoted (.refl _)
  | .macroCall i name args, x => by
      refine ((leads_exprs σ args _ _).bind fun _ => leads_record _ _).mono ?_
      rintro τ _ _ ⟨tys, us, _, he, ⟨rfl, rfl, hnoted⟩, rfl⟩
      exact exists_judged tys he rfl hnoted (.refl _)
  | .closure i ps body isMove, x => by
      refine ((leads_closureParams σ ps _).bind fun _ =>
        (leads_expr (σ.bindParams ps) body .nothing).bind fun _ => leads_record _ _).leave.mono ?_
      rintro τ _ _ ⟨tys, us, _, ⟨rfl, hps⟩, ⟨ty, vs, _, hb, ⟨rfl, rfl, hnoted⟩, rfl⟩, rfl⟩
      have hdrop : (toBind (paramTypes ps x.params)).drop (ps.map Node.param).length = [] := by
        simp [toBind, length_paramTypes]
      have hparts := hps.concat hdrop hb
      refine exists_judged (paramTypes ps x.params ++ [ty]) hparts ?_ hnoted
        (.of_eq (List.append_assoc us vs _).symm)
      change _ = Ty.closure _ _
      rw [List.drop_left]
      rfl
  | .block i body, x => by
      refine ((leads_block σ body _).bind fun _ => leads_record _ _).mono ?_
      rintro τ _ _ ⟨ty, us, _, hb, ⟨rfl, rfl, hnoted⟩, rfl⟩
      exact exists_judged [_] (.one rfl hb) rfl hnoted (.refl _)
  | .cond i test yes no, x => by
      refine ((leads_expr σ test .nothing).bind fun _ => (leads_block σ yes _).bind fun ty =>
        (leads_otherwise σ no ty).bind fun _ => leads_record _ _).mono ?_
      rintro τ _ _ ⟨a, us, _, ht, ⟨b, vs, _, hy, ⟨_, ws, _, ⟨tys, hn, rfl⟩, ⟨rfl, rfl, hnoted⟩, rfl⟩,
        rfl⟩, rfl⟩
      have hsome : (σ.optional no).isSome = no.isSome := by cases no <;> rfl
      refine exists_judged (a :: b :: tys) (.of_judged rfl ht (.of_judged rfl hy hn)) ?_ hnoted (by simp)
      change _ = if (σ.optional no).isSome then b else .unit
      rw [hsome]
  | .whileLoop i test body, x => by
      refine ((leads_expr σ test .nothing).bind fun _ => (leads_block σ body .nothing).bind fun _ =>
        leads_record _ _).mono ?_
      rintro τ _ _ ⟨ty, us, _, ht, ⟨ty', vs, _, hb, ⟨rfl, rfl, hnoted⟩, rfl⟩, rfl⟩
      exact exists_judged [ty, ty'] (.of_judged rfl ht (.one rfl hb)) rfl hnoted (by simp)
  | .loop i body, x => by
      refine ((leads_block σ body _).bind fun _ => leads_record _ _).mono ?_
      rintro τ _ _ ⟨ty, us, _, hb, ⟨rfl, rfl, hnoted⟩, rfl⟩
      exact exists_judged [ty] (.one rfl hb) rfl hnoted (.refl _)
  | .forLoop i p iterable body, x => by
      refine ((leads_expr σ iterable .nothing).bind fun ty =>
        (leads_bind σ p (iteratedType ty)).bind fun _ =>
          (leads_block (σ.bind p) body .nothing).bind fun _ => leads_record _ _).leave.mono ?_
      rintro τ _ _ ⟨a, us, _, hit, ⟨_, vs, _, hp, ⟨b, ws, _, hb, ⟨rfl, rfl, hnoted⟩, rfl⟩, rfl⟩, rfl⟩
      refine exists_judged [iteratedType a, a, b]
        (.of_judged rfl hp (.of_judged rfl hit (.one rfl hb))) rfl hnoted ?_
      simpa using List.perm_append_comm_assoc us vs _
  | .ret i value, x => by
      refine ((leads_optional σ value).bind fun _ => leads_record _ _).mono ?_
      rintro τ _ _ ⟨o, us, _, hv, ⟨rfl, rfl, hnoted⟩, rfl⟩
      exact exists_judged o.toList hv rfl hnoted (.refl _)

theorem leads_exprs (σ : Scope) : (es : List Expr) → (first : List (Option Expected)) →
    (others : Option Expected) → Leads σ σ (exprs (σ.exprs es) first others) fun τ tys vs =>
      Typed τ ((σ.exprs es).map .expr) first others tys vs
  | [], _, _ => .pure fun _ => .nil
  | e :: es, first, others => by
      rw [Scope.exprs, exprs]
      cases hx : first.headD others with
      | none =>
          refine (leads_exprs σ es first.tail others).mapped.mono ?_
          rintro τ _ us ⟨tys, hes, rfl⟩
          exact ⟨us, .refl _, .skip hx hes⟩
      | some x =>
          refine ((leads_expr σ e x).bind fun _ => (leads_exprs σ es first.tail others).mapped).mono ?_
          rintro τ _ _ ⟨ty, us, vs, he, ⟨tys, hes, rfl⟩, rfl⟩
          exact ⟨_, .refl _, .of_judged hx he hes⟩

theorem leads_optional (σ : Scope) : (o : Option Expr) → Leads σ σ (optional (σ.optional o))
    fun τ r vs => Typed τ ((σ.optional o).toList.map .expr) [] (some .nothing) r.toList vs
  | none => .pure fun _ => .nil
  | some e => (leads_expr σ e .nothing).map fun _ _ _ h => .one rfl h

theorem leads_otherwise (σ : Scope) : (o : Option Expr) → (ty : Ty) →
    Leads σ σ (otherwise (σ.optional o) ty) fun τ r vs => ∃ tys,
      Typed τ ((σ.optional o).toList.map .expr) [] (some (.type ty)) tys vs ∧
        r = if o.isSome then ty else .unit
  | none, _ => .pure fun _ => ⟨[], .nil, rfl⟩
  | some e, ty => (leads_expr σ e (.type ty)).map fun _ ty' _ h => ⟨[ty'], .one rfl h, rfl⟩

theorem leads_initializer (σ : Scope) : (o : Option Expr) → (declared : Option Ty) →
    Leads σ σ (initializer (σ.optional o) declared) fun τ ty vs =>
      Initial declared (σ.optional o) τ ty vs
  | none, _ => .pure fun _ => ⟨[], .nil, rfl⟩
  | some e, _ => (leads_expr σ e _).map fun _ ty _ h => ⟨[ty], .one rfl h, rfl⟩

theorem leads_stmts (σ : Scope) : (ss : List Stmt) →
    Leads σ (σ.afterStmts ss) (stmts (σ.stmts ss)) fun τ _ vs => ∀ x, ∃ tys,
      Typed τ ((σ.stmts ss).map .stmt) [] (some x) tys vs ∧ ∀ ty ∈ tys, ty = .unit
  | [] => .pure fun _ _ => ⟨[], .nil, by simp⟩
  | .expr i value :: ss => by
      refine ((leads_expr σ value .nothing).bind fun _ => leads_stmts σ ss).mono ?_
      rintro τ _ _ ⟨ty, us, vs, hv, hss, rfl⟩
      refine ⟨_, .refl _, fun x => ?_⟩
      obtain ⟨tys, htyped, hunits⟩ := hss x
      have hstmt : Judged τ (.stmt (.expr i (σ.expr value))) x .unit us :=
        ⟨⟨[ty], us, .one rfl hv, rfl, (List.append_nil us).symm⟩, trivial⟩
      exact ⟨.unit :: tys, .of_judged rfl hstmt htyped, List.forall_mem_cons.mpr ⟨rfl, hunits⟩⟩
  | .letIn i p declared value :: ss => by
      refine ((leads_initializer σ value _).bind fun ty => (leads_bind σ p ty).bind fun _ =>
        leads_stmts (σ.bind p) ss).mono ?_
      rintro τ _ _ ⟨_, us, _, ⟨tys, hv, rfl⟩, ⟨_, vs, ws, hp, hss, rfl⟩, rfl⟩
      refine ⟨_, List.perm_append_comm_assoc us vs ws, fun x => ?_⟩
      obtain ⟨tys', htyped, hunits⟩ := hss x
      have hstmt : Judged τ (.stmt (.letIn i p declared (σ.optional value))) x .unit (vs ++ us) :=
        ⟨⟨_ :: tys, vs ++ us, .of_judged rfl hp hv, rfl, (List.append_nil _).symm⟩, trivial⟩
      have hall : Typed τ (_ :: _) [] (some x) (.unit :: tys') (vs ++ us ++ ws) :=
        .of_judged rfl hstmt htyped
      rw [List.append_assoc] at hall
      exact ⟨.unit :: tys', hall, List.forall_mem_cons.mpr ⟨rfl, hunits⟩⟩

theorem leads_block (σ : Scope) : (b : Block) → (x : Expected) → Leads σ σ (block (σ.block b) x)
    fun τ ty vs => Judged τ (.block (σ.block b)) x ty vs
  | .mk i ss none, x => by
      refine (leads_stmts σ ss).leave.map fun τ _ us hss => ?_
      obtain ⟨tys, htyped, hunits⟩ := hss x
      have hchildren : (Node.block (σ.block (.mk i ss none))).children = (σ.stmts ss).map .stmt :=
        List.append_nil _
      refine ⟨⟨tys, us, hchildren ▸ htyped, ?_, (List.append_nil us).symm⟩, trivial⟩
      exact (getLastD_of_forall_eq hunits).symm
  | .mk i ss (some tail), x => by
      refine ((leads_stmts σ ss).bind fun _ => leads_expr (σ.afterStmts ss) tail x).leave.mono ?_
      rintro τ ty _ ⟨_, us, vs, hss, htail, rfl⟩
      obtain ⟨tys, htyped, -⟩ := hss x
      have hall := htyped.concat List.drop_nil htail
      refine ⟨_, .refl _, ⟨tys ++ [ty], us ++ vs, hall, ?_, (List.append_nil _).symm⟩, trivial⟩
      change ty = (tys ++ [ty]).getLastD .unit
      rw [List.getLastD_concat]

end

theorem leads_params (σ : Scope) : (ps : List Param) → Leads σ (σ.bindParams ps) (params ps)
    fun τ _ vs => ∃ tys, Typed τ (ps.map .param)
      (toBind (ps.map fun p => Ty.declared p.declared)) (some .nothing) tys vs
  | [] => .pure fun _ => ⟨[], .nil⟩
  | p :: ps => by
      refine ((leads_bind σ p.pattern _).bind fun _ => leads_params (σ.bind p.pattern) ps).mono ?_
      rintro τ _ _ ⟨_, us, vs, hp, ⟨tys, hps⟩, rfl⟩
      have hparam : Judged τ (.param p) (.type _) _ us :=
        ⟨⟨_, us, .one rfl hp, rfl, (List.append_nil us).symm⟩, trivial⟩
      exact ⟨_, .refl _, _, .of_judged rfl hparam hps⟩

theorem leads_functions : (fs : List Function) → Leads [] [] (functions (fs.map Scope.function))
    fun τ _ vs => ∃ tys, Typed τ ((fs.map Scope.function).map .function) [] (some .nothing) tys vs
  | [] => .pure fun _ => ⟨[], .nil⟩
  | f :: fs => by
      let σ := Scope.bindParams [] f.params
      refine (((leads_params [] f.params).bind fun _ => leads_block σ f.body .nothing).leave.bind
        fun _ => leads_functions fs).mono ?_
      rintro τ _ _ ⟨_, _, ws, ⟨_, us, vs, ⟨tys, hps⟩, hb, rfl⟩, ⟨tys', hfs⟩, rfl⟩
      have hdrop : (toBind (f.params.map fun p => Ty.declared p.declared)).drop
          (f.params.map Node.param).length = [] := by simp [toBind]
      have hparts := hps.concat hdrop hb
      have hfunction : Judged τ (.function (Scope.function f)) .nothing .unit (us ++ vs) :=
        ⟨⟨_, us ++ vs, hparts, rfl, (List.append_nil _).symm⟩, trivial⟩
      exact ⟨_, .refl _, _, .of_judged rfl hfunction hfs⟩

end

end Infer

namespace Typing

theorem exists_typed (m : Module) : ∃ tys vs,
    Infer.Typed (ofModule m.resolve) (Node.module m.resolve).children [] (some .nothing) tys vs ∧
      ((ofModule m.resolve).exprs.map Prod.fst).Perm (vs.filterMap Infer.typedId?) ∧
      ((ofModule m.resolve).bindings.map Prod.fst).Perm (vs.filterMap Infer.boundId?) := by
  obtain ⟨-, hfunctions⟩ := Infer.leads_functions m.functions (declaring m.resolve.functions)
    fun _ hb => absurd hb List.not_mem_nil
  obtain ⟨vs, hgrows, tys, htyped⟩ := hfunctions _ (.refl _)
  obtain ⟨hexprs, hbindings⟩ := declaring_empty m.resolve.functions
  have hkeys := hgrows.typed
  have hbound := hgrows.bound
  rw [hexprs, List.map_nil, List.append_nil] at hkeys
  rw [hbindings, List.map_nil, List.append_nil] at hbound
  exact ⟨tys, vs, htyped, hkeys, hbound⟩

end Typing

end ChainLint
