import ChainLint.Proofs.Ty.Tracking

namespace ChainLint

open Tree TypePool

namespace Pooled

structure Basics.Stand (b : Basics) (p : TypePool) : Prop where
  unknown : p.Denotes b.unknown .unknown
  unit : p.Denotes b.unit .unit
  bool : p.Denotes b.bool (.scalar .bool)
  i32 : p.Denotes b.i32 (.scalar .i32)
  usize : p.Denotes b.usize (.scalar .usize)
  f64 : p.Denotes b.f64 (.scalar .f64)
  string : p.Denotes b.string .string
  strRef : p.Denotes b.strRef (.ref false .str)

theorem Basics.Stand.mono {b : Basics} {p q : TypePool} (h : b.Stand p) (hpq : p.Extends q) :
    b.Stand q :=
  ⟨h.unknown.mono hpq, h.unit.mono hpq, h.bool.mono hpq, h.i32.mono hpq, h.usize.mono hpq,
    h.f64.mono hpq, h.string.mono hpq, h.strRef.mono hpq⟩

theorem tracks_basics (p : TypePool) : Tracks p basics (pure ()) fun q b _ => b.Stand q := by
  have hscalar (s : Scalar) (q : TypePool) : Finds q (scalar s.name) (.scalar s) :=
    finds_scalar (Scalar.ofName?_name s)
  have henter {q : TypePool} {s : Shape} (ty : Ty) (h : q.Shows s ty)
      (hs : s ≠ .tuple [] := by nofun) : Finds q (enter s) ty := finds_enter h hs
  refine (henter .unknown rfl).first fun q₁ unknown _ hunknown => ?_
  refine (henter .unit rfl).first fun q₂ unit h₂ hunit => ?_
  refine (hscalar .bool q₂).first fun q₃ bool h₃ hbool => ?_
  refine (hscalar .i32 q₃).first fun q₄ i32 h₄ hi32 => ?_
  refine (hscalar .usize q₄).first fun q₅ usize h₅ husize => ?_
  refine (hscalar .f64 q₅).first fun q₆ f64 h₆ hf64 => ?_
  refine (henter .string rfl).first fun q₇ string h₇ hstring => ?_
  refine (henter .str rfl).first fun q₈ str h₈ hstr => ?_
  refine (henter (.ref false .str) ⟨str, rfl, hstr⟩).first fun q₉ strRef h₉ hstrRef => ?_
  refine .pure fun q h => ?_
  -- From here on `hₙ` leads from that step to the pool at the end.
  have h₈ := h₈.trans (h₉.trans h)
  have h₇ := h₇.trans h₈
  have h₆ := h₆.trans h₇
  have h₅ := h₅.trans h₆
  have h₄ := h₄.trans h₅
  have h₃ := h₃.trans h₄
  exact ⟨hunknown.mono (h₂.trans h₃), hunit.mono h₃, hbool.mono h₄, hi32.mono h₅, husize.mono h₆,
    hf64.mono h₇, hstring.mono h₈, hstrRef.mono h⟩

section

variable {b : Basics} {p : TypePool}

theorem ofHead_cons (name : String) (ty : Ty) (tys : List Ty) :
    Ty.ofHead name (ty :: tys) = if name = "()" then .tuple (ty :: tys) else if name = "str" then .str
      else if name = "String" then .string
      else match tys with
        | [] =>
            if name = "&" then .ref false ty else if name = "&mut" then .ref true ty
            else if name = "[]" then .slice ty else if name = "Option" then .option ty
            else if name = "Vec" then .vec ty else .adt name [ty]
        | tys => .adt name (ty :: tys) := by
  unfold Ty.ofHead
  cases Scalar.ofName? name <;> cases tys <;> rfl

theorem finds_ofHead (hb : b.Stand p) (name : String) {ids : List TypeId} {tys : List Ty}
    (h : p.DenoteAll ids tys) : Finds p (ofHead b name ids) (Ty.ofHead name tys) := by
  have hadt : Finds p (enter (.adt name ids)) (.adt name tys) := finds_enter ⟨ids, rfl, h⟩
  have helems : Finds p (enter (.ofElems ids)) (.ofElems tys) :=
    finds_enter (shows_ofElems h) (by cases ids <;> nofun)
  have hstr : Finds p (enter .str) .str := finds_enter rfl
  have hstring : Finds p (pure b.string) .string := finds_pure hb.string
  unfold ofHead
  match ids, tys, h with
  | [], [], _ =>
      unfold Ty.ofHead
      cases hname : Scalar.ofName? name with
      | some s => exact finds_scalar hname
      | none =>
          simp only [Option.isSome_none, Bool.false_eq_true, false_and, if_false, List.length_nil,
            Nat.zero_ne_one, and_false]
          exact .ite (fun _ => helems) fun _ => .ite (fun _ => hstr) fun _ =>
            .ite (fun _ => hstring) fun _ => hadt
  | [i], [ty], ⟨_, _, rfl, hi, _⟩ =>
      simp only [ofHead_cons, List.cons_ne_nil, and_false, if_false, List.length_singleton,
        and_true, item_singleton, pure_bind]
      refine .ite (fun _ => helems) fun _ => .ite (fun _ => hstr) fun _ => .ite (fun _ => hstring)
        fun _ => ?_
      have hrest : Finds p
          (if name = "[]" then enter (.slice i) else if name = "Option" then enter (.option i)
            else if name = "Vec" then enter (.vec i) else enter (.adt name [i]))
          (if name = "[]" then .slice ty else if name = "Option" then .option ty
            else if name = "Vec" then .vec ty else .adt name [ty]) :=
        .ite (fun _ => finds_enter ⟨i, rfl, hi⟩) fun _ => .ite (fun _ => finds_enter ⟨i, rfl, hi⟩)
          fun _ => .ite (fun _ => finds_enter ⟨i, rfl, hi⟩) fun _ => hadt
      by_cases hshared : name = "&"
      · subst hshared
        exact finds_enter ⟨i, rfl, hi⟩
      · by_cases hmut : name = "&mut"
        · subst hmut
          exact finds_enter ⟨i, rfl, hi⟩
        · simp only [hshared, hmut, or_self, if_false]
          exact hrest
  | i :: i' :: is, ty :: ty' :: tys, _ =>
      have hlength : (i :: i' :: is).length ≠ 1 := by simp
      simp only [ofHead_cons, List.cons_ne_nil, hlength, and_false, if_false]
      exact .ite (fun _ => helems) fun _ => .ite (fun _ => hstr) fun _ => .ite (fun _ => hstring)
        fun _ => hadt

mutual

theorem finds_ofExpr : (t : TypeExpr) → {p : TypePool} → b.Stand p →
    Finds p (ofExpr b t) (Ty.ofExpr t)
  | .mk name args _, _, hb =>
      (tracks_ofExprs args hb).first fun _ _ hpq hids => finds_ofHead (hb.mono hpq) name hids

theorem tracks_ofExprs : (ts : List TypeExpr) → {p : TypePool} → b.Stand p →
    Tracks p (ofExprs b ts) (pure (Ty.ofExprs ts)) fun q ids tys => q.DenoteAll ids tys
  | [], _, _ => .pure fun _ _ => rfl
  | t :: ts, _, hb =>
      (finds_ofExpr t hb).first fun _ i hpq hi => (tracks_ofExprs ts (hb.mono hpq)).first
        fun _ is hpq' his => .pure fun _ hqr => ⟨i, is, rfl, hi.mono (hpq'.trans hqr), his.mono hqr⟩

end

theorem tracks_ofDeclared (hb : b.Stand p) (o : Option TypeExpr) :
    Tracks p (ofDeclared b o) (pure (o.map Ty.ofExpr)) fun q o o' => Option.Rel q.Denotes o o' := by
  cases o with
  | none => exact .pure fun _ _ => .none
  | some t => exact (finds_ofExpr t hb).first fun _ _ _ hid => .pure fun _ hqr => .some (hid.mono hqr)

theorem tracks_setBinding (i : NodeId) {id : TypeId} {ty : Ty} (h : p.Denotes id ty) :
    Tracks p (change (·.setBinding i id)) (modify (·.setBinding i ty)) fun _ _ _ => True :=
  tracks_change fun _ _ hpt ht =>
    ⟨.refl _, ht.pool, ht.exprs, ht.bindings.cons i (h.mono hpt), ht.functions, ht.longField⟩

mutual

theorem tracks_bind : (pat : Pat) → {p : TypePool} → b.Stand p → {id : TypeId} → {ty : Ty} →
    p.Denotes id ty → Tracks p (bind b pat id) (Infer.bind pat ty) fun _ _ _ => True
  | .binding i _ _, _, _, _, _, hid => tracks_setBinding i.id hid
  | .wild _, _, _, _, _, _ => .pure fun _ _ => trivial
  | .tuple _ elems, p, hb, id, ty, hid => by
      rw [bind, Infer.bind]
      have hunknown := denoteAll_replicate hb.unknown elems.length
      cases ty with
      | tuple tys =>
          refine .look hid fun s hshows hkind => ?_
          simp only [hkind, Ty.kind, true_and, hshows.elems.length, Infer.partTypes]
          split
          · exact tracks_bindAll elems hb hshows.elems
          · exact tracks_bindAll elems hb hunknown
      | _ =>
          refine .look hid fun s _ hkind => ?_
          simp only [hkind, Ty.kind, reduceCtorEq, false_and, if_false, Infer.partTypes]
          exact tracks_bindAll elems hb hunknown

theorem tracks_bindAll : (pats : List Pat) → {p : TypePool} → b.Stand p → {ids : List TypeId} →
    {tys : List Ty} → p.DenoteAll ids tys →
    Tracks p (bindAll b pats ids) (Infer.bindAll pats tys) fun _ _ _ => True
  | [], _, _, _, _, _ => by
      rw [bindAll, Infer.bindAll]
      exact .pure fun _ _ => trivial
  | _ :: _, _, _, _, [], h => by
      obtain rfl := h
      exact .pure fun _ _ => trivial
  | pat :: pats, _, hb, _, _ :: _, ⟨_, _, hids, hi, his⟩ => by
      subst hids
      exact (tracks_bind pat hb hi).bind fun _ _ _ hpq _ =>
        tracks_bindAll pats (hb.mono hpq) (his.mono hpq)

end

theorem tracks_closureParams : (ps : List Param) → {p : TypePool} → b.Stand p →
    {ids : List TypeId} → {tys : List Ty} → p.DenoteAll ids tys →
    Tracks p (closureParams b ps ids) (Infer.closureParams ps tys) fun q ids tys =>
      q.DenoteAll ids tys
  | [], _, _, _, _, _ => .pure fun _ _ => rfl
  | param :: ps, p, hb, ids, tys, h => by
      have hparams : Infer.closureParams (param :: ps) tys = (do
          let ty := (param.declared.map Ty.ofExpr).getD (tys.headD .unknown)
          Infer.bind param.pattern ty
          let tys ← Infer.closureParams ps tys.tail
          return ty :: tys) := by
        rw [Infer.closureParams]
        cases param.declared <;> rfl
      rw [closureParams, hparams]
      refine (tracks_ofDeclared hb param.declared).first fun q o hpq ho => ?_
      have hid := getD_of_rel ho (h.headD hb.unknown |>.mono hpq)
      refine (tracks_bind param.pattern (hb.mono hpq) hid).bind fun q' _ _ hqq' _ => ?_
      have hpq' := hpq.trans hqq'
      refine (tracks_closureParams ps (hb.mono hpq') (h.tail.mono hpq')).bind
        fun r is tys' hqr his => ?_
      exact .pure fun _ hrr' => ⟨_, is, rfl, hid.mono (hqq'.trans (hqr.trans hrr')), his.mono hrr'⟩

inductive Hinted (p : TypePool) : Option TypeId → Expected → Prop where
  | nothing : Hinted p none .nothing
  | type {id : TypeId} {ty : Ty} (h : p.Denotes id ty) : Hinted p (some id) (.type ty)

theorem Hinted.mono {q : TypePool} {hint : Option TypeId} {x : Expected} (h : Hinted p hint x)
    (hpq : p.Extends q) : Hinted q hint x := by
  cases h with
  | nothing => exact .nothing
  | type h => exact .type (h.mono hpq)

theorem Hinted.forValue {hint : Option TypeId} {x : Expected} (h : Hinted p hint x) :
    x.forValue = x := by
  cases h <;> rfl

theorem finds_intType (hb : b.Stand p) {suffix : Option String}
    (hsuffix : ∀ name, suffix = some name → (Scalar.ofName? name).isSome) {hint : Option TypeId}
    {x : Expected} (h : Hinted p hint x) :
    Finds p (intType b suffix hint) (Infer.intType suffix x) := by
  cases suffix with
  | some name =>
      obtain ⟨s, hs⟩ := Option.isSome_iff_exists.mp (hsuffix name rfl)
      simp only [intType, Infer.intType, Option.bind_some, hs]
      exact finds_scalar hs
  | none =>
      cases h with
      | nothing => exact finds_pure hb.i32
      | @type id ty h =>
          refine .look h fun s hshows _ => ?_
          rw [hshows.name]
          exact .ite (fun _ => finds_pure h) fun _ => finds_pure hb.i32

theorem finds_floatType (hb : b.Stand p) {suffix : Option String}
    (hsuffix : ∀ name, suffix = some name → (Scalar.ofName? name).isSome) :
    Finds p (floatType b suffix) (Infer.floatType suffix) := by
  cases suffix with
  | some name =>
      obtain ⟨s, hs⟩ := Option.isSome_iff_exists.mp (hsuffix name rfl)
      simp only [floatType, Infer.floatType, Option.bind_some, hs]
      exact finds_scalar hs
  | none => exact finds_pure hb.f64

theorem tracks_lookup {κ : Type} [BEq κ] (hb : b.Stand p) {f : Table → List (κ × TypeId)}
    {g : Typing → List (κ × Ty)}
    (h : ∀ (t : Table) (s : Typing), t.Denotes s → t.pool.Lists (f t) (g s)) (k : κ) :
    Tracks p (do return ((f (← get).now).lookup k).getD b.unknown)
      (do return ((g (← get)).lookup k).getD .unknown) fun q id ty => q.Denotes id ty :=
  fun c s hpc hcs hpast => ⟨_, c, rfl, .refl _, hcs, hpast,
    getD_of_rel ((h _ s hcs).lookup k) (hb.unknown.mono hpc)⟩

theorem finds_none (hb : b.Stand p) : Finds p (enter (.option b.unknown)) (.option .unknown) :=
  finds_enter ⟨_, rfl, hb.unknown⟩

theorem tracks_isOption {id : TypeId} {ty : Ty} (h : p.Denotes id ty) :
    Tracks p (query (·.isOption (some id))) (pure ty.isOption) fun _ x y => x = y := by
  obtain ⟨s, hs, hshows⟩ := denotes_iff.mp h
  refine tracks_query fun q hpq _ => ⟨_, ?_, rfl⟩
  simp only [isOption, get_eq_ok (hpq id s hs)]
  cases ty <;> grind [Shows, Ty.isOption]

theorem tracks_varType (hb : b.Stand p) (name : String) (binding : Option NodeId)
    {hint : Option TypeId} {x : Expected} (h : Hinted p hint x) :
    Tracks p (varType b name binding hint) (do return Infer.varType (← get) name binding x)
      fun q id ty => q.Denotes id ty := by
  cases binding with
  | some i => exact tracks_lookup hb (fun _ _ ht => ht.bindings) i
  | none =>
      by_cases hname : name = "None"
      · subst hname
        cases h with
        | nothing => exact finds_none hb
        | @type id ty h =>
            refine (tracks_isOption h).first fun q x hpq hx => ?_
            subst hx
            cases ty with
            | option inner => exact finds_pure (h.mono hpq)
            | _ => exact finds_none (hb.mono hpq)
      · simp only [varType, Infer.varType, hname, if_false]
        exact tracks_lookup hb (fun _ _ ht => ht.functions) name

theorem tracks_elem? {id : TypeId} {ty : Ty} (h : p.Denotes id ty) :
    Tracks p (elem? id) (pure ty.elem?) fun q o o' => Option.Rel q.Denotes o o' := by
  refine .look h fun s hshows hkind => ?_
  cases ty with
  | vec | slice | array =>
      obtain ⟨i, rfl, hi⟩ := hshows
      exact .pure fun _ hpq => .some (hi.mono hpq)
  | _ =>
      simp only [hkind, Ty.kind, reduceCtorEq, or_self, if_false]
      exact .pure fun _ _ => .none

theorem tracks_longField (long : Bool) :
    Tracks p (change fun t => { t with longField := t.longField || long })
      (modify fun t => { t with longField := t.longField || long }) fun _ _ _ => True := by
  refine tracks_change fun t s _ ht => ⟨.refl _, ht.pool, ht.exprs, ht.bindings, ht.functions, ?_⟩
  rw [ht.longField]

theorem modify_longField_false :
    (modify fun t => { t with longField := t.longField || false } : Infer Unit) = pure () := by
  simp only [Bool.or_false]
  rfl

theorem tracks_fieldType (hb : b.Stand p) {id : TypeId} {ty : Ty} (h : p.Denotes id ty)
    (name : String) : Tracks p (fieldType b id name)
      (do
        modify fun t => { t with longField := t.longField || Infer.isLongField ty name }
        return Infer.fieldType ty name) fun q id ty => q.Denotes id ty := by
  have hunknown : Finds p (pure b.unknown) .unknown := finds_pure hb.unknown
  refine .look h fun s hshows hkind => ?_
  cases ty with
  | tuple tys =>
      have hids := hshows.elems
      cases hplace : Infer.fieldIndex? name with
      | none =>
          simp only [Infer.isLongField, Infer.fieldType, hplace, Option.isSome_none, Bool.false_and,
            modify_longField_false]
          exact hunknown
      | some place =>
          simp only [hkind, Ty.kind, if_true, Infer.isLongField, Infer.fieldType, hplace,
            Option.isSome_some, Bool.true_and]
          refine (tracks_longField _).bind fun q _ _ hpq _ => ?_
          by_cases hlt : place < s.parts.length
          · obtain ⟨ty, hty, hid⟩ := hids.getElem (List.getElem?_eq_getElem hlt)
            rw [if_pos hlt, item_eq (List.getElem?_eq_getElem hlt), hty]
            exact finds_pure (hid.mono hpq)
          · rw [if_neg hlt, List.getElem?_eq_none (hids.length ▸ Nat.not_lt.mp hlt)]
            exact hunknown.grow hpq
  | _ =>
      simp only [hkind, Ty.kind, reduceCtorEq, if_false, Infer.isLongField, Infer.fieldType,
        modify_longField_false]
      cases Infer.fieldIndex? name <;> exact hunknown

theorem finds_indexType (hb : b.Stand p) {id place : TypeId} {ty placeTy : Ty}
    (h : p.Denotes id ty) (hplace : p.Denotes place placeTy) :
    Finds p (indexType b id place) (Infer.indexType ty placeTy) := by
  refine (tracks_elem? h).first fun q o hpq ho => ?_
  unfold Infer.indexType
  generalize ty.elem? = o' at ho
  cases ho with
  | none => exact finds_pure (hb.unknown.mono hpq)
  | @some elem elemTy helem =>
      refine .look (hplace.mono hpq) fun s _ hkind => ?_
      have hrange : s.kind = .range ↔ placeTy.isRange := by
        rw [hkind]
        cases placeTy <;> simp [Ty.kind, Ty.isRange]
      simp only [hrange]
      exact .ite (fun _ => finds_enter ⟨elem, rfl, helem⟩) fun _ => finds_pure helem

theorem finds_unaryType (hb : b.Stand p) (op : UnaryOp) {id : TypeId} {ty : Ty}
    (h : p.Denotes id ty) : Finds p (unaryType b op id) (Infer.unaryType op ty) := by
  cases op with
  | ref | refMut => exact finds_enter ⟨id, rfl, h⟩
  | neg | not => exact finds_pure h
  | deref =>
      refine .look h fun s hshows hkind => ?_
      cases ty with
      | ref isMut ty =>
          obtain ⟨i, rfl, hi⟩ := hshows
          exact finds_pure hi
      | _ =>
          simp only [hkind, Ty.kind, reduceCtorEq, if_false]
          exact finds_pure hb.unknown

theorem finds_iteratedType (hb : b.Stand p) {id : TypeId} {ty : Ty} (h : p.Denotes id ty) :
    Finds p (iteratedType b id) (Infer.iteratedType ty) := by
  refine .look h fun s hshows hkind => ?_
  cases ty with
  | range | vec | array =>
      obtain ⟨i, rfl, hi⟩ := hshows
      exact finds_pure hi
  | ref isMut ty =>
      obtain ⟨i, hs, hi⟩ := hshows
      have hparts : s.parts = [i] := hs ▸ rfl
      simp only [hkind, Ty.kind, hparts, reduceCtorEq, or_self, if_false, if_true,
        item_singleton, pure_bind]
      refine (finds_peel hi).first fun q target hpq htarget => ?_
      refine (tracks_elem? htarget).first fun r o hqr ho => ?_
      simp only [Infer.iteratedType]
      generalize ty.peel.elem? = o' at ho
      cases ho with
      | none => exact finds_pure (hb.unknown.mono (hpq.trans hqr))
      | @some elem elemTy helem => exact finds_enter ⟨elem, rfl, helem⟩
  | _ =>
      simp only [hkind, Ty.kind, reduceCtorEq, or_self, if_false]
      exact finds_pure hb.unknown

theorem finds_macroResult (hb : b.Stand p) (name : String) {ids : List TypeId} {tys : List Ty}
    (h : p.DenoteAll ids tys) :
    Finds p (macroResult b name ids) (CallRule.macroResult name tys) := by
  unfold macroResult CallRule.macroResult
  exact .ite (fun _ => finds_enter ⟨_, rfl, h.headD hb.unknown⟩) fun _ =>
    .ite (fun _ => finds_pure hb.string) fun _ =>
      .ite (fun _ => finds_pure hb.unit) fun _ => finds_pure hb.unknown

end

end Pooled

end ChainLint
