import ChainLint.Proofs.Ty.Finding

namespace ChainLint

open Tree TypePool

namespace Pooled

section

variable {b : Basics} {p : TypePool}

inductive Asks (p : TypePool) : Option Ask → Option Expected → Prop where
  | none : Asks p none none
  | type {hint : Option TypeId} {x : Expected} (h : Hinted p hint x) :
      Asks p (some (.type hint)) (some x)
  | result {ids : List TypeId} {tys : List Ty} (h : p.DenoteAll ids tys) :
      Asks p (some (.result ids)) (some (.callable tys))
  | nothing : Asks p (some .nothing) (some .nothing)

theorem Asks.mono {q : TypePool} {ask : Option Ask} {x : Option Expected} (h : Asks p ask x)
    (hpq : p.Extends q) : Asks q ask x := by
  cases h with
  | none => exact .none
  | type h => exact .type (h.mono hpq)
  | result h => exact .result (h.mono hpq)
  | nothing => exact .nothing

theorem asks_free : Asks p (some (.type none)) (some .nothing) := .type .nothing

def Answers (p : TypePool) : Option Ask → TypeId → Ty → Prop
  | some (.type _), id, ty => p.Denotes id ty
  | some (.result _), id, ty => p.Denotes id ty.callResult
  | _, _, _ => True

inductive AnswerAll (p : TypePool) :
    List (Option Ask) → Option Ask → List TypeId → List Ty → Prop where
  | nil {first : List (Option Ask)} {others : Option Ask} : AnswerAll p first others [] []
  | cons {first : List (Option Ask)} {others : Option Ask} {id : TypeId} {ty : Ty}
      {ids : List TypeId} {tys : List Ty} (h : Answers p (first.headD others) id ty)
      (hs : AnswerAll p first.tail others ids tys) :
      AnswerAll p first others (id :: ids) (ty :: tys)

theorem Answers.mono {q : TypePool} {ask : Option Ask} {id : TypeId} {ty : Ty}
    (h : Answers p ask id ty) (hpq : p.Extends q) : Answers q ask id ty := by
  unfold Answers at h ⊢
  split at h
  · exact h.mono hpq
  · exact h.mono hpq
  · trivial

theorem AnswerAll.mono {q : TypePool} {first : List (Option Ask)} {others : Option Ask}
    {ids : List TypeId} {tys : List Ty} (h : AnswerAll p first others ids tys)
    (hpq : p.Extends q) : AnswerAll q first others ids tys := by
  induction h with
  | nil => exact .nil
  | cons h _ ih => exact .cons (h.mono hpq) ih

theorem AnswerAll.denoteAll {first : List (Option Ask)} {others : Option TypeId}
    {ids : List TypeId} {tys : List Ty} (h : AnswerAll p first (some (.type others)) ids tys)
    (hfirst : ∀ ask ∈ first, ∃ hint, ask = some (.type hint)) : p.DenoteAll ids tys := by
  generalize hask : some (Ask.type others) = ask at h
  induction h with
  | nil => rfl
  | @cons first others' id ty ids tys h _ ih =>
      subst hask
      refine ⟨id, ids, rfl, ?_, ih (fun ask hmem => hfirst ask (List.mem_of_mem_tail hmem)) rfl⟩
      cases first with
      | nil => exact h
      | cons ask first =>
          obtain ⟨hint, rfl⟩ := hfirst ask List.mem_cons_self
          exact h

theorem AnswerAll.head {first : List (Option Ask)} {others : Option Ask} {ids : List TypeId}
    {tys : List Ty} (h : AnswerAll p first others ids tys) (hlength : 0 < ids.length) :
    ∃ id ty, item ids 0 = pure id ∧ tys.headD .unknown = ty ∧
      Answers p (first.headD others) id ty := by
  cases h with
  | nil => cases hlength
  | cons h _ => exact ⟨_, _, rfl, rfl, h⟩

structure Agrees (p : TypePool) (n : Nat) (r : PooledRule) (r' : CallRule) : Prop where
  first : List.Forall₂ (Asks p) r.first r'.first
  others : Asks p r.others r'.others
  result : ∀ q ids tys, p.Extends q → ids.length = n → AnswerAll q r.first r.others ids tys →
    Finds q (r.result ids) (r'.result tys)

theorem Agrees.mono {q : TypePool} {n : Nat} {r : PooledRule} {r' : CallRule} (h : Agrees p n r r')
    (hpq : p.Extends q) : Agrees q n r r' :=
  ⟨h.first.imp fun _ _ hask => hask.mono hpq, h.others.mono hpq,
    fun q' ids tys hqq' => h.result q' ids tys (hpq.trans hqq')⟩

section

variable {n : Nat}

theorem agrees_free {id : TypeId} {ty : Ty} (h : p.Denotes id ty) :
    Agrees p n (free id) (.free ty) :=
  ⟨.nil, asks_free, fun _ _ _ hpq _ _ => finds_pure (h.mono hpq)⟩

theorem agrees_untyped {a : Pooled TypeId} {ty : Ty} (h : Finds p a ty) :
    Agrees p n (untyped a) (.untyped ty) :=
  ⟨.nil, .none, fun _ _ _ hpq _ _ => h.grow hpq⟩

theorem agrees_hinted {hint : TypeId} {hintTy : Ty} (hhint : p.Denotes hint hintTy)
    {a : Pooled TypeId} {ty : Ty} (h : Finds p a ty) :
    Agrees p n (hinted hint a) (.hinted hintTy ty) :=
  ⟨.cons (.type (.type hhint)) .nil, asks_free, fun _ _ _ hpq _ _ => h.grow hpq⟩

theorem agrees_calling (hn : 0 < n) {ids : List TypeId} {tys : List Ty} (hids : p.DenoteAll ids tys)
    {f : TypeId → Pooled TypeId} {g : Ty → Ty}
    (h : ∀ q id ty, p.Extends q → q.Denotes id ty → Finds q (f id) (g ty)) :
    Agrees p n (calling ids f) (.calling tys g) := by
  refine ⟨.cons (.result hids) .nil, asks_free, fun q ids' tys' hpq hlength hanswers => ?_⟩
  obtain ⟨id, ty, hitem, hty, hid⟩ := hanswers.head (hlength ▸ hn)
  simp only [calling, CallRule.calling, hitem, hty, pure_bind]
  exact h q id _ hpq hid

theorem tracks_rule {r : PooledRule} {r' : CallRule} (h : Agrees p n r r') :
    Tracks p (pure (some r)) (pure (some r')) fun q o o' => Option.Rel (Agrees q n) o o' :=
  .pure fun _ hpq => .some (h.mono hpq)

theorem tracks_noRule :
    Tracks p (pure none) (pure none) fun q o o' => Option.Rel (Agrees q n) o o' :=
  .pure fun _ _ => .none

theorem tracks_optionArg? {id : TypeId} {ty : Ty} (h : p.Denotes id ty) :
    Tracks p (query (·.optionArg? id)) (pure ty.optionArg?) fun q o o' =>
      Option.Rel q.Denotes o o' := by
  obtain ⟨s, hs, hshows⟩ := denotes_iff.mp h
  refine tracks_query fun q hpq _ => ?_
  have hshows := hshows.mono hpq
  simp only [optionArg?, get_eq_ok (hpq id s hs)]
  cases ty with
  | option inner =>
      obtain ⟨i, rfl, hi⟩ := hshows
      exact ⟨_, rfl, .some hi⟩
  | _ => exact ⟨none, by grind [Shows], .none⟩

theorem agrees_some {hint : Option TypeId} {x : Expected} (h : Hinted p hint x) :
    Agrees p 1 ⟨[some (.type hint)], some (.type none), fun ids => do enter (.option (← item ids 0))⟩
      ⟨[some x], some .nothing, fun ts => .option (ts.headD .unknown)⟩ := by
  refine ⟨.cons (.type h) .nil, asks_free, fun q ids tys _ hlength hanswers => ?_⟩
  obtain ⟨id, ty, hitem, hty, hid⟩ := hanswers.head (hlength ▸ Nat.one_pos)
  simp only [hitem, hty, pure_bind]
  exact finds_enter ⟨id, rfl, hid⟩

theorem tracks_ofPath? (hb : b.Stand p) (name : String) {hint : Option TypeId} {x : Expected}
    (h : Hinted p hint x) : Tracks p (ofPath? b name n hint) (pure (CallRule.ofPath? name n x))
      fun q o o' => Option.Rel (Agrees q n) o o' := by
  unfold ofPath? CallRule.ofPath?
  refine .ite (fun hn => ?_) fun _ => .ite (fun _ => tracks_rule (agrees_free hb.string)) fun _ =>
    .ite (fun _ => ?_) fun _ => tracks_noRule
  · obtain ⟨-, rfl⟩ := hn
    cases h with
    | nothing => exact tracks_rule (agrees_some .nothing)
    | @type id ty h =>
        refine (tracks_optionArg? h).first fun q o hpq ho => ?_
        cases ty with
        | option inner =>
            cases ho with
            | some hid => exact tracks_rule (agrees_some (.type hid))
        | _ =>
            cases ho with
            | none => exact tracks_rule (agrees_some .nothing)
  · have hnew : Finds p (enter (.vec b.unknown)) (.vec .unknown) := finds_enter ⟨_, rfl, hb.unknown⟩
    cases h with
    | nothing => exact tracks_rule (agrees_untyped hnew)
    | @type id ty h =>
        cases ty with
        | vec elem =>
            refine tracks_rule (agrees_untyped (.look h fun s _ hkind => ?_))
            simp only [hkind, Ty.kind, if_true]
            exact finds_pure h
        | _ =>
            refine tracks_rule (agrees_untyped (.look h fun s _ hkind => ?_))
            simp only [hkind, Ty.kind, reduceCtorEq, if_false]
            exact hnew

theorem tracks_pathRule? (hb : b.Stand p) (callee : Expr) {hint : Option TypeId} {x : Expected}
    (h : Hinted p hint x) : Tracks p (pathRule? b callee n hint) (pure (Infer.pathRule? callee n x))
      fun q o o' => Option.Rel (Agrees q n) o o' := by
  cases callee with
  | var i name binding =>
      cases binding with
      | none => exact tracks_ofPath? hb name h
      | some _ => exact tracks_noRule
  | _ => exact tracks_noRule

theorem tracks_ofOption (hb : b.Stand p) (name : String) {base inner : TypeId} {ty : Ty} {s : Shape}
    (hbase : p.Denotes base (.option ty)) (hs : s.parts = [inner]) (h : p.Denotes inner ty) :
    Tracks p (ofOption b base s name n) (pure (CallRule.ofOption ty name n))
      fun q o o' => Option.Rel (Agrees q n) o o' := by
  have hinner := denoteAll_singleton h
  have hoption {q : TypePool} {id : TypeId} {ty : Ty} (h : q.Denotes id ty) :
      Finds q (enter (.option id)) (.option ty) := finds_enter ⟨id, rfl, h⟩
  have href : Finds p (enter (.ref false inner)) (.ref false ty) := finds_enter ⟨inner, rfl, h⟩
  unfold ofOption CallRule.ofOption
  rw [hs, item_singleton, pure_bind]
  refine .ite (fun hn => tracks_rule (agrees_calling (hn.2 ▸ Nat.one_pos) hinner
    fun _ _ _ _ hid => hoption hid)) fun _ => ?_
  refine .ite (fun hn => tracks_rule (agrees_calling (hn.2 ▸ Nat.one_pos) hinner
    fun _ _ _ _ hid => finds_pure hid)) fun _ => ?_
  refine .ite (fun hn => ?_) fun _ => ?_
  · refine tracks_rule ⟨.cons asks_free (.cons (.result hinner) .nil), asks_free,
      fun q ids tys _ hlength hanswers => ?_⟩
    obtain ⟨id, ty, hitem, hty, hid⟩ := hanswers.head (by omega)
    simp only [hitem, hty]
    exact finds_pure hid
  refine .ite (fun hn => href.first fun q param hpq hparam => ?_) fun _ => ?_
  · exact tracks_rule (agrees_calling (hn.2 ▸ Nat.one_pos) (denoteAll_singleton hparam)
      fun _ _ _ hqr _ => finds_pure (hbase.mono (hpq.trans hqr)))
  refine .ite (fun hn => tracks_rule (agrees_calling (hn.2 ▸ Nat.one_pos) denoteAll_nil
    fun _ _ _ hpq _ => finds_pure (h.mono hpq))) fun _ => ?_
  refine .ite (fun _ => tracks_rule (agrees_hinted h (finds_pure h))) fun _ => ?_
  refine .ite (fun _ => tracks_rule (agrees_free h)) fun _ => ?_
  refine .ite (fun _ => tracks_rule (agrees_untyped (finds_pure hb.bool))) fun _ => ?_
  refine .ite (fun _ => ?_) fun _ => ?_
  · cases ty with
    | ref isMut ty =>
        refine tracks_rule (agrees_untyped (.look h fun s hshows _ => ?_))
        obtain ⟨i, rfl, hi⟩ := hshows
        exact hoption hi
    | _ =>
        refine tracks_rule (agrees_untyped (.look h fun s _ hkind => ?_))
        simp only [hkind, Ty.kind, reduceCtorEq, if_false]
        exact finds_none hb
  refine .ite (fun _ => tracks_rule (agrees_untyped (href.first fun _ _ _ hid => hoption hid)))
    fun _ => ?_
  exact .ite (fun _ => tracks_rule (agrees_hinted hbase (finds_pure hbase))) fun _ => tracks_noRule

theorem lastPart_eq {s : Shape} {is : List TypeId} {i : TypeId} (h : s.parts = is ++ [i]) :
    lastPart s = pure i :=
  item_eq (by simp [h])

theorem finds_callResult (hb : b.Stand p) {id : TypeId} {ty : Ty} (h : p.Denotes id ty) :
    Finds p (callResult b.unknown id) ty.callResult := by
  refine .look h fun s hshows hkind => ?_
  have hcallable {params : List Ty} {result : Ty}
      (h : p.Shows s (.function params result) ∨ p.Shows s (.closure params result)) :
      Finds p (lastPart s) result := by
    obtain ⟨is, i, hparts, -, hi⟩ := Shows.callable h
    rw [lastPart_eq hparts]
    exact finds_pure hi
  cases ty with
  | function =>
      rw [if_pos (.inl hkind)]
      exact hcallable (.inl hshows)
  | closure =>
      rw [if_pos (.inr hkind)]
      exact hcallable (.inr hshows)
  | _ =>
      simp only [hkind, Ty.kind, reduceCtorEq, or_self, if_false]
      exact finds_pure hb.unknown

theorem DenoteAll.asks {ids : List TypeId} {tys : List Ty} (h : p.DenoteAll ids tys) :
    List.Forall₂ (Asks p) (ids.map fun id => some (.type (some id)))
      (tys.map fun ty => some (.type ty)) := by
  rw [List.forall₂_map_left_iff, List.forall₂_map_right_iff]
  exact (denoteAll_iff.mp h).imp fun _ _ hid => .type (.type hid)

theorem tracks_ofCallee (hb : b.Stand p) {id : TypeId} {ty : Ty} (h : p.Denotes id ty) :
    Tracks p (ofCallee b id) (pure (CallRule.ofCallee ty)) fun q r r' => Agrees q n r r' := by
  refine .look h fun s hshows hkind => ?_
  have hcallable {params : List Ty} {result : Ty}
      (h : p.Shows s (.function params result) ∨ p.Shows s (.closure params result)) :
      Tracks p (pure ⟨s.parts.dropLast.map fun part => some (.type (some part)), some (.type none),
          fun _ => lastPart s⟩)
        (pure ⟨params.map fun ty => some (.type ty), some .nothing, fun _ => result⟩)
        fun q r r' => Agrees q n r r' := by
    obtain ⟨is, i, hparts, his, hi⟩ := Shows.callable h
    rw [lastPart_eq hparts, hparts, List.dropLast_concat]
    exact .pure fun _ hpq => ⟨DenoteAll.asks (his.mono hpq), asks_free,
      fun _ _ _ hqr _ _ => finds_pure (hi.mono (hpq.trans hqr))⟩
  cases ty with
  | function =>
      rw [if_pos (.inl hkind)]
      exact hcallable (.inl hshows)
  | closure =>
      rw [if_pos (.inr hkind)]
      exact hcallable (.inr hshows)
  | _ =>
      simp only [hkind, Ty.kind, reduceCtorEq, or_self, if_false]
      exact .pure fun _ hpq => agrees_free (hb.unknown.mono hpq)

theorem tracks_ofSequence (hb : b.Stand p) (name : String) {elem : TypeId} {ty : Ty} {s : Shape}
    (hs : s.parts = [elem]) (h : p.Denotes elem ty) :
    Tracks p (ofSequence b s name n) (pure (CallRule.ofSequence ty name n))
      fun q o o' => Option.Rel (Agrees q n) o o' := by
  have hoption {q : TypePool} {id : TypeId} {ty : Ty} (h : q.Denotes id ty) :
      Finds q (enter (.option id)) (.option ty) := finds_enter ⟨id, rfl, h⟩
  have href {q : TypePool} {id : TypeId} {ty : Ty} (h : q.Denotes id ty) :
      Finds q (enter (.ref false id)) (.ref false ty) := finds_enter ⟨id, rfl, h⟩
  have hshared : Finds p (enter (.ref false elem) >>= fun id => enter (.option id))
      (.option (.ref false ty)) := (href h).first fun _ _ _ hid => hoption hid
  unfold ofSequence CallRule.ofSequence
  rw [hs, item_singleton, pure_bind]
  refine .ite (fun _ => tracks_rule (agrees_untyped (finds_pure hb.usize))) fun _ => ?_
  refine .ite (fun _ => tracks_rule (agrees_free hb.bool)) fun _ => ?_
  refine .ite (fun hn => ?_) fun _ => ?_
  · refine tracks_rule ⟨.cons asks_free .nil, asks_free, fun q ids tys hpq hlength hanswers => ?_⟩
    obtain ⟨id, placeTy, hitem, hty, hid⟩ := hanswers.head (by omega)
    simp only [hitem, hty, pure_bind]
    refine .look hid fun place _ hkind => ?_
    cases placeTy with
    | range bound =>
        simp only [hkind, Ty.kind, if_true]
        have hslice : Finds q (enter (.slice elem)) (.slice ty) :=
          finds_enter ⟨elem, rfl, h.mono hpq⟩
        exact hslice.first fun _ _ _ hslice => (href hslice).first fun _ _ _ href => hoption href
    | _ =>
        simp only [hkind, Ty.kind, reduceCtorEq, if_false]
        exact hshared.grow hpq
  refine .ite (fun _ => tracks_rule (agrees_untyped hshared)) fun _ => ?_
  refine .ite (fun _ => tracks_rule (agrees_untyped (finds_enter ⟨elem, rfl, h⟩))) fun _ => ?_
  refine .ite (fun _ => tracks_rule (agrees_untyped (hoption h))) fun _ => ?_
  refine .ite (fun _ => tracks_rule (agrees_hinted h (finds_pure hb.unit))) fun _ => ?_
  refine .ite (fun _ => tracks_rule (agrees_untyped ((href h).first fun _ id _ hid => ?_)))
    fun _ => tracks_noRule
  exact finds_enter ⟨[id], rfl, denoteAll_singleton hid⟩

theorem rel_ofText (hb : b.Stand p) (name : String) :
    Option.Rel (Agrees p n) (ofText b name) (CallRule.ofText name) := by
  unfold ofText CallRule.ofText
  split_ifs
  · exact .some (agrees_untyped (finds_pure hb.usize))
  · exact .some (agrees_untyped (finds_pure hb.bool))
  · exact .some (agrees_untyped (finds_pure hb.string))
  · exact .some (agrees_untyped (finds_pure hb.strRef))
  · exact .none

theorem rel_ofScalar (name : String) {base : TypeId} {s : Scalar} (h : p.Denotes base (.scalar s)) :
    Option.Rel (Agrees p n) (ofScalar base name) (CallRule.ofScalar s name) := by
  unfold ofScalar CallRule.ofScalar
  split_ifs
  · exact .some (agrees_hinted h (finds_pure h))
  · exact .some (agrees_hinted h (finds_enter ⟨base, rfl, h⟩))
  · exact .none

def typeRule? (ty : Ty) (name : String) (arity : Nat) : Option CallRule :=
  match ty with
  | .option t => CallRule.ofOption t name arity
  | .vec t | .slice t | .array t => CallRule.ofSequence t name arity
  | .string | .str => CallRule.ofText name
  | .scalar s => CallRule.ofScalar s name
  | _ => none

theorem ofMethod_eq (ty : Ty) (name : String) (arity : Nat) : CallRule.ofMethod ty name arity =
    if name = "clone" ∧ arity = 0 then .free ty
    else if name = "to_string" ∧ arity = 0 then .free .string
    else (typeRule? ty name arity).getD (.free .unknown) :=
  rfl

theorem tracks_ofKind? (hb : b.Stand p) (name : String) {base : TypeId} {ty : Ty} {s : Shape}
    (h : p.Denotes base ty) (hshows : p.Shows s ty) :
    Tracks p (ofKind? b base s name n) (pure (typeRule? ty name n)) fun q o o' =>
      Option.Rel (Agrees q n) o o' := by
  have hkind := hshows.kind
  cases ty with
  | option t =>
      obtain ⟨i, rfl, hi⟩ := hshows
      exact tracks_ofOption hb name h rfl hi
  | vec t | slice t | array t =>
      obtain ⟨i, rfl, hi⟩ := hshows
      exact tracks_ofSequence hb name rfl hi
  | string | str =>
      obtain rfl := hshows
      exact .pure fun q hpq => rel_ofText (hb.mono hpq) name
  | scalar a =>
      obtain rfl := hshows
      exact .pure fun q hpq => rel_ofScalar name (h.mono hpq)
  | _ =>
      simp only [ofKind?, hkind, Ty.kind, reduceCtorEq, or_self, if_false]
      exact tracks_noRule

theorem tracks_ofMethod (hb : b.Stand p) (name : String) {base : TypeId} {ty : Ty}
    (h : p.Denotes base ty) :
    Tracks p (ofMethod b base name n) (pure (CallRule.ofMethod ty name n))
      fun q r r' => Agrees q n r r' := by
  rw [ofMethod_eq]
  refine .look h fun s hshows _ => .ite (fun _ => ?_) fun _ => .ite (fun _ => ?_) fun _ => ?_
  · exact .pure fun _ hpq => agrees_free (h.mono hpq)
  · exact .pure fun _ hpq => agrees_free (hb.string.mono hpq)
  · refine (tracks_ofKind? hb name h hshows).first fun q rule? hpq hrule => .pure fun r hqr => ?_
    generalize typeRule? ty name n = rule' at hrule
    cases hrule with
    | some hrule => exact hrule.mono hqr
    | none =>
        have hunknown := hb.unknown.mono (hpq.trans hqr)
        exact ⟨.nil, .nothing, fun _ _ _ hrr' _ _ => finds_pure (hunknown.mono hrr')⟩

theorem tracks_elemAsks (n : Nat) {hint : Option TypeId} {x : Expected} (h : Hinted p hint x) :
    Tracks p (elemAsks hint n) (pure (Infer.elemHints x n)) fun q asks xs =>
      List.Forall₂ (Asks q) asks xs ∧ ∀ ask ∈ asks, ∃ hint, ask = some (.type hint) := by
  have hnone : Tracks p (pure []) (pure []) fun q (asks : List (Option Ask)) xs =>
      List.Forall₂ (Asks q) asks xs ∧ ∀ ask ∈ asks, ∃ hint, ask = some (.type hint) :=
    .pure fun _ _ => ⟨.nil, List.forall_mem_nil _⟩
  cases h with
  | nothing => exact hnone
  | @type id ty h =>
      cases ty with
      | tuple tys =>
          refine .look h fun s hshows hkind => ?_
          simp only [hkind, Ty.kind, true_and, hshows.elems.length, Infer.elemHints, Expected.type?]
          refine .ite (fun _ => .pure fun q hpq => ⟨DenoteAll.asks (hshows.elems.mono hpq), ?_⟩)
            fun _ => hnone
          exact List.forall_mem_map.mpr fun part _ => ⟨some part, rfl⟩
      | _ =>
          refine .look h fun s _ hkind => ?_
          simp only [hkind, Ty.kind, reduceCtorEq, false_and, if_false]
          exact hnone

end

end

end Pooled

end ChainLint
