import ChainLint.Proofs.Ty.Finding
import ChainLint.Tree.Preorder

namespace ChainLint

namespace Tree

mutual

def TypeExpr.parts : TypeExpr → List TypeExpr
  | .mk name args span => .mk name args span :: typeParts args

def typeParts : List TypeExpr → List TypeExpr
  | [] => []
  | t :: ts => t.parts ++ typeParts ts

end

def TypeExpr.IsNamesake : TypeExpr → Prop
  | .mk name args _ => isIntegerName name = true ∧ args ≠ []

def Node.writtenTypes : Node → List TypeExpr
  | .function f => f.result.toList
  | .param p => p.declared.toList
  | .stmt (.letIn _ _ declared _) => declared.toList
  | _ => []

def Node.typeParts (n : Node) : List TypeExpr :=
  n.preorder.flatMap fun v => v.writtenTypes.flatMap TypeExpr.parts

end Tree

namespace Ty

mutual

def NamesakesIn (W : Ty → Prop) : Ty → Prop
  | .scalar _ | .unit | .str | .string | .unknown => True
  | .ref _ t | .option t | .vec t | .slice t | .array t | .range t => NamesakesIn W t
  | .tuple ts => AllNamesakesIn W ts
  | .function ts t | .closure ts t => AllNamesakesIn W ts ∧ NamesakesIn W t
  | .adt name ts => (isIntegerName name = true → W (.adt name ts)) ∧ AllNamesakesIn W ts

def AllNamesakesIn (W : Ty → Prop) : List Ty → Prop
  | [] => True
  | t :: ts => NamesakesIn W t ∧ AllNamesakesIn W ts

end

section

variable {W : Ty → Prop}

theorem allNamesakesIn_iff {ts : List Ty} : AllNamesakesIn W ts ↔ ∀ t ∈ ts, t.NamesakesIn W := by
  induction ts with
  | nil => simp [AllNamesakesIn]
  | cons t ts ih => simp [AllNamesakesIn, ih]

theorem namesakesIn_ofElems {ts : List Ty} (h : AllNamesakesIn W ts) :
    (ofElems ts).NamesakesIn W := by
  cases ts with
  | nil => trivial
  | cons t ts => exact h

theorem NamesakesIn.ite {c : Prop} [Decidable c] {t u : Ty} (ht : t.NamesakesIn W)
    (hu : u.NamesakesIn W) : (if c then t else u).NamesakesIn W := by
  split
  · exact ht
  · exact hu

theorem namesakesIn_ofHead {name : String} {ts : List Ty} (hts : AllNamesakesIn W ts)
    (h : isIntegerName name = true → ts ≠ [] → W (.adt name ts)) :
    (ofHead name ts).NamesakesIn W := by
  cases ts with
  | nil =>
      unfold ofHead
      cases hname : Scalar.ofName? name with
      | some s => trivial
      | none =>
          have hadt : (Ty.adt name []).NamesakesIn W := by
            refine ⟨fun hinteger => ?_, trivial⟩
            rw [isIntegerName, hname] at hinteger
            cases hinteger
          exact .ite trivial (.ite trivial (.ite trivial hadt))
  | cons t ts =>
      have hadt : (Ty.adt name (t :: ts)).NamesakesIn W :=
        ⟨fun hname => h hname (List.cons_ne_nil t ts), hts⟩
      have ht : t.NamesakesIn W := hts.1
      rw [Pooled.ofHead_cons]
      refine .ite hts (.ite trivial (.ite trivial ?_))
      cases ts with
      | nil => exact .ite ht (.ite ht (.ite ht (.ite ht (.ite ht hadt))))
      | cons u us => exact hadt

theorem ofExpr_of_isNamesake {name : String} {args : List Tree.TypeExpr} {span : Span}
    (h : (Tree.TypeExpr.mk name args span).IsNamesake) :
    ofExpr (.mk name args span) = .adt name (ofExprs args) := by
  obtain ⟨hname, hargs⟩ := h
  have hne (s : String) (hs : isIntegerName s = false) : name ≠ s := by
    rintro rfl
    rw [hs] at hname
    cases hname
  cases args with
  | nil => exact absurd rfl hargs
  | cons t ts =>
      change ofHead name (ofExpr t :: ofExprs ts) = .adt name (ofExpr t :: ofExprs ts)
      rw [Pooled.ofHead_cons, if_neg (hne "()" (by decide)), if_neg (hne "str" (by decide)),
        if_neg (hne "String" (by decide))]
      cases ofExprs ts with
      | nil =>
          simp only [hne "&" (by decide), hne "&mut" (by decide), hne "[]" (by decide),
            hne "Option" (by decide), hne "Vec" (by decide), if_false]
      | cons u us => rfl

mutual

theorem namesakesIn_ofExpr : (t : Tree.TypeExpr) →
    (∀ u ∈ t.parts, u.IsNamesake → W (ofExpr u)) → (ofExpr t).NamesakesIn W
  | .mk name args span, h => by
      obtain ⟨hself, hargs⟩ := List.forall_mem_cons.mp h
      refine namesakesIn_ofHead (allNamesakesIn_ofExprs args hargs) fun hname hne => ?_
      have hnamesake : (Tree.TypeExpr.mk name args span).IsNamesake := by
        refine ⟨hname, ?_⟩
        rintro rfl
        exact hne rfl
      exact ofExpr_of_isNamesake hnamesake ▸ hself hnamesake

theorem allNamesakesIn_ofExprs : (ts : List Tree.TypeExpr) →
    (∀ u ∈ Tree.typeParts ts, u.IsNamesake → W (ofExpr u)) → AllNamesakesIn W (ofExprs ts)
  | [], _ => trivial
  | t :: ts, h => by
      obtain ⟨ht, hts⟩ := List.forall_mem_append.mp h
      exact ⟨namesakesIn_ofExpr t ht, allNamesakesIn_ofExprs ts hts⟩

end

theorem NamesakesIn.peel {t : Ty} (h : t.NamesakesIn W) : t.peel.NamesakesIn W := by
  induction t using Ty.peel.induct with
  | case1 isMut t ih => exact ih h
  | case2 t hne =>
      cases t with
      | ref isMut u => exact absurd rfl (hne isMut u)
      | _ => exact h

theorem NamesakesIn.elem? {t u : Ty} (h : t.NamesakesIn W) (hu : t.elem? = some u) :
    u.NamesakesIn W := by
  cases t <;> simp only [Ty.elem?, reduceCtorEq, Option.some.injEq] at hu <;> exact hu ▸ h

theorem NamesakesIn.callResult {t : Ty} (h : t.NamesakesIn W) : t.callResult.NamesakesIn W := by
  cases t with
  | function ts t | closure ts t => exact h.2
  | _ => trivial

theorem namesakesIn_headD {ts : List Ty} (h : ∀ t ∈ ts, t.NamesakesIn W) {u : Ty}
    (hu : u.NamesakesIn W) : (ts.headD u).NamesakesIn W := by
  cases ts with
  | nil => exact hu
  | cons t ts => exact h t List.mem_cons_self

theorem NamesakesIn.integer {t : Ty} (h : t.NamesakesIn W) (ht : isIntegerName t.name = true) :
    (∃ s : Scalar, s.isInteger = true ∧ t = .scalar s) ∨
      ∃ name ts, t = .adt name ts ∧ W (.adt name ts) := by
  cases t with
  | scalar s =>
      refine .inl ⟨s, ?_, rfl⟩
      simpa [isIntegerName, Ty.name] using ht
  | adt name ts => exact .inr ⟨name, ts, rfl, h.1 ht⟩
  | ref isMut t =>
      change isIntegerName (if isMut then "&mut" else "&") = true at ht
      cases isMut <;> exact absurd ht (by decide)
  | _ =>
      refine absurd ht ?_
      simp only [Ty.name]
      decide

end

end Ty

section

variable {W : Ty → Prop}

def Expected.NamesakesIn (W : Ty → Prop) : Expected → Prop
  | .nothing => True
  | .type t => t.NamesakesIn W
  | .callable ts => ∀ t ∈ ts, t.NamesakesIn W

namespace Expected

theorem NamesakesIn.nothing : Expected.NamesakesIn W .nothing := trivial

theorem NamesakesIn.type? {x : Expected} (h : x.NamesakesIn W) {t : Ty} (ht : x.type? = some t) :
    t.NamesakesIn W := by
  cases x with
  | type u =>
      cases ht
      exact h
  | _ => cases ht

theorem NamesakesIn.params {x : Expected} (h : x.NamesakesIn W) : ∀ t ∈ x.params, t.NamesakesIn W := by
  cases x with
  | callable ts => exact h
  | _ => exact List.forall_mem_nil _

theorem NamesakesIn.forValue {x : Expected} (h : x.NamesakesIn W) : x.forValue.NamesakesIn W := by
  cases x with
  | type t => exact h
  | _ => trivial

end Expected

namespace CallRule

structure NamesakesIn (W : Ty → Prop) (r : CallRule) : Prop where
  first : ∀ x, some x ∈ r.first → x.NamesakesIn W
  others : ∀ x, r.others = some x → x.NamesakesIn W
  result : ∀ tys, (∀ t ∈ tys, t.NamesakesIn W) → (r.result tys).NamesakesIn W

theorem namesakesIn_free {ty : Ty} (h : ty.NamesakesIn W) : (free ty).NamesakesIn W := by
  refine ⟨nofun, fun x hx => ?_, fun _ _ => h⟩
  cases hx
  trivial

theorem namesakesIn_untyped {ty : Ty} (h : ty.NamesakesIn W) : (untyped ty).NamesakesIn W :=
  ⟨nofun, nofun, fun _ _ => h⟩

theorem namesakesIn_first {x : Expected} {f : List Ty → Ty} (hx : x.NamesakesIn W)
    (hf : ∀ tys, (∀ t ∈ tys, t.NamesakesIn W) → (f tys).NamesakesIn W) :
    NamesakesIn W ⟨[some x], some .nothing, f⟩ := by
  refine ⟨fun y hy => ?_, fun y hy => ?_, hf⟩
  · cases List.mem_singleton.mp hy
    exact hx
  · cases hy
    trivial

theorem namesakesIn_hinted {hint ty : Ty} (hhint : hint.NamesakesIn W) (h : ty.NamesakesIn W) :
    (hinted hint ty).NamesakesIn W :=
  namesakesIn_first hhint fun _ _ => h

theorem namesakesIn_calling {ps : List Ty} {f : Ty → Ty} (hps : ∀ t ∈ ps, t.NamesakesIn W)
    (hf : ∀ t, t.NamesakesIn W → (f t).NamesakesIn W) : (calling ps f).NamesakesIn W := by
  refine namesakesIn_first hps fun tys htys => ?_
  have hhead : (tys.headD .unknown).NamesakesIn W := Ty.namesakesIn_headD htys trivial
  exact hf _ hhead.callResult

theorem namesakesIn_macroResult (name : String) {tys : List Ty} (h : ∀ t ∈ tys, t.NamesakesIn W) :
    (macroResult name tys).NamesakesIn W := by
  unfold macroResult
  split
  · exact Ty.namesakesIn_headD h trivial
  · split
    · trivial
    · split <;> trivial

theorem namesakesIn_ofCallee {t : Ty} (h : t.NamesakesIn W) : (ofCallee t).NamesakesIn W := by
  cases t with
  | function ps r | closure ps r =>
      refine ⟨fun x hx => ?_, fun x hx => ?_, fun _ _ => h.2⟩
      · obtain ⟨t, ht, hx⟩ := List.mem_map.mp hx
        cases hx
        exact Ty.allNamesakesIn_iff.mp h.1 t ht
      · cases hx
        trivial
  | _ => exact namesakesIn_free trivial

theorem namesakesIn_headD {tys : List Ty} (h : ∀ t ∈ tys, t.NamesakesIn W) :
    (tys.headD .unknown).NamesakesIn W :=
  Ty.namesakesIn_headD h trivial

def IfAny (W : Ty → Prop) (o : Option CallRule) : Prop := ∀ r, o = some r → r.NamesakesIn W

theorem IfAny.none : IfAny W none := nofun

theorem IfAny.some {r : CallRule} (h : r.NamesakesIn W) : IfAny W (some r) := by
  intro r' hr
  cases hr
  exact h

theorem IfAny.ite {c : Prop} [Decidable c] {o o' : Option CallRule} (h : IfAny W o)
    (h' : IfAny W o') : IfAny W (if c then o else o') := by
  split
  · exact h
  · exact h'

theorem IfAny.getD {o : Option CallRule} (h : IfAny W o) :
    (o.getD (free .unknown)).NamesakesIn W := by
  cases o with
  | none => exact namesakesIn_free trivial
  | some r => exact h r rfl

theorem ifAny_ofPath? {x : Expected} (hx : x.NamesakesIn W) (name : String) (arity : Nat) :
    IfAny W (ofPath? name arity x) := by
  refine .ite (.some (namesakesIn_first ?_ fun _ htys => namesakesIn_headD htys))
    (.ite (.some (namesakesIn_free trivial)) (.ite ?_ .none))
  · split
    · next t ht =>
        have h := hx.type? ht
        exact h
    · trivial
  · split
    · next t ht =>
        have h := hx.type? ht
        exact .some (namesakesIn_untyped h)
    · exact .some (namesakesIn_untyped trivial)

theorem ifAny_ofOption {inner : Ty} (h : inner.NamesakesIn W) (name : String) (arity : Nat) :
    IfAny W (ofOption inner name arity) := by
  have hinner : ∀ t ∈ [inner], t.NamesakesIn W := List.forall_mem_singleton.mpr h
  have href : ∀ t ∈ [Ty.ref false inner], t.NamesakesIn W := List.forall_mem_singleton.mpr h
  refine .ite (.some (namesakesIn_calling hinner fun _ ht => ht)) ?_
  refine .ite (.some (namesakesIn_calling hinner fun _ ht => ht)) ?_
  refine .ite (.some ⟨fun x hx => ?_, fun x hx => ?_, fun _ htys => namesakesIn_headD htys⟩) ?_
  · rcases List.mem_cons.mp hx with hx | hx
    · cases hx
      trivial
    · cases List.mem_singleton.mp hx
      exact hinner
  · cases hx
    trivial
  refine .ite (.some (namesakesIn_calling href fun _ _ => h)) ?_
  refine .ite (.some (namesakesIn_calling (List.forall_mem_nil _) fun _ _ => h)) ?_
  refine .ite (.some (namesakesIn_hinted h h)) ?_
  refine .ite (.some (namesakesIn_free h)) ?_
  refine .ite (.some (namesakesIn_untyped trivial)) ?_
  refine .ite ?_ ?_
  · split
    · exact .some (namesakesIn_untyped h)
    · exact .some (namesakesIn_untyped trivial)
  · exact .ite (.some (namesakesIn_untyped h)) (.ite (.some (namesakesIn_hinted h h)) .none)

theorem ifAny_ofSequence {elem : Ty} (h : elem.NamesakesIn W) (name : String) (arity : Nat) :
    IfAny W (ofSequence elem name arity) := by
  have hiter : (Ty.adt "Iter" [.ref false elem]).NamesakesIn W :=
    ⟨fun hname => absurd hname (by decide), h, trivial⟩
  refine .ite (.some (namesakesIn_untyped trivial)) ?_
  refine .ite (.some (namesakesIn_free trivial)) ?_
  refine .ite (.some (namesakesIn_first trivial fun tys _ => ?_)) ?_
  · change Ty.NamesakesIn W (if (tys.headD .unknown).isRange then .slice elem else elem)
    split
    · exact h
    · exact h
  refine .ite (.some (namesakesIn_untyped h)) (.ite (.some (namesakesIn_untyped h)) ?_)
  refine .ite (.some (namesakesIn_untyped h)) (.ite (.some (namesakesIn_hinted h trivial)) ?_)
  exact .ite (.some (namesakesIn_untyped hiter)) .none

theorem ifAny_ofText (name : String) : IfAny W (ofText name) := by
  refine .ite (.some (namesakesIn_untyped trivial)) (.ite (.some (namesakesIn_untyped trivial)) ?_)
  exact .ite (.some (namesakesIn_untyped trivial)) (.ite (.some (namesakesIn_untyped trivial)) .none)

theorem ifAny_ofScalar (s : Scalar) (name : String) : IfAny W (ofScalar s name) :=
  .ite (.some (namesakesIn_hinted trivial trivial))
    (.ite (.some (namesakesIn_hinted trivial trivial)) .none)

theorem namesakesIn_ofMethod {base : Ty} (h : base.NamesakesIn W) (name : String) (arity : Nat) :
    (ofMethod base name arity).NamesakesIn W := by
  unfold ofMethod
  split
  · exact namesakesIn_free h
  · split
    · exact namesakesIn_free trivial
    · apply IfAny.getD
      cases base with
      | option t =>
          have ht : t.NamesakesIn W := h
          exact ifAny_ofOption ht name arity
      | vec t | slice t | array t =>
          have ht : t.NamesakesIn W := h
          exact ifAny_ofSequence ht name arity
      | string | str => exact ifAny_ofText name
      | scalar s => exact ifAny_ofScalar s name
      | _ => exact .none

end CallRule

namespace Infer

theorem namesakesIn_partTypes {ty : Ty} (h : ty.NamesakesIn W) (n : Nat) :
    ∀ t ∈ partTypes ty n, t.NamesakesIn W := by
  have hunknown : ∀ t ∈ List.replicate n Ty.unknown, t.NamesakesIn W := by
    intro t ht
    cases List.eq_of_mem_replicate ht
    trivial
  unfold partTypes
  split
  · split
    · exact Ty.allNamesakesIn_iff.mp h
    · exact hunknown
  · exact hunknown

theorem namesakesIn_elemHints {x : Expected} (h : x.NamesakesIn W) (n : Nat) :
    ∀ y, some y ∈ elemHints x n → y.NamesakesIn W := by
  intro y hy
  unfold elemHints at hy
  split at hy
  · next ts hts =>
      split at hy
      · obtain ⟨t, ht, heq⟩ := List.mem_map.mp hy
        cases heq
        exact Ty.allNamesakesIn_iff.mp (h.type? hts) t ht
      · cases hy
  · cases hy

theorem ifAny_pathRule? {x : Expected} (hx : x.NamesakesIn W) (callee : Tree.Expr) (arity : Nat) :
    CallRule.IfAny W (pathRule? callee arity x) := by
  unfold pathRule?
  split
  · exact CallRule.ifAny_ofPath? hx _ arity
  · exact .none

theorem namesakesIn_floatType (suffix : Option String) : (floatType suffix).NamesakesIn W := by
  unfold floatType
  split <;> trivial

theorem namesakesIn_fieldType {ty : Ty} (h : ty.NamesakesIn W) (name : String) :
    (fieldType ty name).NamesakesIn W := by
  unfold fieldType
  split
  · next ts =>
      split
      · next i _ =>
          cases hi : ts[i]? with
          | none => trivial
          | some t => exact Ty.allNamesakesIn_iff.mp h t (List.mem_of_getElem? hi)
      · trivial
  · trivial

theorem namesakesIn_indexType {ty : Ty} (h : ty.NamesakesIn W) (position : Ty) :
    (indexType ty position).NamesakesIn W := by
  unfold indexType
  split
  · trivial
  · next t ht =>
      have := h.elem? ht
      split <;> exact this

theorem namesakesIn_unaryType {ty : Ty} (h : ty.NamesakesIn W) (op : UnaryOp) :
    (unaryType op ty).NamesakesIn W := by
  unfold unaryType
  split <;> first | exact h | trivial

theorem namesakesIn_iteratedType {ty : Ty} (h : ty.NamesakesIn W) :
    (iteratedType ty).NamesakesIn W := by
  cases ty with
  | range t | vec t | array t => exact h
  | ref isMut t =>
      have ht : t.NamesakesIn W := h
      rw [iteratedType]
      split
      · next u hu =>
          have helem := ht.peel.elem? hu
          exact helem
      · trivial
  | _ => trivial

theorem intType_of_expected {x : Expected} (h : x.NamesakesIn W) :
    (∃ s : Scalar, s.isInteger = true ∧ intType none x = .scalar s) ∨
      ∃ name ts, intType none x = .adt name ts ∧ W (.adt name ts) := by
  have hdefault : ∃ s : Scalar, s.isInteger = true ∧ Ty.scalar .i32 = .scalar s := ⟨.i32, rfl, rfl⟩
  rw [intType, Option.bind_none]
  cases ht : x.type? with
  | none => exact .inl hdefault
  | some t =>
      dsimp only
      split
      · next hname => exact (h.type? ht).integer hname
      · exact .inl hdefault

theorem namesakesIn_intType {x : Expected} (h : x.NamesakesIn W) (suffix : Option String) :
    (intType suffix x).NamesakesIn W := by
  unfold intType
  split
  · trivial
  · split
    · next t ht =>
        split
        · exact h.type? ht
        · trivial
    · trivial

end Infer

end

end ChainLint
