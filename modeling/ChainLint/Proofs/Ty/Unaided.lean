import ChainLint.Proofs.Tree.Restoring
import ChainLint.Proofs.Ty.Entries

namespace ChainLint

open Tree

namespace Typing

def found (τ : Typing) (e : Expr) : Ty := (τ.exprType? e.info.id).getD .unknown

mutual

/-- The type of an expression of which nothing is expected, with what was found of its parts where
something was. All other forms have the type that was found of them. -/
def unaided (τ : Typing) : Expr → Ty
  | .int _ _ suffix => Infer.intType suffix .nothing
  | .var i name binding =>
      if binding = none ∧ name = "None" then .option .unknown else τ.found (.var i name binding)
  | .call i callee args =>
      match Infer.pathRule? callee args.length .nothing with
      | some rule => rule.result (unaidedAll τ args)
      | none => τ.found (.call i callee args)
  | .tuple _ elems => .ofElems (unaidedAll τ elems)
  | .block _ body => unaidedBlock τ body
  | .cond _ _ yes no => if no.isSome then unaidedBlock τ yes else .unit
  | e => τ.found e

def unaidedAll (τ : Typing) : List Expr → List Ty
  | [] => []
  | e :: es => unaided τ e :: unaidedAll τ es

def unaidedBlock (τ : Typing) : Block → Ty
  | .mk _ _ none => .unit
  | .mk _ _ (some tail) => unaided τ tail

end

theorem isSome_of_found {τ : Typing} {e : Expr} {t : Ty} (h : τ.found e = .option t) :
    (τ.exprType? e.info.id).isSome := by
  rw [found] at h
  cases htype : τ.exprType? e.info.id with
  | none =>
      rw [htype] at h
      cases h
  | some _ => rfl

end Typing

namespace Infer

structure Shares (P : NodeId → Prop) (t t' : Typing) : Prop where
  bindings : ∀ i, P i → t'.bindingType? i = t.bindingType? i
  functions : t'.functions = t.functions

section

variable {P : NodeId → Prop} {α β : Type}

def sharing (P : NodeId → Prop) : Lockstep id id (fun _ => True) P (fun _ => True) where
  rel a b := ∀ t t', Shares P t t' →
    (b.run t').1 = (a.run t).1 ∧ Shares P (a.run t).2 (b.run t').2
  pure _ := fun _ _ h => ⟨rfl, h⟩
  bind := agree_bind
  setExpr _ _ _ := fun _ _ h => ⟨rfl, h.bindings, h.functions⟩
  setBinding _ ty _ := fun _ _ h =>
    ⟨rfl, fun i hi => lookup_cons_image Function.injective_id (h.bindings i hi) ty, h.functions⟩
  lookup name binding expected huse := by
    refine fun t t' h => ⟨?_, h⟩
    change varType t' name (binding.map id) expected = varType t name binding expected
    cases binding with
    | none => simp only [varType, Option.map_none, Typing.functionType?, h.functions]
    | some b => simp only [varType, Option.map_some, id_eq, h.bindings b huse]
  longField _ := fun _ _ h => ⟨rfl, h.bindings, h.functions⟩

theorem extends_setExpr (t : Typing) (i : NodeId) (ty : Ty) : Extends t (t.setExpr i ty) :=
  ⟨List.subset_cons_self _ _, List.Subset.refl _, rfl⟩

def growing : Lockstep id id (fun _ => True) (fun _ => True) (fun _ => True) where
  rel a _ := ∀ t, Extends t (a.run t).2
  pure _ := Extends.refl
  bind {_ _ a _ _ _} h huv t := (h t).trans (huv (a.run t).1 (a.run t).2)
  setExpr i ty _ t := extends_setExpr t i ty
  setBinding _ _ _ _ := ⟨List.Subset.refl _, List.subset_cons_self _ _, rfl⟩
  lookup _ _ _ _ := Extends.refl
  longField _ _ := ⟨List.Subset.refl _, List.Subset.refl _, rfl⟩

def Agrees (P : NodeId → Prop) (a : Infer α) : Prop := ∀ t t', Shares P t t' →
  (a.run t').1 = (a.run t).1 ∧ Shares P (a.run t).2 (a.run t').2

abbrev Uses (P : NodeId → Prop) (n : Node) : Prop := n.Asks (fun _ => True) P fun _ => True

theorem agrees_expr (e : Expr) (h : Uses P (.expr e)) (x : Expected) : Agrees P (expr e x) := by
  have hagree := relates_expr (sharing P) e h x
  rwa [e.relabel_self] at hagree

theorem agrees_exprs (es : List Expr) (h : ∀ c ∈ es.map Node.expr, Uses P c)
    (first : List (Option Expected)) (others : Option Expected) :
    Agrees P (exprs es first others) := by
  have hagree := relates_exprs (sharing P) es h first others
  rwa [relabelExprs_self] at hagree

theorem agrees_stmts (ss : List Stmt) (h : ∀ c ∈ ss.map Node.stmt, Uses P c) :
    Agrees P (stmts ss) := by
  have hagree := relates_stmts (sharing P) ss h
  rwa [relabelStmts_self] at hagree

theorem extends_expr (e : Expr) (x : Expected) (t : Typing) : Extends t ((expr e x).run t).2 :=
  relates_expr growing e .all x t

theorem extends_record (e : Expr) (ty : Ty) (t : Typing) : Extends t ((record e ty).run t).2 :=
  extends_setExpr t e.info.id ty

theorem extends_exprs (es : List Expr) (first : List (Option Expected)) (others : Option Expected)
    (t : Typing) : Extends t ((exprs es first others).run t).2 :=
  relates_exprs growing es (fun _ _ => .all) first others t

theorem extends_otherwise (o : Option Expr) (ty : Ty) (t : Typing) :
    Extends t ((otherwise o ty).run t).2 :=
  relates_otherwise growing o (fun _ _ => .all) ty t

theorem noted_expr (e : Expr) (x : Expected) (t : Typing) :
    (e.info.id, ((expr e x).run t).1) ∈ ((expr e x).run t).2.exprs := by
  cases e with
  | call i callee args =>
      rw [expr]
      split <;> exact List.mem_cons_self
  | _ => exact List.mem_cons_self

def Valued (first : List (Option Expected)) : Prop := ∀ o ∈ first, ∃ x, o = some x ∧ x.params = []

theorem Valued.head {first : List (Option Expected)} (h : Valued first) :
    ∃ x, first.headD (some .nothing) = some x ∧ x.params = [] := by
  cases first with
  | nil => exact ⟨.nothing, rfl, rfl⟩
  | cons o os => exact h o List.mem_cons_self

theorem Valued.tail {first : List (Option Expected)} (h : Valued first) : Valued first.tail :=
  fun o ho => h o (List.mem_of_mem_tail ho)

theorem valued_elemHints (x : Expected) (n : Nat) : Valued (elemHints x n) := by
  unfold elemHints
  split
  · split
    · intro o ho
      obtain ⟨t, -, rfl⟩ := List.mem_map.mp ho
      exact ⟨_, rfl, rfl⟩
    · exact fun _ ho => absurd ho List.not_mem_nil
  · exact fun _ ho => absurd ho List.not_mem_nil

theorem pathRule?_cases (callee : Expr) (n : Nat) : (∀ x, pathRule? callee n x = none) ∨
    (∃ result, ∀ x, ∃ first, pathRule? callee n x = some ⟨first, some .nothing, result⟩ ∧
      Valued first ∧ (x = .nothing → ∀ o ∈ first, o = some .nothing)) ∨
    ∀ x, ∃ ty, pathRule? callee n x = some (.untyped ty) := by
  cases callee with
  | var i name binding =>
      cases binding with
      | some b => exact .inl fun _ => rfl
      | none =>
          simp only [pathRule?, CallRule.ofPath?]
          by_cases hsome : name = "Some" ∧ n = 1
          · simp only [if_pos hsome]
            refine .inr (.inl ⟨_, fun x => ⟨_, rfl, ?_, ?_⟩⟩)
            · rw [Valued, List.forall_mem_singleton]
              split <;> exact ⟨_, rfl, rfl⟩
            · rintro rfl
              exact List.forall_mem_singleton.mpr rfl
          · simp only [if_neg hsome]
            by_cases hstring : name = "String::new" ∨ name = "String::from"
            · simp only [if_pos hstring]
              have hnone {Q : Option Expected → Prop} : ∀ o ∈ [], Q o :=
                fun _ ho => absurd ho List.not_mem_nil
              exact .inr (.inl ⟨_, fun x => ⟨[], rfl, hnone, fun _ => hnone⟩⟩)
            · simp only [if_neg hstring]
              by_cases hvec : name = "Vec::new"
              · simp only [if_pos hvec]
                refine .inr (.inr fun x => ?_)
                split <;> exact ⟨_, rfl⟩
              · simp only [if_neg hvec]
                exact .inl fun _ => trivial
  | _ => exact .inl fun _ => rfl

def heeds : Expr → Bool
  | .var _ name binding => binding.isNone && name = "None"
  | .int .. | .call .. | .tuple .. | .block .. | .cond .. => true
  | _ => false

theorem expr_of_heedless {e : Expr} (h : heeds e = false) {x : Expected} (hx : x.params = []) :
    expr e x = expr e .nothing := by
  cases e with
  | var i name binding =>
      cases binding with
      | some b => rfl
      | none =>
          have hname : name ≠ "None" := by simpa [heeds] using h
          simp only [expr, varType, if_neg hname]
  | closure => rw [expr, expr, hx]; rfl
  | int | call | tuple | block | cond => cases h
  | _ => rfl

theorem unaided_of_heedless {e : Expr} (h : heeds e = false) (τ : Typing) : τ.unaided e = τ.found e := by
  cases e with
  | var i name binding =>
      have hname : ¬ (binding = none ∧ name = "None") := by
        simpa [heeds, Option.isNone_iff_eq_none] using h
      rw [Typing.unaided, if_neg hname]
  | int | call | tuple | block | cond => cases h
  | _ => rfl

def Abreast (P : NodeId → Prop) (a b : Infer α) : Prop :=
  ∀ t t', Shares P t t' → Shares P (a.run t).2 (b.run t').2

theorem Agrees.abreast {a : Infer α} (h : Agrees P a) : Abreast P a a := fun t t' ht => (h t t' ht).2

theorem Abreast.pure (x y : α) : Abreast P (pure x) (pure y) := fun _ _ h => h

theorem Abreast.bind {a b : Infer α} {u v : α → Infer β} (h : Abreast P a b)
    (huv : ∀ x y, Abreast P (u x) (v y)) : Abreast P (a >>= u) (b >>= v) :=
  fun t t' ht => huv _ _ _ _ (h t t' ht)

theorem abreast_record (e : Expr) (ty ty' : Ty) : Abreast P (record e ty) (record e ty') :=
  fun _ _ h => ⟨h.bindings, h.functions⟩

theorem abreast_of_heedless {e : Expr} (he : heeds e = false) (h : Uses P (.expr e)) {x y : Expected}
    (hx : x.params = []) (hy : y.params = []) : Abreast P (expr e x) (expr e y) := by
  rw [expr_of_heedless he hx, expr_of_heedless he hy]
  exact (agrees_expr e h .nothing).abreast

theorem params_forValue (x : Expected) : x.forValue.params = [] := by cases x <;> rfl

mutual

theorem abreast_expr (e : Expr) (h : Uses P (.expr e)) {x y : Expected} (hx : x.params = [])
    (hy : y.params = []) : Abreast P (expr e x) (expr e y) := by
  cases e with
  | int => exact abreast_record _ _ _
  | var => exact fun _ _ ht => ⟨ht.bindings, ht.functions⟩
  | call i callee args =>
      obtain ⟨-, hargs⟩ := List.forall_mem_cons.mp h.children
      rcases pathRule?_cases callee args.length with hnone | ⟨result, hrule⟩ | huntyped
      · have hexpr (x : Expected) :
            expr (.call i callee args) x = expr (.call i callee args) .nothing := by
          simp only [expr, hnone]
        rw [hexpr x, hexpr y]
        exact (agrees_expr _ h .nothing).abreast
      · obtain ⟨first, hfirst, hvalued, -⟩ := hrule x
        obtain ⟨first', hfirst', hvalued', -⟩ := hrule y
        simp only [expr, hfirst, hfirst']
        exact (abreast_exprs args hargs hvalued hvalued').bind fun _ _ => abreast_record _ _ _
      · obtain ⟨ty, hty⟩ := huntyped x
        obtain ⟨ty', hty'⟩ := huntyped y
        simp only [expr, hty, hty']
        exact (agrees_exprs args hargs [] none).abreast.bind fun _ _ => abreast_record _ _ _
  | tuple i elems =>
      exact (abreast_exprs elems h.children (valued_elemHints x _) (valued_elemHints y _)).bind
        fun _ _ => abreast_record _ _ _
  | block i body =>
      exact (abreast_block body (h.children _ List.mem_cons_self) (params_forValue x)
        (params_forValue y)).bind fun _ _ => abreast_record _ _ _
  | cond i test yes no =>
      obtain ⟨htest, hrest⟩ := List.forall_mem_cons.mp h.children
      obtain ⟨hyes, hno⟩ := List.forall_mem_cons.mp hrest
      exact (agrees_expr test htest .nothing).abreast.bind fun _ _ =>
        (abreast_block yes hyes (params_forValue x) (params_forValue y)).bind fun ty ty' =>
          (abreast_otherwise no hno ty ty').bind fun _ _ => abreast_record _ _ _
  | _ => exact abreast_of_heedless rfl h hx hy

theorem abreast_exprs (es : List Expr) (h : ∀ c ∈ es.map Node.expr, Uses P c)
    {first first' : List (Option Expected)} (hfirst : Valued first) (hfirst' : Valued first') :
    Abreast P (exprs es first (some .nothing)) (exprs es first' (some .nothing)) := by
  cases es with
  | nil => exact .pure _ _
  | cons e es =>
      obtain ⟨he, hes⟩ := List.forall_mem_cons.mp h
      obtain ⟨x, hx, hvalue⟩ := hfirst.head
      obtain ⟨y, hy, hvalue'⟩ := hfirst'.head
      rw [exprs, exprs, hx, hy]
      exact (abreast_expr e he hvalue hvalue').bind fun _ _ =>
        (abreast_exprs es hes hfirst.tail hfirst'.tail).bind fun _ _ => .pure _ _

theorem abreast_otherwise (o : Option Expr) (h : ∀ c ∈ o.toList.map Node.expr, Uses P c)
    (ty ty' : Ty) : Abreast P (otherwise o ty) (otherwise o ty') := by
  cases o with
  | none => exact .pure _ _
  | some e => exact (abreast_expr e (h _ List.mem_cons_self) rfl rfl).bind fun _ _ => .pure _ _

theorem abreast_block (b : Block) (h : Uses P (.block b)) {x y : Expected} (hx : x.params = [])
    (hy : y.params = []) : Abreast P (block b x) (block b y) := by
  obtain ⟨i, ss, tail⟩ := b
  obtain ⟨hss, htail⟩ := List.forall_mem_append.mp h.children
  cases tail with
  | none => exact (agrees_stmts ss hss).abreast.bind fun _ _ => .pure _ _
  | some e =>
      exact (agrees_stmts ss hss).abreast.bind fun _ _ =>
        abreast_expr e (htail _ List.mem_cons_self) hx hy

end

section

variable {τ : Typing} {t t' : Typing}

theorem exprType?_expr (hkeys : (τ.exprs.map Prod.fst).Nodup) {e : Expr} {x : Expected}
    (hτ : Extends ((expr e x).run t).2 τ) :
    τ.exprType? e.info.id = some ((expr e x).run t).1 :=
  (lookup_eq_some_iff_mem hkeys).mpr (hτ.exprs (noted_expr e x t))

theorem found_expr (hkeys : (τ.exprs.map Prod.fst).Nodup) {e : Expr} {x : Expected}
    (hτ : Extends ((expr e x).run t).2 τ) : τ.found e = ((expr e x).run t).1 := by
  rw [Typing.found, exprType?_expr hkeys hτ]
  rfl

theorem run_of_same (hkeys : (τ.exprs.map Prod.fst).Nodup) {e : Expr} (h : Uses P (.expr e))
    {x : Expected} (hx : expr e x = expr e .nothing) (ht : Shares P t t')
    (hτ : Extends ((expr e x).run t).2 τ) : ((expr e .nothing).run t').1 = τ.found e := by
  rw [found_expr hkeys hτ, hx]
  exact (agrees_expr e h .nothing t t' ht).1

mutual

theorem run_expr (hkeys : (τ.exprs.map Prod.fst).Nodup) (e : Expr) (h : Uses P (.expr e))
    {x : Expected} (hx : x.params = []) {t t' : Typing} (ht : Shares P t t')
    (hτ : Extends ((expr e x).run t).2 τ) : ((expr e .nothing).run t').1 = τ.unaided e := by
  cases e with
  | int => rfl
  | var i name binding =>
      by_cases hnone : binding = none ∧ name = "None"
      · obtain ⟨rfl, rfl⟩ := hnone
        rfl
      · have he : heeds (.var i name binding) = false := by
          simpa [heeds, Option.isNone_iff_eq_none] using hnone
        rw [unaided_of_heedless he]
        exact run_of_same hkeys h (expr_of_heedless he hx) ht hτ
  | call i callee args =>
      obtain ⟨-, hargs⟩ := List.forall_mem_cons.mp h.children
      rw [Typing.unaided]
      rcases pathRule?_cases callee args.length with hnone | ⟨result, hrule⟩ | huntyped
      · rw [hnone]
        refine run_of_same hkeys h ?_ ht hτ
        simp only [expr, hnone]
      · obtain ⟨first, hfirst, hvalued, -⟩ := hrule x
        obtain ⟨first', hfirst', -, hnothing⟩ := hrule .nothing
        simp only [expr, hfirst] at hτ
        simp only [expr, hfirst']
        exact congrArg result (run_exprs hkeys args hargs hvalued (hnothing rfl) ht
          ((extends_record _ _ _).trans hτ))
      · obtain ⟨ty, hty⟩ := huntyped .nothing
        simp only [expr, hty]
        rfl
  | tuple i elems =>
      exact congrArg Ty.ofElems (run_exprs hkeys elems h.children (valued_elemHints x elems.length)
        (fun _ ho => absurd ho List.not_mem_nil) ht ((extends_record (.tuple i elems) _ _).trans hτ))
  | block i body =>
      exact run_block hkeys body (h.children _ List.mem_cons_self) (params_forValue x) ht
        ((extends_record (.block i body) _ _).trans hτ)
  | cond i test yes no =>
      obtain ⟨htest, hrest⟩ := List.forall_mem_cons.mp h.children
      obtain ⟨hyes, -⟩ := List.forall_mem_cons.mp hrest
      have hyesτ : Extends ((block yes x.forValue).run ((expr test .nothing).run t).2).2 τ := by
        refine .trans ?_ ((extends_record (.cond i test yes no) _ _).trans hτ)
        exact extends_otherwise no _ _
      have hvalue := run_block hkeys yes hyes (params_forValue x)
        (agrees_expr test htest .nothing t t' ht).2 hyesτ
      rw [Typing.unaided]
      cases no with
      | none => rfl
      | some e => exact hvalue
  | _ =>
      rw [unaided_of_heedless rfl]
      exact run_of_same hkeys h (expr_of_heedless rfl hx) ht hτ

theorem run_exprs (hkeys : (τ.exprs.map Prod.fst).Nodup) (es : List Expr)
    (h : ∀ c ∈ es.map Node.expr, Uses P c) {first first' : List (Option Expected)}
    (hfirst : Valued first) (hfirst' : ∀ o ∈ first', o = some .nothing) {t t' : Typing}
    (ht : Shares P t t') (hτ : Extends ((exprs es first (some .nothing)).run t).2 τ) :
    ((exprs es first' (some .nothing)).run t').1 = τ.unaidedAll es := by
  cases es with
  | nil => rfl
  | cons e es =>
      obtain ⟨he, hes⟩ := List.forall_mem_cons.mp h
      obtain ⟨x, hx, hvalue⟩ := hfirst.head
      have hx' : first'.headD (some .nothing) = some .nothing := by
        cases first' with
        | nil => rfl
        | cons o os => exact hfirst' o List.mem_cons_self
      rw [exprs, hx] at hτ
      have hlater : Extends ((exprs es first.tail (some .nothing)).run ((expr e x).run t).2).2 τ := hτ
      rw [exprs, hx', Typing.unaidedAll]
      refine congrArg₂ List.cons (run_expr hkeys e he hvalue ht ?_)
        (run_exprs hkeys es hes hfirst.tail (fun o ho => hfirst' o (List.mem_of_mem_tail ho))
          (abreast_expr e he hvalue rfl t t' ht) hlater)
      exact (extends_exprs _ _ _ _).trans hlater

theorem run_block (hkeys : (τ.exprs.map Prod.fst).Nodup) (b : Block) (h : Uses P (.block b))
    {x : Expected} (hx : x.params = []) {t t' : Typing} (ht : Shares P t t')
    (hτ : Extends ((block b x).run t).2 τ) : ((block b .nothing).run t').1 = τ.unaidedBlock b := by
  obtain ⟨i, ss, tail⟩ := b
  obtain ⟨hss, htail⟩ := List.forall_mem_append.mp h.children
  cases tail with
  | none => rfl
  | some e =>
      exact run_expr hkeys e (htail _ List.mem_cons_self) hx (agrees_stmts ss hss t t' ht).2 hτ

end

end

end

end Infer

end ChainLint
