import ChainLint.Proofs.Tree.Renumbering
import ChainLint.Ty.Infer
import Mathlib.Logic.Function.Basic

namespace ChainLint

open Tree

namespace Ty

mutual

theorem ofExpr_erase (f : Span → Span) : (t : TypeExpr) → ofExpr (t.erase f) = ofExpr t
  | .mk name args _ => congrArg (ofHead name) (ofExprs_erase f args)

theorem ofExprs_erase (f : Span → Span) : (ts : List TypeExpr) →
    ofExprs (eraseTypes f ts) = ofExprs ts
  | [] => rfl
  | t :: ts => congrArg₂ List.cons (ofExpr_erase f t) (ofExprs_erase f ts)

end

theorem declared_erase (f : Span → Span) (o : Option TypeExpr) :
    declared (o.map (TypeExpr.erase f)) = declared o := by
  cases o with
  | none => rfl
  | some t => exact ofExpr_erase f t

theorem map_ofExpr_erase (f : Span → Span) (o : Option TypeExpr) :
    (o.map (TypeExpr.erase f)).map ofExpr = o.map ofExpr := by
  cases o with
  | none => rfl
  | some t => exact congrArg some (ofExpr_erase f t)

end Ty

structure Tree.Node.Asks (S P : NodeId → Prop) (F : String → Prop) (n : Node) : Prop where
  numbers : ∀ i ∈ n.ids, S i
  uses : ∀ i name binding, .expr (.var i name binding) ∈ n.preorder → binding.elim (F name) P

theorem Tree.Node.Asks.children {S P : NodeId → Prop} {F : String → Prop} {n : Node}
    (h : n.Asks S P F) : ∀ c ∈ n.children, c.Asks S P F := by
  refine fun c hc => ⟨fun i hi => h.numbers i ?_, fun i name binding hv =>
    h.uses i name binding (mem_preorder_of_child hc hv)⟩
  rw [Node.ids_eq]
  exact List.mem_cons_of_mem _ ((ids_sublist_idsOf hc).subset hi)

theorem Tree.Node.Asks.all {n : Node} : n.Asks (fun _ => True) (fun _ => True) fun _ => True := by
  refine ⟨fun _ _ => trivial, fun _ _ binding _ => ?_⟩
  cases binding <;> trivial

namespace Infer

/-- A relation of inferences that each step keeps to, taken over a tree and over the same tree with
its numbers and spans changed. -/
structure Lockstep (f : Span → Span) (g : NodeId → NodeId) (S P : NodeId → Prop)
    (F : String → Prop) where
  rel : {α : Type} → Infer α → Infer α → Prop
  pure : ∀ {α : Type} (x : α), rel (pure x) (pure x)
  bind : ∀ {α β : Type} {a b : Infer α} {u v : α → Infer β}, rel a b →
    (∀ x, rel (u x) (v x)) → rel (a >>= u) (b >>= v)
  setExpr : ∀ i ty, S i → rel (modify (·.setExpr i ty)) (modify (·.setExpr (g i) ty))
  setBinding : ∀ i ty, S i → rel (modify (·.setBinding i ty)) (modify (·.setBinding (g i) ty))
  lookup : ∀ (name : String) (binding : Option NodeId) (expected : Expected),
    binding.elim (F name) P → rel (do return varType (← get) name binding expected)
      (do return varType (← get) name (binding.map g) expected)
  longField : ∀ b, rel (modify fun t => { t with longField := t.longField || b })
    (modify fun t => { t with longField := t.longField || b })

section

variable {f : Span → Span} {g : NodeId → NodeId} {S P : NodeId → Prop} {F : String → Prop}
  {α β : Type}

def Relates (L : Lockstep f g S P F) (a b : Infer α) : Prop := L.rel a b

theorem Relates.pure {L : Lockstep f g S P F} (x : α) : Relates L (pure x) (pure x) := L.pure x

theorem Relates.bind {L : Lockstep f g S P F} {a b : Infer α} {u v : α → Infer β}
    (h : Relates L a b) (huv : ∀ x, Relates L (u x) (v x)) : Relates L (a >>= u) (b >>= v) :=
  L.bind h huv

theorem Relates.map {L : Lockstep f g S P F} {a b : Infer α} (u : α → β) (h : Relates L a b) :
    Relates L (a >>= fun x => Pure.pure (u x)) (b >>= fun x => Pure.pure (u x)) :=
  h.bind fun x => .pure (u x)

variable (L : Lockstep f g S P F)

theorem relates_record (e : Expr) (ty : Ty) (h : (Node.expr e).Asks S P F) :
    Relates L (record e ty) (record (e.relabel (.following f g)) ty) := by
  have hid : (e.relabel (.following f g)).info.id = g e.info.id :=
    (Node.expr e).id_relabel (.following f g)
  rw [record, record, hid]
  exact .map (fun _ => ty) (L.setExpr e.info.id ty (h.numbers _ (Node.id_mem_ids _)))

mutual

theorem relates_bind : (p : Pat) → (Node.pat p).Asks S P F → (ty : Ty) →
    Relates L (bind p ty) (bind (p.relabel f g) ty)
  | .binding i _ _, h, _ => L.setBinding i.id _ (h.numbers _ (Node.id_mem_ids _))
  | .wild _, _, _ => .pure _
  | .tuple _ elems, h, ty => by
      have hlength : (relabelPats f g elems).length = elems.length := by
        rw [relabelPats_eq, List.length_map]
      rw [Pat.relabel, bind, bind, hlength]
      exact relates_bindAll elems h.children _

theorem relates_bindAll : (ps : List Pat) → (∀ c ∈ ps.map Node.pat, c.Asks S P F) →
    (tys : List Ty) → Relates L (bindAll ps tys) (bindAll (relabelPats f g ps) tys)
  | [], _, _ | _ :: _, _, [] => .pure _
  | p :: ps, h, ty :: tys => by
      obtain ⟨hp, hps⟩ := List.forall_mem_cons.mp h
      exact (relates_bind p hp ty).bind fun _ => relates_bindAll ps hps tys

end

theorem relates_closureParams : (ps : List Param) → (∀ c ∈ ps.map Node.param, c.Asks S P F) →
    (hints : List Ty) →
    Relates L (closureParams ps hints) (closureParams (ps.map (Param.relabel f g)) hints)
  | [], _, _ => .pure _
  | p :: ps, h, hints => by
      obtain ⟨hp, hps⟩ := List.forall_mem_cons.mp h
      have hpattern := hp.children _ List.mem_cons_self
      rw [List.map_cons, closureParams, closureParams, Param.relabel]
      cases p.declared with
      | none => exact (relates_bind L p.pattern hpattern _).bind fun _ =>
          (relates_closureParams ps hps _).map _
      | some t =>
          simp only [Option.map_some, Ty.ofExpr_erase]
          exact (relates_bind L p.pattern hpattern _).bind fun _ =>
            (relates_closureParams ps hps _).map _

theorem pathRule?_relabel (e : Expr) (arity : Nat) (expected : Expected) :
    pathRule? (e.relabel (.following f g)) arity expected = pathRule? e arity expected := by
  cases e with
  | var i name binding => cases binding <;> rfl
  | _ => rfl

theorem relates_var {i : Info} {name : String} {binding : Option NodeId}
    (h : (Node.expr (.var i name binding)).Asks S P F) (expected : Expected) :
    Relates L (expr (.var i name binding) expected)
      (expr ((Expr.var i name binding).relabel (.following f g)) expected) := by
  have huse := h.uses i name binding (Node.mem_preorder_self _)
  have hlookup : Relates L _ _ := L.lookup name binding expected huse
  exact hlookup.bind fun ty => relates_record L (.var i name binding) ty h

mutual

theorem relates_expr : (e : Expr) → (Node.expr e).Asks S P F → (expected : Expected) →
    Relates L (expr e expected) (expr (e.relabel (.following f g)) expected)
  | .int i value suffix, h, _ => relates_record L (.int i value suffix) _ h
  | .float i bits suffix, h, _ => relates_record L (.float i bits suffix) _ h
  | .string i value, h, _ => relates_record L (.string i value) _ h
  | .bool i value, h, _ => relates_record L (.bool i value) _ h
  | .brk i, h, _ => relates_record L (.brk i) _ h
  | .cont i, h, _ => relates_record L (.cont i) _ h
  | .var _ _ _, h, expected =>
      relates_var L h expected
  | .call i callee args, h, expected => by
      obtain ⟨hcallee, hargs⟩ := List.forall_mem_cons.mp h.children
      have hrecord (ty : Ty) := relates_record L (.call i callee args) ty h
      rw [Expr.relabel] at hrecord ⊢
      rw [expr, expr, pathRule?_relabel, relabelExprs_eq, List.length_map, ← relabelExprs_eq]
      cases pathRule? callee args.length expected with
      | some rule =>
          exact (relates_exprs args hargs rule.first rule.others).bind fun tys =>
            hrecord (rule.result tys)
      | none =>
          exact (relates_expr callee hcallee .nothing).bind fun ty =>
            (relates_exprs args hargs _ _).bind fun tys => hrecord _
  | .methodCall i receiver name s args, h, _ => by
      obtain ⟨hreceiver, hargs⟩ := List.forall_mem_cons.mp h.children
      have hrecord (ty : Ty) :=
        relates_record L (.methodCall i receiver name s args) ty h
      rw [Expr.relabel] at hrecord ⊢
      rw [expr, expr, relabelExprs_eq, List.length_map, ← relabelExprs_eq]
      exact (relates_expr receiver hreceiver .nothing).bind fun ty =>
        (relates_exprs args hargs _ _).bind fun tys => hrecord _
  | .field i subject name, h, _ =>
      (relates_expr subject (h.children _ List.mem_cons_self) .nothing).bind fun ty =>
        Relates.bind (L := L) (L.longField _) fun _ =>
          relates_record L (.field i subject name) _ h
  | .index i subject position, h, _ =>
      (relates_expr subject (h.children _ List.mem_cons_self) .nothing).bind fun _ =>
        (relates_expr position (h.children _ (List.mem_cons_of_mem _ List.mem_cons_self))
          .nothing).bind fun _ => relates_record L (.index i subject position) _ h
  | .unary i op operand, h, _ =>
      (relates_expr operand (h.children _ List.mem_cons_self) .nothing).bind fun _ =>
        relates_record L (.unary i op operand) _ h
  | .binary i op left right, h, _ =>
      (relates_expr left (h.children _ List.mem_cons_self) .nothing).bind fun _ =>
        (relates_expr right (h.children _ (List.mem_cons_of_mem _ List.mem_cons_self)) _).bind
          fun _ => relates_record L (.binary i op left right) _ h
  | .range i lower upper, h, _ => by
      have hparts := h.children
      rw [Node.children, Expr.children, List.map_append] at hparts
      obtain ⟨hlower, hupper⟩ := List.forall_mem_append.mp hparts
      exact (relates_optional lower hlower).bind fun _ => (relates_optional upper hupper).bind
        fun _ => relates_record L (.range i lower upper) _ h
  | .array i elems, h, _ =>
      (relates_exprs elems h.children _ _).bind fun _ =>
        relates_record L (.array i elems) _ h
  | .tuple i elems, h, expected => by
      have hrecord (ty : Ty) := relates_record L (.tuple i elems) ty h
      rw [Expr.relabel] at hrecord ⊢
      rw [expr, expr, relabelExprs_eq, List.length_map, ← relabelExprs_eq]
      exact (relates_exprs elems h.children _ _).bind fun _ => hrecord _
  | .closure i ps body isMove, h, expected => by
      obtain ⟨hps, hbody⟩ := List.forall_mem_append.mp h.children
      exact (relates_closureParams L ps hps _).bind fun _ =>
        (relates_expr body (hbody _ List.mem_cons_self) .nothing).bind fun _ =>
          relates_record L (.closure i ps body isMove) _ h
  | .macroCall i name args, h, _ =>
      (relates_exprs args h.children _ _).bind fun _ =>
        relates_record L (.macroCall i name args) _ h
  | .block i body, h, expected =>
      (relates_block body (h.children _ List.mem_cons_self) _).bind fun _ =>
        relates_record L (.block i body) _ h
  | .cond i test yes no, h, expected => by
      obtain ⟨htest, hrest⟩ := List.forall_mem_cons.mp h.children
      obtain ⟨hyes, hno⟩ := List.forall_mem_cons.mp hrest
      exact (relates_expr test htest .nothing).bind fun _ => (relates_block yes hyes _).bind
        fun ty => (relates_otherwise no hno ty).bind fun _ =>
          relates_record L (.cond i test yes no) _ h
  | .whileLoop i test body, h, _ =>
      (relates_expr test (h.children _ List.mem_cons_self) .nothing).bind fun _ =>
        (relates_block body (h.children _ (List.mem_cons_of_mem _ List.mem_cons_self))
          .nothing).bind fun _ => relates_record L (.whileLoop i test body) _ h
  | .loop i body, h, _ =>
      (relates_block body (h.children _ List.mem_cons_self) .nothing).bind fun _ =>
        relates_record L (.loop i body) _ h
  | .forLoop i p iterable body, h, _ => by
      obtain ⟨hp, hrest⟩ := List.forall_mem_cons.mp h.children
      obtain ⟨hiterable, hbody⟩ := List.forall_mem_cons.mp hrest
      exact (relates_expr iterable hiterable .nothing).bind fun ty =>
        (relates_bind L p hp _).bind fun _ =>
          (relates_block body (hbody _ List.mem_cons_self) .nothing).bind fun _ =>
            relates_record L (.forLoop i p iterable body) _ h
  | .ret i value, h, _ =>
      (relates_optional value h.children).bind fun _ => relates_record L (.ret i value) _ h

theorem relates_exprs : (es : List Expr) → (∀ c ∈ es.map Node.expr, c.Asks S P F) →
    (first : List (Option Expected)) → (others : Option Expected) →
    Relates L (exprs es first others)
      (exprs (relabelExprs (.following f g) es) first others)
  | [], _, _, _ => .pure _
  | e :: es, h, first, others => by
      obtain ⟨he, hes⟩ := List.forall_mem_cons.mp h
      rw [relabelExprs, exprs, exprs]
      cases first.headD others with
      | none => exact (Relates.pure _).bind fun ty => (relates_exprs es hes _ _).map _
      | some expected =>
          exact (relates_expr e he expected).bind fun ty => (relates_exprs es hes _ _).map _

theorem relates_optional : (o : Option Expr) → (∀ c ∈ o.toList.map Node.expr, c.Asks S P F) →
    Relates L (optional o) (optional (relabelOption (.following f g) o))
  | none, _ => .pure _
  | some e, h => (relates_expr e (h _ List.mem_cons_self) .nothing).map _

theorem relates_otherwise : (o : Option Expr) → (∀ c ∈ o.toList.map Node.expr, c.Asks S P F) →
    (ty : Ty) →
    Relates L (otherwise o ty) (otherwise (relabelOption (.following f g) o) ty)
  | none, _, _ => .pure _
  | some e, h, ty => (relates_expr e (h _ List.mem_cons_self) _).map fun _ => ty

theorem relates_initializer : (o : Option Expr) → (∀ c ∈ o.toList.map Node.expr, c.Asks S P F) →
    (declared : Option Ty) → Relates L (initializer o declared)
      (initializer (relabelOption (.following f g) o) declared)
  | none, _, _ => .pure _
  | some e, h, declared => (relates_expr e (h _ List.mem_cons_self) _).map fun ty => declared.getD ty

theorem relates_stmts : (ss : List Stmt) → (∀ c ∈ ss.map Node.stmt, c.Asks S P F) →
    Relates L (stmts ss) (stmts (relabelStmts (.following f g) ss))
  | [], _ => .pure _
  | .expr _ value :: ss, h => by
      obtain ⟨hs, hss⟩ := List.forall_mem_cons.mp h
      exact (relates_expr value (hs.children _ List.mem_cons_self) .nothing).bind fun _ =>
        relates_stmts ss hss
  | .letIn _ p declared value :: ss, h => by
      obtain ⟨hs, hss⟩ := List.forall_mem_cons.mp h
      obtain ⟨hp, hvalue⟩ := List.forall_mem_cons.mp hs.children
      rw [relabelStmts, Stmt.relabel, stmts, stmts, Relabelling.following, Ty.map_ofExpr_erase]
      exact (relates_initializer value hvalue _).bind fun ty =>
        (relates_bind L p hp ty).bind fun _ => relates_stmts ss hss

theorem relates_block : (b : Block) → (Node.block b).Asks S P F → (expected : Expected) →
    Relates L (block b expected) (block (b.relabel (.following f g)) expected)
  | .mk _ ss none, h, _ => by
      obtain ⟨hss, -⟩ := List.forall_mem_append.mp h.children
      exact (relates_stmts ss hss).map fun _ => Ty.unit
  | .mk _ ss (some tail), h, expected => by
      obtain ⟨hss, htail⟩ := List.forall_mem_append.mp h.children
      exact (relates_stmts ss hss).bind fun _ =>
        relates_expr tail (htail _ List.mem_cons_self) expected

end

theorem relates_params : (ps : List Param) → (∀ c ∈ ps.map Node.param, c.Asks S P F) →
    Relates L (params ps) (params (ps.map (Param.relabel f g)))
  | [], _ => .pure _
  | p :: ps, h => by
      obtain ⟨hp, hps⟩ := List.forall_mem_cons.mp h
      rw [List.map_cons, params, params, Param.relabel, Ty.declared_erase]
      exact (relates_bind L p.pattern (hp.children _ List.mem_cons_self) _).bind fun _ =>
        relates_params ps hps

theorem relates_functions : (hs : List Function) → (∀ c ∈ hs.map Node.function, c.Asks S P F) →
    Relates L (functions hs) (functions (hs.map (Function.relabel (.following f g))))
  | [], _ => .pure _
  | h :: hs, hasks => by
      obtain ⟨hh, hhs⟩ := List.forall_mem_cons.mp hasks
      obtain ⟨hps, hbody⟩ := List.forall_mem_append.mp hh.children
      exact (relates_params L h.params hps).bind fun _ =>
        (relates_block L h.body (hbody _ List.mem_cons_self) .nothing).bind fun _ =>
          relates_functions hs hhs

end

section

variable {g : NodeId → NodeId} {S P : NodeId → Prop} {F : String → Prop} {long : Prop}

structure Alike (g : NodeId → NodeId) (P : NodeId → Prop) (F : String → Prop) (long : Prop)
    (t t' : Typing) : Prop where
  exprs : ∀ i, P i → t'.exprType? (g i) = t.exprType? i
  bindings : ∀ i, P i → t'.bindingType? (g i) = t.bindingType? i
  functions : ∀ name, F name → t'.functionType? name = t.functionType? name
  longField : long → t'.longField = t.longField

def Mirrors {α : Type} (g : NodeId → NodeId) (P : NodeId → Prop) (F : String → Prop) (long : Prop)
    (a b : Infer α) : Prop :=
  ∀ t t', Alike g P F long t t' →
    (b.run t').1 = (a.run t).1 ∧ Alike g P F long (a.run t).2 (b.run t').2

theorem lookup_cons_image {α : Type} (hg : Function.Injective g) {us vs : List (NodeId × α)}
    {i j : NodeId} (h : vs.lookup (g i) = us.lookup i) (x : α) :
    ((g j, x) :: vs).lookup (g i) = ((j, x) :: us).lookup i := by
  rw [List.lookup_cons, List.lookup_cons, h]
  by_cases hij : i = j
  · rw [hij, beq_self_eq_true, beq_self_eq_true]
  · rw [beq_eq_false_iff_ne.mpr hij, beq_eq_false_iff_ne.mpr (hg.ne hij)]

theorem agree_bind {R : Typing → Typing → Prop} {α β : Type} {a b : Infer α} {u v : α → Infer β}
    (h : ∀ t t', R t t' → (b.run t').1 = (a.run t).1 ∧ R (a.run t).2 (b.run t').2)
    (huv : ∀ x t t', R t t' →
      ((v x).run t').1 = ((u x).run t).1 ∧ R ((u x).run t).2 ((v x).run t').2)
    (t t' : Typing) (ht : R t t') : ((b >>= v).run t').1 = ((a >>= u).run t).1 ∧
      R ((a >>= u).run t).2 ((b >>= v).run t').2 := by
  obtain ⟨hvalue, hstate⟩ := h t t' ht
  have hrest := huv (a.run t).1 _ _ hstate
  change (((v (b.run t').1).run (b.run t').2).1 = ((u (a.run t).1).run (a.run t).2).1) ∧
    R ((u (a.run t).1).run (a.run t).2).2 ((v (b.run t').1).run (b.run t').2).2
  rw [hvalue]
  exact hrest

theorem Mirrors.bind {α β : Type} {a b : Infer α} {u v : α → Infer β}
    (h : Mirrors g P F long a b) (huv : ∀ x, Mirrors g P F long (u x) (v x)) :
    Mirrors g P F long (a >>= u) (b >>= v) :=
  agree_bind h huv

variable (F long) (f : Span → Span)

def mirroring (hg : Function.Injective g) : Lockstep f g (fun _ => True) P F where
  rel := Mirrors g P F long
  pure _ := fun _ _ h => ⟨rfl, h⟩
  bind := Mirrors.bind
  setExpr _ ty _ := fun _ _ h => ⟨rfl, fun i hi => lookup_cons_image hg (h.exprs i hi) ty,
    h.bindings, h.functions, h.longField⟩
  setBinding _ ty _ := fun _ _ h => ⟨rfl, h.exprs,
    fun i hi => lookup_cons_image hg (h.bindings i hi) ty, h.functions, h.longField⟩
  lookup name binding expected huse := by
    refine fun t t' h => ⟨?_, h⟩
    change varType t' name (binding.map g) expected = varType t name binding expected
    cases binding with
    | none => simp only [varType, Option.map_none, h.functions name huse]
    | some b => simp only [varType, Option.map_some, h.bindings b huse]
  longField b := by
    refine fun t t' h => ⟨rfl, h.exprs, h.bindings, h.functions, fun hlong => ?_⟩
    change (t'.longField || b) = (t.longField || b)
    rw [h.longField hlong]

structure Keeps (S : NodeId → Prop) (t t' : Typing) : Prop where
  exprs : ∀ i, ¬ S i → t'.exprType? i = t.exprType? i
  bindings : ∀ i, ¬ S i → t'.bindingType? i = t.bindingType? i
  functions : t'.functions = t.functions

theorem Keeps.refl (t : Typing) : Keeps S t t := ⟨fun _ _ => rfl, fun _ _ => rfl, rfl⟩

theorem Keeps.trans {t t' t'' : Typing} (h : Keeps S t t') (h' : Keeps S t' t'') : Keeps S t t'' :=
  ⟨fun i hi => (h'.exprs i hi).trans (h.exprs i hi),
    fun i hi => (h'.bindings i hi).trans (h.bindings i hi), h'.functions.trans h.functions⟩

theorem lookup_cons_of_not {α : Type} {us : List (NodeId × α)} {i j : NodeId} (hj : S j)
    (hi : ¬ S i) (x : α) : ((j, x) :: us).lookup i = us.lookup i := by
  have hne : i ≠ j := fun h => hi (h ▸ hj)
  rw [List.lookup_cons, beq_eq_false_iff_ne.mpr hne]

def framing (S : NodeId → Prop) : Lockstep f id S (fun _ => True) (fun _ => True) where
  rel a _ := ∀ t, Keeps S t (a.run t).2
  pure _ := Keeps.refl
  bind {_ _ a _ _ _} h huv t := (h t).trans (huv (a.run t).1 (a.run t).2)
  setExpr _ ty hi _ := ⟨fun _ hn => lookup_cons_of_not hi hn ty, fun _ _ => rfl, rfl⟩
  setBinding _ ty hi _ := ⟨fun _ _ => rfl, fun _ hn => lookup_cons_of_not hi hn ty, rfl⟩
  lookup _ _ _ _ := Keeps.refl
  longField _ _ := ⟨fun _ _ => rfl, fun _ _ => rfl, rfl⟩

end

end Infer

theorem Tree.Function.type_relabel (r : Relabelling) (h : Function) :
    (h.relabel r).type = h.type := by
  rw [Function.type, Function.type, Function.relabel, List.map_map, Ty.map_ofExpr_erase]
  congr 1
  exact List.map_congr_left fun p _ => Ty.declared_erase r.span p.declared

namespace Typing

def declaring (fs : List Function) : Typing :=
  fs.foldl (fun t h => t.setFunction h.name h.type) {}

theorem declaring_empty (fs : List Function) :
    (declaring fs).exprs = [] ∧ (declaring fs).bindings = [] := by
  suffices h : ∀ t : Typing, (fs.foldl (fun t h => t.setFunction h.name h.type) t).exprs = t.exprs ∧
      (fs.foldl (fun t h => t.setFunction h.name h.type) t).bindings = t.bindings from h {}
  induction fs with
  | nil => exact fun _ => ⟨rfl, rfl⟩
  | cons h fs ih => exact fun t => ih (t.setFunction h.name h.type)

theorem declaring_relabel (r : Relabelling) (fs : List Function) :
    declaring (fs.map (Function.relabel r)) = declaring fs := by
  rw [declaring, List.foldl_map]
  simp only [Tree.Function.type_relabel]
  rfl

theorem alike_relabel (f : Span → Span) {g : NodeId → NodeId} (hg : Function.Injective g)
    (m : Module) : Infer.Alike g (fun _ => True) (fun _ => True) True (ofModule m)
      (ofModule (m.relabel (.following f g))) := by
  have hasks : ∀ c ∈ m.functions.map Node.function,
      c.Asks (fun _ => True) (fun _ => True) fun _ => True := fun _ _ => .all
  obtain ⟨hexprs, hbindings⟩ := declaring_empty m.functions
  have hstart : Infer.Alike g (fun _ => True) (fun _ => True) True (declaring m.functions)
      (declaring (m.functions.map (Function.relabel (.following f g)))) := by
    rw [declaring_relabel]
    refine ⟨fun i _ => ?_, fun i _ => ?_, fun _ _ => rfl, fun _ => rfl⟩
    · rw [exprType?, exprType?, hexprs]
      rfl
    · rw [bindingType?, bindingType?, hbindings]
      rfl
  exact (Infer.relates_functions (Infer.mirroring _ _ f hg) m.functions hasks _ _ hstart).2

end Typing

end ChainLint
