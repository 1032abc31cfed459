import ChainLint.Proofs.Lint.Remaining
import ChainLint.Proofs.Ty.Unaided

namespace ChainLint

open Tree MapUnwrapOr

namespace Tree.Node

def Throughout (Q : Node → Prop) (n : Node) : Prop := ∀ v ∈ n.preorder, Q v

namespace Throughout

variable {Q : Node → Prop} {n : Node}

theorem self (h : n.Throughout Q) : Q n := h n n.mem_preorder_self

theorem children (h : n.Throughout Q) : ∀ c ∈ n.children, c.Throughout Q :=
  fun _ hc v hv => h v (mem_preorder_of_child hc hv)

end Throughout

def Bystander (picks : Int → Bool) (k : NodeId) (n : Node) : Prop :=
  n.id ≠ k ∧ ∀ c, Chain.IsAt c n → picks c.nameSpan.lo = false

end Tree.Node

namespace Infer

def Quiet {α : Type} (k : NodeId) (a : Infer α) : Prop :=
  ∀ t, Extends t (a.run t).2 ∧ (a.run t).2.exprType? k = t.exprType? k

structure Departure (k : NodeId) where
  rel : {α : Type} → Infer α → Infer α → Prop
  same : ∀ {α : Type} {a : Infer α}, Quiet k a → rel a a
  bind : ∀ {α β : Type} {a b : Infer α} {u v : α → Infer β}, rel a b → (∀ x, rel (u x) (v x)) →
    rel (a >>= u) (b >>= v)

section

variable {k : NodeId} {picks : Int → Bool} {α β : Type}

def Departure.Covers (L : Departure k) (picks : Int → Bool) (n : Node) : Prop :=
  n.Bystander picks k ∨ ∃ e, n = .expr e ∧ ∀ x, L.rel (expr e x) (expr (e.mergeChains picks) x)

theorem Quiet.of_asks {a : Infer α} (hkeeps : ∀ t, Keeps (· ≠ k) t (a.run t).2)
    (hgrows : ∀ t, Extends t (a.run t).2) : Quiet k a :=
  fun t => ⟨hgrows t, (hkeeps t).exprs k (· rfl)⟩

theorem quiet_pure (x : α) : Quiet k (pure x) := fun t => ⟨.refl t, rfl⟩

theorem quiet_record {e : Expr} (h : e.info.id ≠ k) (ty : Ty) : Quiet k (record e ty) :=
  fun t => ⟨extends_record e ty t, lookup_cons_of_not (S := (· ≠ k)) h (· rfl) ty⟩

theorem asks_of_ids {n : Node} (h : ∀ v ∈ n.preorder, v.id ≠ k) :
    n.Asks (· ≠ k) (fun _ => True) fun _ => True := by
  refine ⟨fun i hi => ?_, fun _ _ binding _ => ?_⟩
  · obtain ⟨v, hv, rfl⟩ := List.mem_map.mp hi
    exact h v hv
  · cases binding <;> trivial

variable (L : Departure k)

theorem Departure.map {a b : Infer α} (u : α → β) (h : L.rel a b) :
    L.rel (a >>= fun x => pure (u x)) (b >>= fun x => pure (u x)) :=
  L.bind h fun x => L.same (quiet_pure (u x))

variable {L}

theorem covers_pat {n : Node} (h : n.Throughout (L.Covers picks)) (hn : ∀ e, .expr e ∉ n.preorder) :
    n.Asks (· ≠ k) (fun _ => True) fun _ => True := by
  refine asks_of_ids fun v hv => ?_
  rcases h v hv with ⟨hid, -⟩ | ⟨e, rfl, -⟩
  · exact hid
  · exact absurd hv (hn e)

theorem departs_bind {p : Pat} (h : (Node.pat p).Throughout (L.Covers picks)) (ty : Ty) :
    L.rel (bind p ty) (bind p ty) := by
  have hasks := covers_pat h fun e he => by
    obtain ⟨_, hq⟩ := Node.not_expr_of_mem_pat he
    cases hq
  exact L.same (.of_asks (relates_bind (framing (f := id) _) p hasks ty)
    (relates_bind growing p .all ty))

theorem departs_closureParams {ps : List Param}
    (h : ∀ c ∈ ps.map Node.param, c.Throughout (L.Covers picks)) (hints : List Ty) :
    L.rel (closureParams ps hints) (closureParams ps hints) := by
  have hasks : ∀ c ∈ ps.map Node.param, c.Asks (· ≠ k) (fun _ => True) fun _ => True := by
    intro c hc
    refine covers_pat (h c hc) fun e he => ?_
    obtain ⟨p, -, rfl⟩ := List.mem_map.mp hc
    exact Node.not_expr_of_mem_param he rfl
  exact L.same (.of_asks (relates_closureParams (framing (f := id) _) ps hasks hints)
    (relates_closureParams growing ps (fun _ _ => .all) hints))

theorem pathRule?_mergeChains (callee : Expr) (arity : Nat) (x : Expected) :
    pathRule? (callee.mergeChains picks) arity x = pathRule? callee arity x := by
  cases callee with
  | methodCall i receiver name s args =>
      obtain ⟨_, _, _, _, _, hcall⟩ := exists_mergeChains_call picks i receiver name s args
      rw [hcall]
      rfl
  | _ => rfl

mutual

theorem departs_expr (e : Expr) (h : (Node.expr e).Throughout (L.Covers picks)) (x : Expected) :
    L.rel (expr e x) (expr (e.mergeChains picks) x) := by
  rcases h.self with ⟨hid, hunpicked⟩ | ⟨_, heq, hrel⟩
  · have hparts := h.children
    have hrecord (ty : Ty) : L.rel (record e ty) (record e ty) := L.same (quiet_record hid ty)
    cases e with
    | int | float | string | bool | brk | cont => exact hrecord _
    | var => exact L.bind (L.same fun t => ⟨.refl t, rfl⟩) fun _ => hrecord _
    | call i callee args =>
        obtain ⟨hcallee, hargs⟩ := List.forall_mem_cons.mp hparts
        rw [Expr.mergeChains, expr, expr, pathRule?_mergeChains, mergeExprs_eq, List.length_map,
          ← mergeExprs_eq]
        cases pathRule? callee args.length x with
        | some rule => exact L.bind (departs_exprs args hargs _ _) fun _ => hrecord _
        | none =>
            exact L.bind (departs_expr callee hcallee _) fun _ =>
              L.bind (departs_exprs args hargs _ _) fun _ => hrecord _
    | methodCall i receiver name s args =>
        obtain ⟨hreceiver, hargs⟩ := List.forall_mem_cons.mp hparts
        rw [mergeChains_call picks hunpicked, expr, expr, mergeExprs_eq, List.length_map,
          ← mergeExprs_eq]
        exact L.bind (departs_expr receiver hreceiver _) fun _ =>
          L.bind (departs_exprs args hargs _ _) fun _ => hrecord _
    | field i subject name =>
        exact L.bind (departs_expr subject (hparts _ List.mem_cons_self) _) fun ty =>
          L.bind (L.same fun t => ⟨growing.longField _ t, rfl⟩) fun _ => hrecord _
    | unary i op operand =>
        exact L.bind (departs_expr operand (hparts _ List.mem_cons_self) _) fun _ => hrecord _
    | index i left right | binary i op left right =>
        obtain ⟨hleft, hright⟩ := List.forall_mem_cons.mp hparts
        exact L.bind (departs_expr left hleft _) fun _ =>
          L.bind (departs_expr right (hright _ List.mem_cons_self) _) fun _ => hrecord _
    | range i lower upper =>
        rw [Node.children, Expr.children, List.map_append] at hparts
        obtain ⟨hlower, hupper⟩ := List.forall_mem_append.mp hparts
        exact L.bind (departs_optional lower hlower) fun _ =>
          L.bind (departs_optional upper hupper) fun _ => hrecord _
    | array i elems | macroCall i name elems =>
        exact L.bind (departs_exprs elems hparts _ _) fun _ => hrecord _
    | tuple i elems =>
        rw [Expr.mergeChains, expr, expr, mergeExprs_eq, List.length_map, ← mergeExprs_eq]
        exact L.bind (departs_exprs elems hparts _ _) fun _ => hrecord _
    | closure i ps body isMove =>
        obtain ⟨hps, hbody⟩ := List.forall_mem_append.mp hparts
        exact L.bind (departs_closureParams hps _) fun _ =>
          L.bind (departs_expr body (hbody _ List.mem_cons_self) _) fun _ => hrecord _
    | block i body =>
        exact L.bind (departs_block body (hparts _ List.mem_cons_self) _) fun _ => hrecord _
    | loop i body =>
        exact L.bind (departs_block body (hparts _ List.mem_cons_self) _) fun _ => hrecord _
    | cond i test yes no =>
        obtain ⟨htest, hrest⟩ := List.forall_mem_cons.mp hparts
        obtain ⟨hyes, hno⟩ := List.forall_mem_cons.mp hrest
        exact L.bind (departs_expr test htest _) fun _ => L.bind (departs_block yes hyes _) fun ty =>
          L.bind (departs_otherwise no hno ty) fun _ => hrecord _
    | whileLoop i test body =>
        obtain ⟨htest, hbody⟩ := List.forall_mem_cons.mp hparts
        exact L.bind (departs_expr test htest _) fun _ =>
          L.bind (departs_block body (hbody _ List.mem_cons_self) _) fun _ => hrecord _
    | forLoop i p iterable body =>
        obtain ⟨hp, hrest⟩ := List.forall_mem_cons.mp hparts
        obtain ⟨hiterable, hbody⟩ := List.forall_mem_cons.mp hrest
        exact L.bind (departs_expr iterable hiterable _) fun ty =>
          L.bind (departs_bind hp (iteratedType ty)) fun _ =>
            L.bind (departs_block body (hbody _ List.mem_cons_self) _) fun _ => hrecord _
    | ret i value => exact L.bind (departs_optional value hparts) fun _ => hrecord _
  · obtain rfl := Node.expr.inj heq
    exact hrel x

theorem departs_exprs (es : List Expr)
    (h : ∀ c ∈ es.map Node.expr, c.Throughout (L.Covers picks))
    (first : List (Option Expected)) (others : Option Expected) :
    L.rel (exprs es first others) (exprs (mergeExprs picks es) first others) := by
  cases es with
  | nil => exact L.same (quiet_pure _)
  | cons e es =>
      obtain ⟨he, hes⟩ := List.forall_mem_cons.mp h
      rw [mergeExprs, exprs, exprs]
      cases first.headD others with
      | none => exact L.bind (L.same (quiet_pure _)) fun ty => L.map _ (departs_exprs es hes _ _)
      | some x => exact L.bind (departs_expr e he x) fun ty => L.map _ (departs_exprs es hes _ _)

theorem departs_optional (o : Option Expr)
    (h : ∀ c ∈ o.toList.map Node.expr, c.Throughout (L.Covers picks)) :
    L.rel (optional o) (optional (mergeOption picks o)) := by
  cases o with
  | none => exact L.same (quiet_pure _)
  | some e => exact L.map _ (departs_expr e (h _ List.mem_cons_self) .nothing)

theorem departs_otherwise (o : Option Expr)
    (h : ∀ c ∈ o.toList.map Node.expr, c.Throughout (L.Covers picks)) (ty : Ty) :
    L.rel (otherwise o ty) (otherwise (mergeOption picks o) ty) := by
  cases o with
  | none => exact L.same (quiet_pure _)
  | some e => exact L.map (fun _ => ty) (departs_expr e (h _ List.mem_cons_self) _)

theorem departs_initializer (o : Option Expr)
    (h : ∀ c ∈ o.toList.map Node.expr, c.Throughout (L.Covers picks)) (declared : Option Ty) :
    L.rel (initializer o declared) (initializer (mergeOption picks o) declared) := by
  cases o with
  | none => exact L.same (quiet_pure _)
  | some e => exact L.map declared.getD (departs_expr e (h _ List.mem_cons_self) _)

theorem departs_stmts (ss : List Stmt) (h : ∀ c ∈ ss.map Node.stmt, c.Throughout (L.Covers picks)) :
    L.rel (stmts ss) (stmts (mergeStmts picks ss)) := by
  cases ss with
  | nil => exact L.same (quiet_pure _)
  | cons s ss =>
      obtain ⟨hs, hss⟩ := List.forall_mem_cons.mp h
      cases s with
      | expr i value =>
          exact L.bind (departs_expr value (hs.children _ List.mem_cons_self) _) fun _ =>
            departs_stmts ss hss
      | letIn i p declared value =>
          obtain ⟨hp, hvalue⟩ := List.forall_mem_cons.mp hs.children
          exact L.bind (departs_initializer value hvalue _) fun ty =>
            L.bind (departs_bind hp ty) fun _ => departs_stmts ss hss

theorem departs_block (b : Block) (h : (Node.block b).Throughout (L.Covers picks)) (x : Expected) :
    L.rel (block b x) (block (b.mergeChains picks) x) := by
  obtain ⟨i, ss, tail⟩ := b
  obtain ⟨hss, htail⟩ := List.forall_mem_append.mp h.children
  cases tail with
  | none => exact L.map (fun _ => Ty.unit) (departs_stmts ss hss)
  | some e =>
      exact L.bind (departs_stmts ss hss) fun _ => departs_expr e (htail _ List.mem_cons_self) x

end

theorem departs_params (ps : List Param)
    (h : ∀ c ∈ ps.map Node.param, c.Throughout (L.Covers picks)) : L.rel (params ps) (params ps) := by
  induction ps with
  | nil => exact L.same (quiet_pure _)
  | cons p ps ih =>
      obtain ⟨hp, hps⟩ := List.forall_mem_cons.mp h
      exact L.bind (departs_bind (hp.children _ List.mem_cons_self) _) fun _ => ih hps

theorem departs_functions (fs : List Function)
    (h : ∀ c ∈ fs.map Node.function, c.Throughout (L.Covers picks)) :
    L.rel (functions fs) (functions (fs.map (Function.mergeChains picks))) := by
  induction fs with
  | nil => exact L.same (quiet_pure _)
  | cons f fs ih =>
      obtain ⟨hf, hfs⟩ := List.forall_mem_cons.mp h
      obtain ⟨hps, hbody⟩ := List.forall_mem_append.mp hf.children
      exact L.bind (departs_params f.params hps) fun _ =>
        L.bind (departs_block f.body (hbody _ List.mem_cons_self) _) fun _ => ih hfs

def equality (k : NodeId) : Departure k where
  rel a b := a = b
  same _ := rfl
  bind := by
    rintro _ _ a _ u v rfl huv
    exact congrArg _ (funext huv)

def Forks (e e' : Expr) (a b : Infer α) : Prop := ∀ t,
  (Extends t (a.run t).2 ∧ Extends t (b.run t).2) ∧
    (b.run t = a.run t ∧ (a.run t).2.exprType? e.info.id = t.exprType? e.info.id ∨
      ∃ s x, Extends ((expr e x).run s).2 (a.run t).2 ∧ Extends ((expr e' x).run s).2 (b.run t).2)

theorem Forks.bind {e e' : Expr} {a b : Infer α} {u v : α → Infer β} (h : Forks e e' a b)
    (huv : ∀ x, Forks e e' (u x) (v x)) : Forks e e' (a >>= u) (b >>= v) := by
  intro t
  obtain ⟨⟨ha, hb⟩, hsame | ⟨s, x, he, he'⟩⟩ := h t
  · obtain ⟨hrun, hquiet⟩ := hsame
    obtain ⟨⟨hu, hv⟩, hrest⟩ := huv (a.run t).1 (a.run t).2
    have hbind : (b >>= v).run t = (v (a.run t).1).run (a.run t).2 :=
      congrArg (fun r : α × Typing => (v r.1).run r.2) hrun
    rw [hbind]
    refine ⟨⟨ha.trans hu, ha.trans hv⟩, hrest.imp_left fun hsame => ⟨hsame.1, ?_⟩⟩
    exact hsame.2.trans hquiet
  · have hu := (huv (a.run t).1 (a.run t).2).1.1
    have hv := (huv (b.run t).1 (b.run t).2).1.2
    exact ⟨⟨ha.trans hu, hb.trans hv⟩, .inr ⟨s, x, he.trans hu, he'.trans hv⟩⟩

def forking (e e' : Expr) : Departure e.info.id where
  rel := Forks e e'
  same h t := ⟨⟨(h t).1, (h t).1⟩, .inl ⟨rfl, (h t).2⟩⟩
  bind := Forks.bind

theorem forks_self (e e' : Expr) (x : Expected) : Forks e e' (expr e x) (expr e' x) := fun t =>
  ⟨⟨extends_expr e x t, extends_expr e' x t⟩, .inr ⟨t, x, .refl _, .refl _⟩⟩

end

end Infer

namespace Typing

variable {picks : Int → Bool}

theorem declaring_mergeChains (fs : List Function) :
    declaring (fs.map (Function.mergeChains picks)) = declaring fs := by
  rw [declaring, List.foldl_map]
  rfl

theorem exists_fork {m : Module} {e : Expr} (hnodes : (Node.module m).Throughout fun v =>
      v = .expr e ∨ v.Bystander picks e.info.id)
    (hknown : ((ofModule m).exprType? e.info.id).isSome) :
    ∃ s x, Infer.Extends ((Infer.expr e x).run s).2 (ofModule m) ∧
      Infer.Extends ((Infer.expr (e.mergeChains picks) x).run s).2 (ofModule (m.mergeChains picks)) := by
  let L := Infer.forking e (e.mergeChains picks)
  have hcovers : (Node.module m).Throughout (L.Covers picks) := by
    intro v hv
    rcases hnodes v hv with rfl | hother
    · exact .inr ⟨e, rfl, Infer.forks_self e _⟩
    · exact .inl hother
  have hforks : Infer.Forks e (e.mergeChains picks) _ _ :=
    Infer.departs_functions (L := L) m.functions hcovers.children
  obtain ⟨-, ⟨-, hquiet⟩ | ⟨s, x, he, he'⟩⟩ := hforks (declaring m.functions)
  · have hquiet : (ofModule m).exprType? e.info.id = (declaring m.functions).exprType? e.info.id :=
      hquiet
    rw [hquiet, exprType?, (declaring_empty m.functions).1] at hknown
    cases hknown
  · refine ⟨s, x, he, ?_⟩
    have hmerged : ofModule (m.mergeChains picks) =
        ((Infer.functions (m.functions.map (Function.mergeChains picks))).run
          (declaring (m.functions.map (Function.mergeChains picks)))).2 := rfl
    rw [hmerged, declaring_mergeChains]
    exact he'

end Typing

end ChainLint
