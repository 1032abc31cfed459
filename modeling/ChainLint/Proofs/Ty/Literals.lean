import ChainLint.Proofs.Ty.Namesakes
import ChainLint.Proofs.Ty.Pooling
import ChainLint.Proofs.Ty.Entries

namespace ChainLint

open Tree

namespace Infer

def Fits (W : Ty → Prop) (ty : Ty) : Expr → Prop
  | .int _ _ suffix => ∃ x : Expected, x.NamesakesIn W ∧ ty = intType suffix x
  | _ => True

structure Within (root : Node) (W : Ty → Prop) (n : Node) : Prop where
  mem : n ∈ root.preorder
  written : ∀ v ∈ n.preorder, ∀ t ∈ v.writtenTypes, (Ty.ofExpr t).NamesakesIn W

theorem Within.children {root n : Node} {W : Ty → Prop} (h : Within root W n) :
    ∀ c ∈ n.children, Within root W c := by
  refine fun c hc => ⟨?_, fun v hv => h.written v (Node.mem_preorder_of_child hc hv)⟩
  exact Node.mem_preorder_trans (Node.mem_preorder_of_child hc c.mem_preorder_self) h.mem

theorem Within.self {root n : Node} {W : Ty → Prop} (h : Within root W n) :
    ∀ t ∈ n.writtenTypes, (Ty.ofExpr t).NamesakesIn W :=
  h.written n n.mem_preorder_self

structure Clean (root : Node) (W : Ty → Prop) (t : Typing) : Prop where
  bindings : ∀ b ∈ t.bindings, b.2.NamesakesIn W
  functions : ∀ f ∈ t.functions, f.2.NamesakesIn W
  exprs : ∀ a ∈ t.exprs, ∃ e, .expr e ∈ root.preorder ∧ e.info.id = a.1 ∧ Fits W a.2 e

def Yields {α : Type} (root : Node) (W : Ty → Prop) (a : Infer α) (Q : α → Prop) : Prop :=
  ∀ t, Clean root W t → Clean root W (a.run t).2 ∧ Q (a.run t).1

section

variable {root : Node} {W : Ty → Prop} {α β : Type} {a : Infer α} {Q : α → Prop} {R : β → Prop}

theorem Yields.pure {x : α} (h : Q x) : Yields root W (pure x) Q :=
  fun _ ht => ⟨ht, h⟩

theorem Yields.bind {u : α → Infer β} (h : Yields root W a Q)
    (hu : ∀ x, Q x → Yields root W (u x) R) : Yields root W (a >>= u) R := by
  intro t ht
  obtain ⟨hclean, hx⟩ := h t ht
  exact hu _ hx _ hclean

theorem Yields.map {u : α → β} (h : Yields root W a Q) (hu : ∀ x, Q x → R (u x)) :
    Yields root W (a >>= fun x => Pure.pure (u x)) R :=
  h.bind fun x hx => .pure (hu x hx)

theorem yields_record {e : Expr} (he : Within root W (.expr e)) {ty : Ty} (h : ty.NamesakesIn W)
    (hfits : Fits W ty e) : Yields root W (record e ty) (·.NamesakesIn W) :=
  fun _ ht => ⟨⟨ht.bindings, ht.functions, List.forall_mem_cons.mpr ⟨⟨e, he.mem, rfl, hfits⟩, ht.exprs⟩⟩, h⟩

theorem yields_longField (b : Bool) :
    Yields root W (modify fun t : Typing => { t with longField := t.longField || b }) fun _ => True :=
  fun _ ht => ⟨⟨ht.bindings, ht.functions, ht.exprs⟩, trivial⟩

theorem namesakesIn_lookup {κ : Type} [BEq κ] [LawfulBEq κ] {l : List (κ × Ty)}
    (h : ∀ b ∈ l, b.2.NamesakesIn W) (k : κ) : ((l.lookup k).getD .unknown).NamesakesIn W := by
  cases hk : l.lookup k with
  | none => trivial
  | some ty => exact h _ (mem_of_lookup hk)

theorem Clean.namesakesIn_varType {t : Typing} (ht : Clean root W t) {x : Expected}
    (hx : x.NamesakesIn W) (name : String) (binding : Option NodeId) :
    (varType t name binding x).NamesakesIn W := by
  cases binding with
  | some b => exact namesakesIn_lookup ht.bindings b
  | none =>
      rw [varType]
      split
      · split
        · next inner hinner =>
            have h := hx.type? hinner
            exact h
        · trivial
      · exact namesakesIn_lookup ht.functions name

theorem yields_var {i : Info} {name : String} {binding : Option NodeId}
    (he : Within root W (.expr (.var i name binding))) {x : Expected} (hx : x.NamesakesIn W) :
    Yields root W (expr (.var i name binding) x) (·.NamesakesIn W) := by
  intro t ht
  exact yields_record he (ht.namesakesIn_varType hx name binding) trivial t ht

end

section

variable {root : Node} {W : Ty → Prop}

mutual

theorem yields_bind : (p : Pat) → {ty : Ty} → ty.NamesakesIn W →
    Yields root W (bind p ty) fun _ => True
  | .binding _ _ _, _, h => fun _ ht =>
      ⟨⟨List.forall_mem_cons.mpr ⟨h, ht.bindings⟩, ht.functions, ht.exprs⟩, trivial⟩
  | .wild _, _, _ => .pure trivial
  | .tuple _ elems, _, h => yields_bindAll elems (namesakesIn_partTypes h elems.length)

theorem yields_bindAll : (ps : List Pat) → {tys : List Ty} → (∀ t ∈ tys, t.NamesakesIn W) →
    Yields root W (bindAll ps tys) fun _ => True
  | [], _, _ | _ :: _, [], _ => .pure trivial
  | p :: ps, _ :: _, h => by
      obtain ⟨hty, htys⟩ := List.forall_mem_cons.mp h
      exact (yields_bind p hty).bind fun _ _ => yields_bindAll ps htys

end

theorem namesakesIn_declared {p : Param} (h : Within root W (.param p)) :
    (Ty.declared p.declared).NamesakesIn W := by
  have hp := h.self
  rw [Node.writtenTypes] at hp
  cases hdeclared : p.declared with
  | none => trivial
  | some t =>
      rw [hdeclared] at hp
      exact hp t List.mem_cons_self

theorem yields_closureParams : (ps : List Param) → (∀ c ∈ ps.map Node.param, Within root W c) →
    {hints : List Ty} → (∀ t ∈ hints, t.NamesakesIn W) →
    Yields root W (closureParams ps hints) fun tys => ∀ t ∈ tys, t.NamesakesIn W
  | [], _, _, _ => .pure (List.forall_mem_nil _)
  | p :: ps, h, hints, hhints => by
      obtain ⟨hp, hps⟩ := List.forall_mem_cons.mp h
      have htail : ∀ t ∈ hints.tail, t.NamesakesIn W := fun t ht => hhints t (List.mem_of_mem_tail ht)
      have hparam {ty : Ty} (hty : ty.NamesakesIn W) :
          Yields root W (bind p.pattern ty >>= fun _ => closureParams ps hints.tail >>= fun tys =>
            pure (ty :: tys)) fun tys => ∀ t ∈ tys, t.NamesakesIn W :=
        (yields_bind p.pattern hty).bind fun _ _ => (yields_closureParams ps hps htail).map
          fun _ htys => List.forall_mem_cons.mpr ⟨hty, htys⟩
      have hdeclared := namesakesIn_declared hp
      rw [closureParams]
      cases heq : p.declared with
      | none => exact hparam (CallRule.namesakesIn_headD hhints)
      | some t =>
          rw [heq] at hdeclared
          exact hparam hdeclared

def Hints (W : Ty → Prop) (first : List (Option Expected)) (others : Option Expected) : Prop :=
  (∀ x, some x ∈ first → x.NamesakesIn W) ∧ ∀ x, others = some x → x.NamesakesIn W

theorem Hints.any : Hints W [] (some .nothing) := by
  refine ⟨fun _ hx => ?_, fun _ hx => ?_⟩
  · cases hx
  · cases hx
    trivial

mutual

theorem yields_expr : (e : Expr) → Within root W (.expr e) → {x : Expected} → x.NamesakesIn W →
    Yields root W (expr e x) (·.NamesakesIn W)
  | .int _ _ suffix, he, x, hx => yields_record he (namesakesIn_intType hx suffix) ⟨x, hx, rfl⟩
  | .float _ _ suffix, he, _, _ => yields_record he (namesakesIn_floatType suffix) trivial
  | .string .., he, _, _ | .bool .., he, _, _ | .brk _, he, _, _ | .cont _, he, _, _ =>
      yields_record he trivial trivial
  | .var _ _ _, he, _, hx => yields_var he hx
  | .call i callee args, he, x, hx => by
      obtain ⟨hcallee, hargs⟩ := List.forall_mem_cons.mp he.children
      rw [expr]
      cases hrule : pathRule? callee args.length x with
      | some rule =>
          have hr := ifAny_pathRule? hx callee args.length rule hrule
          exact (yields_exprs args hargs ⟨hr.first, hr.others⟩).bind fun tys htys =>
            yields_record he (hr.result tys htys) trivial
      | none =>
          refine (yields_expr callee hcallee .nothing).bind fun ty hty => ?_
          have hr := CallRule.namesakesIn_ofCallee hty
          exact (yields_exprs args hargs ⟨hr.first, hr.others⟩).bind fun tys htys =>
            yields_record he (hr.result tys htys) trivial
  | .methodCall i receiver name s args, he, _, _ => by
      obtain ⟨hreceiver, hargs⟩ := List.forall_mem_cons.mp he.children
      refine (yields_expr receiver hreceiver .nothing).bind fun ty hty => ?_
      have hr := CallRule.namesakesIn_ofMethod hty.peel name args.length
      exact (yields_exprs args hargs ⟨hr.first, hr.others⟩).bind fun tys htys =>
        yields_record he (hr.result tys htys) trivial
  | .field i subject name, he, _, _ => by
      have hsubject := he.children _ List.mem_cons_self
      exact (yields_expr subject hsubject .nothing).bind fun ty hty =>
        (yields_longField _).bind fun _ _ =>
          yields_record he (namesakesIn_fieldType hty.peel name) trivial
  | .index i subject position, he, _, _ => by
      obtain ⟨hsubject, hposition⟩ := List.forall_mem_cons.mp he.children
      exact (yields_expr subject hsubject .nothing).bind fun ty hty =>
        (yields_expr position (hposition _ List.mem_cons_self) .nothing).bind
          fun place _ => yields_record he (namesakesIn_indexType hty.peel place) trivial
  | .unary i op operand, he, _, _ => by
      have hoperand := he.children _ List.mem_cons_self
      exact (yields_expr operand hoperand .nothing).bind fun ty hty =>
        yields_record he (namesakesIn_unaryType hty op) trivial
  | .binary i op left right, he, _, _ => by
      obtain ⟨hleft, hright⟩ := List.forall_mem_cons.mp he.children
      refine (yields_expr left hleft .nothing).bind fun ty hty => ?_
      refine (yields_expr right (hright _ List.mem_cons_self) (x := .type ty) hty).bind fun _ _ => ?_
      exact yields_record he (.ite trivial hty) trivial
  | .range i lower upper, he, _, _ => by
      have hparts := he.children
      rw [Node.children, Expr.children, List.map_append] at hparts
      obtain ⟨hlower, hupper⟩ := List.forall_mem_append.mp hparts
      refine (yields_optional lower hlower).bind fun a ha =>
        (yields_optional upper hupper).bind fun b hb => yields_record he ?_ trivial
      change ((a <|> b).getD .unknown).NamesakesIn W
      cases a with
      | some ty => exact ha ty rfl
      | none =>
          cases b with
          | some ty => exact hb ty rfl
          | none => trivial
  | .array i elems, he, _, _ =>
      (yields_exprs elems he.children .any).bind
        fun tys htys => yields_record he (CallRule.namesakesIn_headD htys) trivial
  | .tuple i elems, he, x, hx =>
      (yields_exprs elems he.children
        ⟨namesakesIn_elemHints hx elems.length, Hints.any.2⟩).bind
        fun tys htys => yields_record he
          (Ty.namesakesIn_ofElems (Ty.allNamesakesIn_iff.mpr htys)) trivial
  | .closure i ps body isMove, he, x, hx => by
      obtain ⟨hps, hbody⟩ := List.forall_mem_append.mp he.children
      exact (yields_closureParams ps hps hx.params).bind fun tys htys =>
        (yields_expr body (hbody _ List.mem_cons_self) .nothing).bind fun ty hty =>
          yields_record he ⟨Ty.allNamesakesIn_iff.mpr htys, hty⟩ trivial
  | .macroCall i name args, he, _, _ =>
      (yields_exprs args he.children .any).bind
        fun tys htys => yields_record he (CallRule.namesakesIn_macroResult name htys) trivial
  | .block i body, he, x, hx =>
      (yields_block body (he.children _ List.mem_cons_self) hx.forValue).bind fun ty hty =>
        yields_record he hty trivial
  | .cond i test yes no, he, x, hx => by
      obtain ⟨htest, hrest⟩ := List.forall_mem_cons.mp he.children
      obtain ⟨hyes, hno⟩ := List.forall_mem_cons.mp hrest
      exact (yields_expr test htest .nothing).bind fun _ _ =>
        (yields_block yes hyes hx.forValue).bind fun ty hty =>
          (yields_otherwise no hno hty).bind fun ty' hty' => yields_record he hty' trivial
  | .whileLoop i test body, he, _, _ => by
      obtain ⟨htest, hbody⟩ := List.forall_mem_cons.mp he.children
      exact (yields_expr test htest .nothing).bind fun _ _ =>
        (yields_block body (hbody _ List.mem_cons_self) .nothing).bind fun _ _ =>
          yields_record he trivial trivial
  | .loop i body, he, _, _ =>
      (yields_block body (he.children _ List.mem_cons_self) .nothing).bind
        fun _ _ => yields_record he trivial trivial
  | .forLoop i p iterable body, he, _, _ => by
      obtain ⟨hp, hrest⟩ := List.forall_mem_cons.mp he.children
      obtain ⟨hiterable, hbody⟩ := List.forall_mem_cons.mp hrest
      exact (yields_expr iterable hiterable .nothing).bind fun ty hty =>
        (yields_bind p (namesakesIn_iteratedType hty)).bind fun _ _ =>
          (yields_block body (hbody _ List.mem_cons_self) .nothing).bind fun _ _ =>
            yields_record he trivial trivial
  | .ret i value, he, _, _ =>
      (yields_optional value he.children).bind fun _ _ => yields_record he trivial trivial

theorem yields_exprs : (es : List Expr) → (∀ c ∈ es.map Node.expr, Within root W c) →
    {first : List (Option Expected)} → {others : Option Expected} → Hints W first others →
    Yields root W (exprs es first others) fun tys => ∀ t ∈ tys, t.NamesakesIn W
  | [], _, _, _, _ => .pure (List.forall_mem_nil _)
  | e :: es, h, first, others, hhints => by
      obtain ⟨he, hes⟩ := List.forall_mem_cons.mp h
      have htail : Hints W first.tail others :=
        ⟨fun x hx => hhints.1 x (List.mem_of_mem_tail hx), hhints.2⟩
      have hrest := yields_exprs es hes htail
      have hcons (ty : Ty) (hty : ty.NamesakesIn W) :
          Yields root W (exprs es first.tail others >>= fun tys => pure (ty :: tys))
            fun tys => ∀ t ∈ tys, t.NamesakesIn W :=
        hrest.map fun _ htys => List.forall_mem_cons.mpr ⟨hty, htys⟩
      rw [exprs]
      cases hhead : first.headD others with
      | none => exact (Yields.pure (Q := (·.NamesakesIn W)) trivial).bind hcons
      | some x =>
          have hx : x.NamesakesIn W := by
            cases first with
            | nil => exact hhints.2 x hhead
            | cons y ys =>
                cases hhead
                exact hhints.1 x List.mem_cons_self
          exact (yields_expr e he hx).bind hcons

theorem yields_optional : (o : Option Expr) → (∀ c ∈ o.toList.map Node.expr, Within root W c) →
    Yields root W (optional o) fun ty => ∀ t, ty = some t → t.NamesakesIn W
  | none, _ => .pure nofun
  | some e, h => by
      refine (yields_expr e (h _ List.mem_cons_self) .nothing).map fun ty hty => ?_
      intro t ht
      cases ht
      exact hty

theorem yields_otherwise : (o : Option Expr) → (∀ c ∈ o.toList.map Node.expr, Within root W c) →
    {ty : Ty} → ty.NamesakesIn W → Yields root W (otherwise o ty) (·.NamesakesIn W)
  | none, _, _, _ => .pure trivial
  | some e, h, ty, hty => (yields_expr e (h _ List.mem_cons_self) (x := .type ty) hty).map fun _ _ => hty

theorem yields_initializer : (o : Option Expr) →
    (∀ c ∈ o.toList.map Node.expr, Within root W c) → {declared : Option Ty} →
    (∀ t, declared = some t → t.NamesakesIn W) →
    Yields root W (initializer o declared) (·.NamesakesIn W)
  | none, _, none, _ => .pure trivial
  | none, _, some t, h => .pure (h t rfl)
  | some e, he, none, _ => (yields_expr e (he _ List.mem_cons_self) .nothing).map
      fun _ hty => hty
  | some e, he, some t, h => (yields_expr e (he _ List.mem_cons_self) (x := .type t) (h t rfl)).map
      fun _ _ => h t rfl

theorem yields_stmts : (ss : List Stmt) → (∀ c ∈ ss.map Node.stmt, Within root W c) →
    Yields root W (stmts ss) fun _ => True
  | [], _ => .pure trivial
  | .expr _ value :: ss, h => by
      obtain ⟨hs, hss⟩ := List.forall_mem_cons.mp h
      exact (yields_expr value (hs.children _ List.mem_cons_self) .nothing).bind
        fun _ _ => yields_stmts ss hss
  | .letIn _ p declared value :: ss, h => by
      obtain ⟨hs, hss⟩ := List.forall_mem_cons.mp h
      obtain ⟨-, hvalue⟩ := List.forall_mem_cons.mp hs.children
      have hdeclared : ∀ ty, declared.map Ty.ofExpr = some ty → ty.NamesakesIn W := by
        intro ty hty
        obtain ⟨t, rfl, rfl⟩ := Option.map_eq_some_iff.mp hty
        exact hs.self t List.mem_cons_self
      exact (yields_initializer value hvalue hdeclared).bind fun ty hty =>
        (yields_bind p hty).bind fun _ _ => yields_stmts ss hss

theorem yields_block : (b : Block) → Within root W (.block b) → {x : Expected} →
    x.NamesakesIn W → Yields root W (block b x) (·.NamesakesIn W)
  | .mk _ ss none, hb, _, _ => by
      obtain ⟨hss, -⟩ := List.forall_mem_append.mp hb.children
      exact (yields_stmts ss hss).map fun _ _ => trivial
  | .mk _ ss (some tail), hb, _, hx => by
      obtain ⟨hss, htail⟩ := List.forall_mem_append.mp hb.children
      exact (yields_stmts ss hss).bind fun _ _ => yields_expr tail (htail _ List.mem_cons_self) hx

end

theorem yields_params : (ps : List Param) → (∀ c ∈ ps.map Node.param, Within root W c) →
    Yields root W (params ps) fun _ => True
  | [], _ => .pure trivial
  | p :: ps, h => by
      obtain ⟨hp, hps⟩ := List.forall_mem_cons.mp h
      exact (yields_bind p.pattern (namesakesIn_declared hp)).bind fun _ _ => yields_params ps hps

theorem yields_functions : (fs : List Function) → (∀ c ∈ fs.map Node.function, Within root W c) →
    Yields root W (functions fs) fun _ => True
  | [], _ => .pure trivial
  | f :: fs, h => by
      obtain ⟨hf, hfs⟩ := List.forall_mem_cons.mp h
      obtain ⟨hps, hbody⟩ := List.forall_mem_append.mp hf.children
      exact (yields_params f.params hps).bind fun _ _ =>
        (yields_block f.body (hbody _ List.mem_cons_self) .nothing).bind fun _ _ =>
          yields_functions fs hfs

theorem namesakesIn_functionType {f : Function} (h : Within root W (.function f)) :
    f.type.NamesakesIn W := by
  obtain ⟨hps, -⟩ := List.forall_mem_append.mp h.children
  constructor
  · refine Ty.allNamesakesIn_iff.mpr fun t ht => ?_
    obtain ⟨p, hp, rfl⟩ := List.mem_map.mp ht
    exact namesakesIn_declared (hps _ (List.mem_map_of_mem hp))
  · have hresult := h.self
    rw [Node.writtenTypes] at hresult
    cases heq : f.result with
    | none => trivial
    | some t =>
        rw [heq] at hresult
        exact hresult t List.mem_cons_self

theorem clean_declaring {fs : List Function} (h : ∀ c ∈ fs.map Node.function, Within root W c) :
    Clean root W (Typing.declaring fs) := by
  obtain ⟨hexprs, hbindings⟩ := Typing.declaring_empty fs
  refine ⟨hbindings ▸ List.forall_mem_nil _, ?_, hexprs ▸ List.forall_mem_nil _⟩
  have hall : ∀ t : Typing, (∀ f ∈ t.functions, f.2.NamesakesIn W) →
      ∀ f ∈ (fs.foldl (fun t h => t.setFunction h.name h.type) t).functions, f.2.NamesakesIn W := by
    clear hexprs hbindings
    induction fs with
    | nil => exact fun _ ht => ht
    | cons f fs ih =>
        obtain ⟨hf, hfs⟩ := List.forall_mem_cons.mp h
        intro t ht
        refine ih hfs _ (List.forall_mem_cons.mpr ⟨namesakesIn_functionType hf, fun g hg => ?_⟩)
        exact ht g (List.mem_filter.mp hg).1
  exact hall {} (List.forall_mem_nil _)

end

end Infer

theorem Typing.clean_ofModule {m : Module} {W : Ty → Prop}
    (h : ∀ t ∈ (Node.module m).typeParts, t.IsNamesake → W (Ty.ofExpr t)) :
    Infer.Clean (.module m) W (ofModule m) := by
  have hwithin : Infer.Within (.module m) W (.module m) := by
    refine ⟨Node.mem_preorder_self _, fun v hv t ht => Ty.namesakesIn_ofExpr t fun u hu hnamesake => ?_⟩
    have hpart : u ∈ (Node.module m).typeParts :=
      List.mem_flatMap.mpr ⟨v, hv, List.mem_flatMap.mpr ⟨t, ht, hu⟩⟩
    exact h u hpart hnamesake
  exact (Infer.yields_functions m.functions hwithin.children _
    (Infer.clean_declaring hwithin.children)).1

def Tree.Node.integer? : Node → Option (Info × Nat × Option String)
  | .expr (.int i value suffix) => some (i, value, suffix)
  | _ => none

theorem Tree.Node.eq_of_integer? {n : Node} {i : Info} {value : Nat} {suffix : Option String}
    (h : n.integer? = some (i, value, suffix)) : n = .expr (.int i value suffix) := by
  cases n with
  | expr e =>
      cases e with
      | int i' value' suffix' =>
          cases h
          rfl
      | _ => cases h
  | _ => cases h

namespace Analysis

theorem exists_intType (m : Module) {W : Ty → Prop}
    (h : ∀ t ∈ (Node.module (ofModule m).module).typeParts, t.IsNamesake → W (Ty.ofExpr t))
    {i : Info} {value : Nat} {suffix : Option String} {ty : Ty}
    (he : .expr (.int i value suffix) ∈ (Node.module (ofModule m).module).preorder)
    (hty : (ofModule m).typing.exprType? i.id = some ty) :
    ∃ x : Expected, x.NamesakesIn W ∧ ty = Infer.intType suffix x := by
  have hclean : Infer.Clean _ W (ofModule m).typing := Typing.clean_ofModule h
  obtain ⟨e, hmem, hid, hfits⟩ := hclean.exprs _ (mem_of_lookup hty)
  have heq : Node.expr e = .expr (.int i value suffix) :=
    List.inj_on_of_nodup_map (ids_nodup m) hmem he hid
  cases heq
  exact hfits

section

variable {file : Option String} {text : List Char} {x : Expansions} {m : Module}

/-- An integer literal of a text that was read has an integer's type, its suffix if it has one. Only
where the text writes a type that has the name of an integer and arguments can it have that one. -/
theorem literal_type (h : (Module.ofText file text x).1 = .ok m) {i : Info} {value : Nat}
    {suffix : Option String} {ty : Ty}
    (he : .expr (.int i value suffix) ∈ (Node.module (ofModule m).module).preorder)
    (hty : (ofModule m).typing.exprType? i.id = some ty) :
    (∃ s : Scalar, s.isInteger = true ∧ ty = .scalar s ∧ ∀ name, suffix = some name → s.name = name) ∨
      suffix = none ∧ ∃ name args span,
        .mk name args span ∈ (Node.module (ofModule m).module).typeParts ∧
        isIntegerName name = true ∧ args ≠ [] ∧ ty = .adt name (Ty.ofExprs args) := by
  let W : Ty → Prop := fun u => ∃ t ∈ (Node.module (ofModule m).module).typeParts,
    t.IsNamesake ∧ u = Ty.ofExpr t
  obtain ⟨x, hx, rfl⟩ := exists_intType m (W := W) (fun t ht hnamesake => ⟨t, ht, hnamesake, rfl⟩) he hty
  cases suffix with
  | some name =>
      obtain ⟨_, _, hreads⟩ := Module.exists_reads h
      obtain ⟨s, hs, hinteger, hsame⟩ :=
        Scalar.of_isIntegerName (hreads.analysis.isIntegerName he)
      refine .inl ⟨s, hinteger, ?_, fun _ heq => ?_⟩
      · rw [Infer.intType, Option.bind_some, hs]
      · cases heq
        exact hsame
  | none =>
      rcases Infer.intType_of_expected hx with ⟨s, hs, hscalar⟩ |
        ⟨name, ts, hadt, t, ht, hnamesake, hwritten⟩
      · refine .inl ⟨s, hs, hscalar, fun _ heq => ?_⟩
        cases heq
      · cases t with
        | mk head args span =>
            rw [Ty.ofExpr_of_isNamesake hnamesake] at hwritten
            exact .inr ⟨rfl, head, args, span, ht, hnamesake.1, hnamesake.2, hadt.trans hwritten⟩

theorem exists_literal_type_of_let :
    let text := "fn f() \x7b let x: i32<u8> = 1; \x7d".toList
    ∃ m i value ty name args span, (Module.ofText none text .empty).1 = .ok m ∧
      .expr (.int i value none) ∈ (Node.module (ofModule m).module).preorder ∧
      (ofModule m).typing.exprType? i.id = some ty ∧
      .mk name args span ∈ (Node.module (ofModule m).module).typeParts ∧
      isIntegerName name = true ∧ args ≠ [] ∧ ty = .adt name (Ty.ofExprs args) := by
  intro text
  have hchecked : ((Module.ofText none text .empty).1.toOption.bind fun m =>
      (Node.module (ofModule m).module).preorder[5]?.bind fun n => n.integer?.bind fun literal =>
        ((ofModule m).typing.exprType? literal.1.id).map Ty.kind) = some .adt := by
    decide +kernel
  obtain ⟨m, hm, hchecked⟩ := Option.bind_eq_some_iff.mp hchecked
  obtain ⟨n, hn, hchecked⟩ := Option.bind_eq_some_iff.mp hchecked
  obtain ⟨⟨i, value, suffix⟩, hliteral, hchecked⟩ := Option.bind_eq_some_iff.mp hchecked
  obtain ⟨ty, hty, hkind⟩ := Option.map_eq_some_iff.mp hchecked
  have hm : (Module.ofText none text .empty).1 = .ok m := ok_of_toOption hm
  have he := List.mem_of_getElem? (Node.eq_of_integer? hliteral ▸ hn)
  rcases literal_type hm he hty with ⟨s, -, rfl, -⟩ | ⟨rfl, name, args, span, hnamesake⟩
  · cases hkind
  · exact ⟨m, i, value, ty, name, args, span, hm, he, hty, hnamesake⟩

end

end Analysis

end ChainLint
