import ChainLint.Proofs.Ty.Agreeing
import ChainLint.Proofs.Ty.Suffixes

namespace ChainLint

open Tree TypePool

namespace Pooled

section

variable {b : Basics} {unrolled : Bool} {p : TypePool}

theorem tracks_record (e : Expr) {id : TypeId} {ty : Ty} (h : p.Denotes id ty) :
    Tracks p (record e id) (Infer.record e ty) fun q id ty => q.Denotes id ty := by
  have hset : Tracks p (change (·.setExpr e.info.id id)) (modify (·.setExpr e.info.id ty))
      fun _ _ _ => True :=
    tracks_change fun _ _ hpt ht => ⟨.refl _, ht.pool, ht.exprs.cons e.info.id (h.mono hpt),
      ht.bindings, ht.functions, ht.longField⟩
  exact hset.bind fun _ _ _ hpq _ => finds_pure (h.mono hpq)

theorem Finds.record {a : Pooled TypeId} {ty : Ty} (h : Finds p a ty) (e : Expr) :
    Tracks p (a >>= record e) (Infer.record e ty) fun q id ty => q.Denotes id ty :=
  h.first fun _ _ _ hid => tracks_record e hid

structure Follows (b : Basics) (unrolled : Bool) (e : Expr) : Prop where
  typed : ∀ {p : TypePool} {hint : Option TypeId} {x : Expected}, b.Stand p → Hinted p hint x →
    Tracks p (expr b unrolled e hint) (Infer.expr e x) fun q id ty => q.Denotes id ty
  called : ∀ {p : TypePool} {ids : List TypeId} {tys : List Ty}, b.Stand p → p.DenoteAll ids tys →
    Tracks p (resultOf b unrolled e ids) (Infer.expr e (.callable tys)) fun q id ty =>
      q.Denotes id ty.callResult

theorem Follows.of {e : Expr} (h : ∀ {p : TypePool} {hint : Option TypeId} {x : Expected},
      b.Stand p → Hinted p hint x →
        Tracks p (expr b unrolled e hint) (Infer.expr e x) fun q id ty => q.Denotes id ty)
    (he : isClosure e = false := by rfl) : Follows b unrolled e := by
  refine ⟨h, fun {p ids tys} hb _ => ?_⟩
  have hsame : Infer.expr e (.callable tys) = Infer.expr e .nothing := by
    cases e with
    | closure => cases he
    | _ => rfl
  rw [hsame, resultOf_eq b unrolled he]
  exact (h hb .nothing).last fun _ _ _ hpq hid => finds_callResult (hb.mono hpq) hid

theorem tracks_closure (hb : b.Stand p) (ps : List Param) {body : Expr}
    (hbody : Follows b unrolled body) {ids : List TypeId} {tys : List Ty} (h : p.DenoteAll ids tys)
    (e : Expr) :
    Tracks p (closure b unrolled ps body ids >>= record e)
      (do
        let tys ← Infer.closureParams ps tys
        let result ← Infer.expr body .nothing
        Infer.record e (.closure tys result)) fun q id ty => q.Denotes id ty := by
  rw [closure]
  simp only [bind_assoc]
  refine (tracks_closureParams ps hb h).bind fun q is tys' hpq his => ?_
  refine (hbody.typed (hb.mono hpq) .nothing).bind fun r i ty hqr hi => ?_
  have hclosure : Finds r (enter (.closure is i)) (.closure tys' ty) :=
    finds_enter ⟨is, i, rfl, his.mono hqr, hi⟩
  exact hclosure.record e

theorem follows_closure (i : Info) (ps : List Param) {body : Expr} (isMove : Bool)
    (h : Follows b unrolled body) : Follows b unrolled (.closure i ps body isMove) := by
  constructor
  · intro p hint x hb hx
    rw [expr, Infer.expr]
    cases hx with
    | nothing => exact tracks_closure hb ps h denoteAll_nil _
    | type => exact tracks_closure hb ps h denoteAll_nil _
  · intro p ids tys hb hids
    rw [resultOf, Infer.expr, ← bind_assoc]
    exact (tracks_closure hb ps h hids (.closure i ps body isMove)).last fun _ _ _ hpq hid =>
      finds_callResult (hb.mono hpq) hid

theorem tracks_argument (hb : b.Stand p) {e : Expr} (he : Follows b unrolled e) {ask : Ask}
    {x : Expected} (h : Asks p (some ask) (some x)) :
    Tracks p (argument b unrolled e ask) (Infer.expr e x) fun q id ty =>
      Answers q (some ask) id ty := by
  cases h with
  | type h =>
      rw [argument]
      exact he.typed hb h
  | result h =>
      rw [argument]
      exact he.called hb h
  | nothing =>
      -- By numbers a closure is looked at as one that is called without arguments, which by types is the
      -- same as with nothing expected.
      rw [argument]
      have hany {q : TypePool} {id : TypeId} {ty : Ty} : Answers q (some .nothing) id ty := trivial
      cases hclosure : isClosure e with
      | false => exact (he.typed hb .nothing).weaken fun _ _ _ _ _ => hany
      | true =>
          have hsame : Infer.expr e (.callable []) = Infer.expr e .nothing := by
            cases e <;> rfl
          rw [← hsame]
          exact (he.called hb denoteAll_nil).weaken fun _ _ _ _ _ => hany

theorem finds_binary (hb : b.Stand p) (op : BinaryOp) {id : TypeId} {ty : Ty} (h : p.Denotes id ty) :
    Finds p (pure (operatorType b op id)) (if op.isLogical then .scalar .bool else ty) := by
  unfold operatorType
  split
  · exact finds_pure hb.bool
  · exact finds_pure h

mutual

theorem follows_expr : (e : Expr) → (Node.expr e).Suffixed → Follows b unrolled e
  | .int i value suffix, h => .of fun hb hx => by
      rw [expr, Infer.expr]
      exact (finds_intType hb (fun name => h _ name (Node.mem_preorder_self _)) hx).record _
  | .float i bits suffix, h => .of fun hb _ => by
      rw [expr, Infer.expr]
      exact (finds_floatType hb (fun name => h _ name (Node.mem_preorder_self _))).record _
  | .string i value, _ => .of fun hb _ => by
      rw [expr, Infer.expr]
      exact tracks_record _ hb.strRef
  | .bool i value, _ => .of fun hb _ => by
      rw [expr, Infer.expr]
      exact tracks_record _ hb.bool
  | .brk i, _ | .cont i, _ => .of fun hb _ => by
      rw [expr, Infer.expr]
      exact tracks_record _ hb.unknown
  | .var i name binding, _ => .of fun hb hx => by
      rw [expr, Infer.expr]
      exact (tracks_varType hb name binding hx).bind fun _ _ _ _ hid => tracks_record _ hid
  | .call i callee args, h => .of fun {p hint x} hb hx => by
      obtain ⟨hcallee, hargs⟩ := List.forall_mem_cons.mp h.children
      have hresult {q : TypePool} (hb : b.Stand q) {r : PooledRule} {r' : CallRule}
          (hr : Agrees q args.length r r') : Tracks q (do
            let ids ← exprs b unrolled args r.first r.others
            record (.call i callee args) (← r.result ids)) (do
            let tys ← Infer.exprs args r'.first r'.others
            Infer.record (.call i callee args) (r'.result tys)) fun q id ty => q.Denotes id ty :=
        (tracks_exprs args hargs hb hr.first hr.others).bind fun q ids tys hpq hids =>
          (hr.result q ids tys hpq hids.1 hids.2).record _
      rw [expr, Infer.expr]
      refine (tracks_pathRule? hb callee hx).first fun q rule? hpq hrule => ?_
      generalize Infer.pathRule? callee args.length x = rule' at hrule
      cases hrule with
      | some hrule => exact hresult (hb.mono hpq) hrule
      | none =>
          have hb := hb.mono hpq
          refine ((follows_expr callee hcallee).typed hb .nothing).bind fun r id ty hqr hid => ?_
          have hb := hb.mono hqr
          exact (tracks_ofCallee hb hid).first fun _ _ hrs hrule => hresult (hb.mono hrs) hrule
  | .methodCall i receiver name s args, h => .of fun {p hint x} hb _ => by
      obtain ⟨hreceiver, hargs⟩ := List.forall_mem_cons.mp h.children
      rw [expr, Infer.expr]
      refine ((follows_expr receiver hreceiver).typed hb .nothing).bind fun q id ty hpq hid => ?_
      refine (finds_peel hid).first fun r base hqr hbase => ?_
      have hb := hb.mono (hpq.trans hqr)
      refine (tracks_ofMethod hb name hbase).first fun s rule hrs hrule => ?_
      have hb := hb.mono hrs
      exact (tracks_exprs args hargs hb hrule.first hrule.others).bind fun q ids tys hpq hids =>
        (hrule.result q ids tys hpq hids.1 hids.2).record _
  | .field i subject name, h => .of fun {p hint x} hb _ => by
      have hsubject := follows_expr subject (h.children _ List.mem_cons_self)
      rw [expr, Infer.expr]
      refine (hsubject.typed hb .nothing).bind fun q id ty hpq hid => ?_
      refine (finds_peel hid).first fun r base hqr hbase => ?_
      have hb := hb.mono (hpq.trans hqr)
      exact (tracks_fieldType hb hbase name).bind fun _ _ _ _ hid => tracks_record _ hid
  | .index i subject position, h => .of fun {p hint x} hb _ => by
      obtain ⟨hsubject, hposition⟩ := List.forall_mem_cons.mp h.children
      have hposition := follows_expr position (hposition _ List.mem_cons_self)
      rw [expr, Infer.expr]
      refine ((follows_expr subject hsubject).typed hb .nothing).bind fun q id ty hpq hid => ?_
      refine (finds_peel hid).first fun r base hqr hbase => ?_
      have hb := hb.mono (hpq.trans hqr)
      refine (hposition.typed hb .nothing).bind fun s place placeTy hrs hplace => ?_
      exact (finds_indexType (hb.mono hrs) (hbase.mono hrs) hplace).record _
  | .unary i op operand, h => .of fun hb _ => by
      rw [expr, Infer.expr]
      exact ((follows_expr operand (h.children _ List.mem_cons_self)).typed hb .nothing).bind
        fun _ _ _ hpq hid => (finds_unaryType (hb.mono hpq) op hid).record _
  | .binary i op left right, h => .of fun {p hint x} hb _ => by
      obtain ⟨hleft, hright⟩ := List.forall_mem_cons.mp h.children
      have hright := follows_expr right (hright _ List.mem_cons_self)
      rw [expr_binary, Infer.expr]
      refine ((follows_expr left hleft).typed hb .nothing).bind fun q id ty hpq hid => ?_
      refine (hright.typed (hb.mono hpq) (.type hid)).bind fun r _ _ hqr _ => ?_
      exact (finds_binary (hb.mono (hpq.trans hqr)) op (hid.mono hqr)).record _
  | .range i lower upper, h => .of fun {p hint x} hb _ => by
      have hparts := h.children
      rw [Node.children, Expr.children, List.map_append] at hparts
      obtain ⟨hlower, hupper⟩ := List.forall_mem_append.mp hparts
      rw [expr, Infer.expr]
      refine (tracks_optional lower hlower hb).bind fun q o o' hpq ho => ?_
      refine (tracks_optional upper hupper (hb.mono hpq)).bind fun r u u' hqr hu => ?_
      have hbound : Option.Rel r.Denotes (o <|> u) (o' <|> u') := by
        cases ho with
        | none => exact hu
        | some ho => exact .some (ho.mono hqr)
      have hid := getD_of_rel hbound (hb.unknown.mono (hpq.trans hqr))
      have hrange : Finds r (enter (.range ((o <|> u).getD b.unknown)))
          (.range ((o' <|> u').getD .unknown)) := finds_enter ⟨_, rfl, hid⟩
      exact hrange.record _
  | .array i elems, h => .of fun {p hint x} hb _ => by
      rw [expr, Infer.expr]
      refine (tracks_exprs elems h.children hb .nil asks_free).bind fun q ids tys hpq hids => ?_
      have hids := hids.2.denoteAll (List.forall_mem_nil _)
      have harray : Finds q (enter (.array (ids.headD b.unknown))) (.array (tys.headD .unknown)) :=
        finds_enter ⟨_, rfl, hids.headD (hb.unknown.mono hpq)⟩
      exact harray.record _
  | .tuple i elems, h => .of fun {p hint x} hb hx => by
      rw [expr, Infer.expr]
      refine (tracks_elemAsks elems.length hx).first fun q asks hpq hasks => ?_
      refine (tracks_exprs elems h.children (hb.mono hpq) hasks.1 asks_free).bind
        fun r ids tys hqr hids => ?_
      have hids := hids.2.denoteAll hasks.2
      exact Finds.record (finds_enter (shows_ofElems hids) (by cases ids <;> nofun)) _
  | .closure i ps body isMove, h => by
      obtain ⟨-, hbody⟩ := List.forall_mem_append.mp h.children
      exact follows_closure i ps isMove (follows_expr body (hbody _ List.mem_cons_self))
  | .macroCall i name args, h => .of fun {p hint x} hb _ => by
      rw [expr, Infer.expr]
      refine (tracks_exprs args h.children hb .nil asks_free).bind fun q ids tys hpq hids => ?_
      have hids := hids.2.denoteAll (List.forall_mem_nil _)
      exact (finds_macroResult (hb.mono hpq) name hids).record _
  | .block i body, h => .of fun hb hx => by
      rw [expr, Infer.expr, hx.forValue]
      exact (tracks_block body (h.children _ List.mem_cons_self) hb hx).bind fun _ _ _ _ hid =>
        tracks_record _ hid
  | .cond i test yes no, h => .of fun {p hint x} hb hx => by
      obtain ⟨htest, hrest⟩ := List.forall_mem_cons.mp h.children
      obtain ⟨hyes, hno⟩ := List.forall_mem_cons.mp hrest
      rw [expr, Infer.expr, hx.forValue]
      refine ((follows_expr test htest).typed hb .nothing).bind fun q _ _ hpq _ => ?_
      have hb := hb.mono hpq
      refine (tracks_block yes hyes hb (hx.mono hpq)).bind fun r id ty hqr hid => ?_
      exact (tracks_otherwise no hno (hb.mono hqr) hid).bind fun _ _ _ _ hid => tracks_record _ hid
  | .whileLoop i test body, h => .of fun {p hint x} hb _ => by
      obtain ⟨htest, hbody⟩ := List.forall_mem_cons.mp h.children
      rw [expr, Infer.expr]
      refine ((follows_expr test htest).typed hb .nothing).bind fun q _ _ hpq _ => ?_
      have hb := hb.mono hpq
      exact (tracks_block body (hbody _ List.mem_cons_self) hb .nothing).bind fun _ _ _ hqr _ =>
        tracks_record _ (hb.unit.mono hqr)
  | .loop i body, h => .of fun hb _ => by
      rw [expr, Infer.expr]
      exact (tracks_block body (h.children _ List.mem_cons_self) hb .nothing).bind
        fun _ _ _ hpq _ => tracks_record _ (hb.unknown.mono hpq)
  | .forLoop i pat iterable body, h => .of fun {p hint x} hb _ => by
      obtain ⟨-, hrest⟩ := List.forall_mem_cons.mp h.children
      obtain ⟨hiterable, hbody⟩ := List.forall_mem_cons.mp hrest
      rw [expr, Infer.expr]
      refine ((follows_expr iterable hiterable).typed hb .nothing).bind fun q id ty hpq hid => ?_
      have hb := hb.mono hpq
      refine (finds_iteratedType hb hid).first fun r elem hqr helem => ?_
      have hb := hb.mono hqr
      refine (tracks_bind pat hb helem).bind fun s _ _ hrs _ => ?_
      have hb := hb.mono hrs
      exact (tracks_block body (hbody _ List.mem_cons_self) hb .nothing).bind fun _ _ _ hst _ =>
        tracks_record _ (hb.unit.mono hst)
  | .ret i value, h => .of fun hb _ => by
      rw [expr, Infer.expr]
      exact (tracks_optional value h.children hb).bind fun _ _ _ hpq _ =>
        tracks_record _ (hb.unknown.mono hpq)

theorem tracks_exprs : (es : List Expr) → (∀ c ∈ es.map Node.expr, c.Suffixed) →
    {p : TypePool} → b.Stand p → {first : List (Option Ask)} → {others : Option Ask} →
    {first' : List (Option Expected)} → {others' : Option Expected} →
    List.Forall₂ (Asks p) first first' → Asks p others others' →
    Tracks p (exprs b unrolled es first others) (Infer.exprs es first' others') fun q ids tys =>
      ids.length = es.length ∧ AnswerAll q first others ids tys
  | [], _, _, _, _, _, _, _, _, _ => by
      rw [exprs, Infer.exprs]
      exact .pure fun _ _ => ⟨rfl, .nil⟩
  | e :: es, h, p, hb, first, others, first', others', hfirst, hothers => by
      obtain ⟨he, hes⟩ := List.forall_mem_cons.mp h
      have hask : Asks p (first.headD others) (first'.headD others') := by
        cases hfirst with
        | nil => exact hothers
        | cons h _ => exact h
      have htail : List.Forall₂ (Asks p) first.tail first'.tail := by
        cases hfirst with
        | nil => exact .nil
        | cons _ h => exact h
      have hrest {q : TypePool} (hpq : p.Extends q) {id : TypeId} {ty : Ty}
          (hid : Answers q (first.headD others) id ty) : Tracks q (do
            let ids ← exprs b unrolled es first.tail others
            return id :: ids) (do
            let tys ← Infer.exprs es first'.tail others'
            return ty :: tys) fun q ids tys =>
              ids.length = (e :: es).length ∧ AnswerAll q first others ids tys :=
        (tracks_exprs es hes (hb.mono hpq) (htail.imp fun _ _ h => h.mono hpq)
          (hothers.mono hpq)).bind fun r ids tys hqr hids => .pure fun s hrs =>
            ⟨congrArg Nat.succ hids.1, .cons (hid.mono (hqr.trans hrs)) (hids.2.mono hrs)⟩
      rw [exprs, Infer.exprs]
      generalize first.headD others = ask at hask hrest
      generalize first'.headD others' = x at hask
      cases ask with
      | none =>
          cases hask
          exact hrest (.refl p) trivial
      | some ask =>
          cases x with
          | none => cases hask
          | some x =>
              exact (tracks_argument hb (follows_expr e he) hask).bind fun _ _ _ hpq hid =>
                hrest hpq hid

theorem tracks_optional : (o : Option Expr) → (∀ c ∈ o.toList.map Node.expr, c.Suffixed) →
    {p : TypePool} → b.Stand p →
    Tracks p (optional b unrolled o) (Infer.optional o) fun q o o' => Option.Rel q.Denotes o o'
  | none, _, _, _ => by
      rw [optional, Infer.optional]
      exact .pure fun _ _ => .none
  | some e, h, _, hb => by
      rw [optional, Infer.optional]
      exact ((follows_expr e (h _ List.mem_cons_self)).typed hb .nothing).bind fun _ _ _ _ hid =>
        .pure fun _ hqr => .some (hid.mono hqr)

theorem tracks_otherwise : (o : Option Expr) → (∀ c ∈ o.toList.map Node.expr, c.Suffixed) →
    {p : TypePool} → b.Stand p → {id : TypeId} → {ty : Ty} → p.Denotes id ty →
    Tracks p (otherwise b unrolled o id) (Infer.otherwise o ty) fun q id ty => q.Denotes id ty
  | none, _, _, hb, _, _, _ => by
      rw [otherwise, Infer.otherwise]
      exact finds_pure hb.unit
  | some e, h, _, hb, _, _, hid => by
      rw [otherwise, Infer.otherwise]
      exact ((follows_expr e (h _ List.mem_cons_self)).typed hb (.type hid)).bind fun _ _ _ hpq _ =>
        finds_pure (hid.mono hpq)

theorem tracks_initializer : (o : Option Expr) → (∀ c ∈ o.toList.map Node.expr, c.Suffixed) →
    {p : TypePool} → b.Stand p → {declared : Option TypeId} → {declared' : Option Ty} →
    Option.Rel p.Denotes declared declared' →
    Tracks p (initializer b unrolled o declared) (Infer.initializer o declared') fun q id ty =>
      q.Denotes id ty
  | none, _, _, hb, _, _, hdeclared => by
      rw [initializer, Infer.initializer]
      exact finds_pure (getD_of_rel hdeclared hb.unknown)
  | some e, h, p, hb, declared, declared', hdeclared => by
      have he : Follows b unrolled e := follows_expr e (h _ List.mem_cons_self)
      rw [initializer]
      cases hdeclared with
      | none =>
          rw [Infer.initializer]
          exact (he.typed hb .nothing).bind fun _ _ _ _ hid => finds_pure hid
      | some hdeclared =>
          rw [Infer.initializer]
          exact (he.typed hb (.type hdeclared)).bind fun _ _ _ hpq _ =>
            finds_pure (hdeclared.mono hpq)

theorem tracks_stmts : (ss : List Stmt) → (∀ c ∈ ss.map Node.stmt, c.Suffixed) →
    {p : TypePool} → b.Stand p → Tracks p (stmts b unrolled ss) (Infer.stmts ss) fun _ _ _ => True
  | [], _, _, _ => by
      rw [stmts, Infer.stmts]
      exact .pure fun _ _ => trivial
  | .expr _ value :: ss, h, _, hb => by
      obtain ⟨hs, hss⟩ := List.forall_mem_cons.mp h
      have hvalue : Follows b unrolled value := follows_expr value (hs.children _ List.mem_cons_self)
      rw [stmts, Infer.stmts]
      exact (hvalue.typed hb .nothing).bind fun _ _ _ hpq _ => tracks_stmts ss hss (hb.mono hpq)
  | .letIn _ pat declared value :: ss, h, p, hb => by
      obtain ⟨hs, hss⟩ := List.forall_mem_cons.mp h
      obtain ⟨-, hvalue⟩ := List.forall_mem_cons.mp hs.children
      rw [stmts, Infer.stmts]
      refine (tracks_ofDeclared hb declared).first fun q o hpq ho => ?_
      have hb := hb.mono hpq
      refine (tracks_initializer value hvalue hb ho).bind fun r id ty hqr hid => ?_
      have hb := hb.mono hqr
      exact (tracks_bind pat hb hid).bind fun _ _ _ hrs _ => tracks_stmts ss hss (hb.mono hrs)

theorem tracks_block : (body : Block) → (Node.block body).Suffixed → {p : TypePool} → b.Stand p →
    {hint : Option TypeId} → {x : Expected} → Hinted p hint x →
    Tracks p (block b unrolled body hint) (Infer.block body x) fun q id ty => q.Denotes id ty
  | .mk _ ss none, h, _, hb, _, _, _ => by
      obtain ⟨hss, -⟩ := List.forall_mem_append.mp h.children
      rw [block, Infer.block]
      exact (tracks_stmts ss hss hb).bind fun _ _ _ hpq _ => finds_pure (hb.unit.mono hpq)
  | .mk _ ss (some tail), h, _, hb, _, _, hx => by
      obtain ⟨hss, htail⟩ := List.forall_mem_append.mp h.children
      have htail : Follows b unrolled tail := follows_expr tail (htail _ List.mem_cons_self)
      rw [block, Infer.block]
      exact (tracks_stmts ss hss hb).bind fun _ _ _ hpq _ => htail.typed (hb.mono hpq) (hx.mono hpq)

end

theorem tracks_declared (hb : b.Stand p) (o : Option TypeExpr) :
    Tracks p (ofDeclared b o) (pure (Ty.declared o)) fun q o ty =>
      q.Denotes (o.getD b.unknown) ty := by
  cases o with
  | none => exact .pure fun _ hpq => hb.unknown.mono hpq
  | some t => exact (finds_ofExpr t hb).first fun _ _ _ hid => .pure fun _ hqr => hid.mono hqr

theorem tracks_params : (ps : List Param) → {p : TypePool} → b.Stand p →
    Tracks p (params b ps) (Infer.params ps) fun _ _ _ => True
  | [], _, _ => .pure fun _ _ => trivial
  | param :: ps, p, hb => by
      refine (tracks_declared hb param.declared).first fun q o hpq hid => ?_
      have hb := hb.mono hpq
      exact (tracks_bind param.pattern hb hid).bind fun _ _ _ hqr _ => tracks_params ps (hb.mono hqr)

theorem tracks_functions : (fs : List Function) → (∀ c ∈ fs.map Node.function, c.Suffixed) →
    {p : TypePool} → b.Stand p →
    Tracks p (functions b unrolled fs) (Infer.functions fs) fun _ _ _ => True
  | [], _, _, _ => .pure fun _ _ => trivial
  | f :: fs, h, p, hb => by
      obtain ⟨hf, hfs⟩ := List.forall_mem_cons.mp h
      obtain ⟨-, hbody⟩ := List.forall_mem_append.mp hf.children
      refine (tracks_params f.params hb).bind fun q _ _ hpq _ => ?_
      have hb := hb.mono hpq
      exact (tracks_block f.body (hbody _ List.mem_cons_self) hb .nothing).bind fun _ _ _ hqr _ =>
        tracks_functions fs hfs (hb.mono hqr)

theorem tracks_declaredTypes : (ps : List Param) → {p : TypePool} → b.Stand p →
    Tracks p (declaredTypes b ps) (pure (ps.map fun param => Ty.declared param.declared))
      fun q ids tys => q.DenoteAll ids tys
  | [], _, _ => .pure fun _ _ => rfl
  | param :: ps, p, hb => by
      refine (tracks_declared hb param.declared).first fun q o hpq hid => ?_
      refine (tracks_declaredTypes ps (hb.mono hpq)).first fun r ids hqr hids => ?_
      exact .pure fun s hrs => ⟨_, ids, rfl, hid.mono (hqr.trans hrs), hids.mono hrs⟩

theorem tracks_setFunction (name : String) {id : TypeId} {ty : Ty} (h : p.Denotes id ty) :
    Tracks p (change (·.setFunction name id)) (modify (·.setFunction name ty)) fun _ _ _ => True := by
  refine tracks_change fun t s hpt ht => ⟨.refl _, ht.pool, ht.exprs, ht.bindings, ?_, ht.longField⟩
  exact (ht.functions.filter fun k => k ≠ name).cons name (h.mono hpt)

theorem tracks_declareAll : (fs : List Function) → {p : TypePool} → b.Stand p →
    Tracks p (declareAll b fs)
      (modify fun t => fs.foldl (fun t f => t.setFunction f.name f.type) t) fun _ _ _ => True
  | [], _, _ => .pure fun _ _ => trivial
  | f :: fs, p, hb => by
      rw [declareAll]
      refine (tracks_declaredTypes f.params hb).first fun q ids hpq hids => ?_
      have hb := hb.mono hpq
      refine (tracks_ofDeclared hb f.result).first fun r o hqr ho => ?_
      have hb := hb.mono hqr
      have hfunction : Finds r (enter (.function ids (o.getD b.unit))) f.type :=
        finds_enter ⟨ids, _, rfl, hids.mono hqr, getD_of_rel ho hb.unit⟩
      refine hfunction.first fun s id hrs hid => ?_
      exact (tracks_setFunction f.name hid).bind fun _ _ _ hst _ =>
        tracks_declareAll fs (hb.mono (hrs.trans hst))

end

theorem tracks_module (unrolled : Bool) {m : Module} (h : (Node.module m).Suffixed) (p : TypePool) :
    Tracks p (module unrolled m) (do
      modify fun t => m.functions.foldl (fun t f => t.setFunction f.name f.type) t
      Infer.functions m.functions) fun _ _ _ => True :=
  (tracks_basics p).first fun _ _ _ hb => (tracks_declareAll m.functions hb).bind
    fun _ _ _ hpq _ => tracks_functions m.functions h.children (hb.mono hpq)

theorem exists_run (unrolled : Bool) {m : Module} (h : (Node.module m).Suffixed) {pool : TypePool}
    (hpool : pool.Sound) :
    ∃ c, (module unrolled m).run ⟨{ pool := pool }, []⟩ = .ok ((), c) ∧
      c.now.Denotes (Typing.ofModule m) ∧ ∀ t ∈ c.past, t.Sound := by
  have hstart : ({ pool := pool } : Table).Denotes {} := ⟨hpool, .nil, .nil, .nil, rfl⟩
  obtain ⟨_, c, hrun, -, hnow, hpast, -⟩ :=
    tracks_module unrolled h pool ⟨{ pool := pool }, []⟩ {} (.refl _) hstart (List.forall_mem_nil _)
  exact ⟨c, hrun, hnow, hpast⟩

section

variable {file : Option String} {text : List Char} {x : Expansions} {m : Module}

theorem suffixed_of_ofText (h : (Module.ofText file text x).1 = .ok m) :
    (Node.module (Analysis.ofModule m).module).Suffixed := by
  obtain ⟨fs, ws, hreads⟩ := Module.exists_reads h
  exact hreads.analysis.suffixed

/-- With numbers of a pool for types, nothing that is looked up for a text that was read is missing, and
all tables on the way to its types are sound. -/
theorem exists_sound_run (unrolled : Bool) (h : (Module.ofText file text x).1 = .ok m) {pool : TypePool}
    (hpool : pool.Sound) :
    ∃ c, (module unrolled (Analysis.ofModule m).module).run ⟨{ pool := pool }, []⟩ = .ok ((), c) ∧
      c.now.Denotes (Analysis.ofModule m).typing ∧ ∀ t ∈ c.now :: c.past, t.Sound := by
  obtain ⟨c, hrun, hnow, hpast⟩ := exists_run unrolled (suffixed_of_ofText h) hpool
  exact ⟨c, hrun, hnow, List.forall_mem_cons.mpr ⟨hnow.sound, hpast⟩⟩

end

theorem exists_sound_run_of_closure :
    let text :=
      "fn f(o: Option<i32>) -> i32 \x7b o.map(|v| (v, 1u8)).unwrap_or((0, 2)).0 + 3 \x7d".toList
    ∃ m c, (Module.ofText none text .empty).1 = .ok m ∧
      (module true (Analysis.ofModule m).module).run ⟨{ pool := .empty }, []⟩ = .ok ((), c) ∧
      c.now.Denotes (Analysis.ofModule m).typing ∧ ∀ t ∈ c.now :: c.past, t.Sound := by
  intro text
  have hread : (Module.ofText none text .empty).1.isOk = true := by decide +kernel
  cases h : (Module.ofText none text .empty).1 with
  | error e =>
      rw [h] at hread
      cases hread
  | ok m =>
      obtain ⟨c, hrun, hnow, hsound⟩ := exists_sound_run true h sound_empty
      exact ⟨m, c, rfl, hrun, hnow, hsound⟩

end Pooled

end ChainLint
