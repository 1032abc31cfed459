import ChainLint.Proofs.Tree.Renumbering
import Mathlib.Logic.Equiv.Basic

namespace ChainLint.Tree

def renamed (g : NodeId → NodeId) : Relabelling := ⟨id, g, id⟩

def Names (g : NodeId → NodeId) : NodeId → List NodeId → Prop
  | _, [] => True
  | k, i :: is => g k = i ∧ Names g (k + 1) is

theorem names_append {g : NodeId → NodeId} {k : Int} {a b : List NodeId} :
    Names g k (a ++ b) ↔ Names g k a ∧ Names g (k + a.length) b := by
  induction a generalizing k with
  | nil => simp [Names]
  | cons i is ih =>
      have hlength : k + 1 + is.length = k + (i :: is).length := by
        rw [List.length_cons]
        omega
      rw [List.cons_append, Names, Names, ih, and_assoc, hlength]

theorem exists_names {is : List NodeId} (h : is.Nodup) (k : Int) :
    ∃ g, Function.Injective g ∧ Names g k is := by
  induction is generalizing k with
  | nil => exact ⟨id, Function.injective_id, trivial⟩
  | cons i is ih =>
      obtain ⟨hi, his⟩ := List.nodup_cons.mp h
      obtain ⟨g, hg, hnames⟩ := ih his (k + 1)
      have hlater (k' : Int) (js : List NodeId) (hk : k < k') (hjs : i ∉ js) (h : Names g k' js) :
          Names (Equiv.swap (g k) i ∘ g) k' js := by
        induction js generalizing k' with
        | nil => trivial
        | cons j js ih =>
            obtain ⟨hj, hjs⟩ := not_or.mp (List.mem_cons.not.mp hjs)
            have hne : g k' ≠ i := h.1 ▸ Ne.symm hj
            refine ⟨?_, ih (k' + 1) (by omega) hjs h.2⟩
            exact (Equiv.swap_apply_of_ne_of_ne (hg.ne (show k' ≠ k by omega)) hne).trans h.1
      exact ⟨Equiv.swap (g k) i ∘ g, (Equiv.injective _).comp hg, Equiv.swap_apply_left _ _,
        hlater (k + 1) is (by omega) hi hnames⟩

mutual

theorem TypeExpr.erase_id : (t : TypeExpr) → t.erase id = t
  | .mk name args s => congrArg (TypeExpr.mk name · s) (eraseTypes_id args)

theorem eraseTypes_id : (ts : List TypeExpr) → eraseTypes id ts = ts
  | [] => rfl
  | t :: ts => congrArg₂ List.cons (TypeExpr.erase_id t) (eraseTypes_id ts)

end

theorem map_erase_id (o : Option TypeExpr) : o.map (TypeExpr.erase id) = o := by
  cases o with
  | none => rfl
  | some t => exact congrArg some t.erase_id

mutual

theorem Pat.relabel_self : (p : Pat) → p.relabel id id = p
  | .binding .. | .wild _ => rfl
  | .tuple _ elems => congrArg (Pat.tuple _) (relabelPats_self elems)

theorem relabelPats_self : (ps : List Pat) → relabelPats id id ps = ps
  | [] => rfl
  | p :: ps => congrArg₂ List.cons p.relabel_self (relabelPats_self ps)

end

theorem Param.relabel_self (p : Param) : p.relabel id id = p :=
  congrArg₂ (Param.mk p.info) p.pattern.relabel_self (map_erase_id p.declared)

theorem map_relabel_self (ps : List Param) : ps.map (Param.relabel id id) = ps :=
  (List.map_congr_left fun p _ => p.relabel_self).trans (List.map_id ps)

mutual

theorem Expr.relabel_self : (e : Expr) → e.relabel (.following id id) = e
  | .var _ _ none | .var _ _ (some _) => rfl
  | .int .. | .float .. | .string .. | .bool .. | .brk _ | .cont _ => rfl
  | .call _ callee args => congrArg₂ (Expr.call _) callee.relabel_self (relabelExprs_self args)
  | .methodCall _ receiver name _ args =>
      congrArg₂ (Expr.methodCall _ · name _ ·) receiver.relabel_self (relabelExprs_self args)
  | .field _ subject name => congrArg (Expr.field _ · name) subject.relabel_self
  | .index _ subject position =>
      congrArg₂ (Expr.index _) subject.relabel_self position.relabel_self
  | .unary _ op operand => congrArg (Expr.unary _ op) operand.relabel_self
  | .binary _ op left right => congrArg₂ (Expr.binary _ op) left.relabel_self right.relabel_self
  | .range _ lower upper =>
      congrArg₂ (Expr.range _) (relabelOption_self lower) (relabelOption_self upper)
  | .array _ elems => congrArg (Expr.array _) (relabelExprs_self elems)
  | .tuple _ elems => congrArg (Expr.tuple _) (relabelExprs_self elems)
  | .macroCall _ name args => congrArg (Expr.macroCall _ name) (relabelExprs_self args)
  | .closure _ ps body isMove =>
      congrArg₂ (Expr.closure _ · · isMove) (map_relabel_self ps) body.relabel_self
  | .block _ body => congrArg (Expr.block _) body.relabel_self
  | .loop _ body => congrArg (Expr.loop _) body.relabel_self
  | .cond _ test yes no =>
      congr (congrArg₂ (Expr.cond _) test.relabel_self yes.relabel_self) (relabelOption_self no)
  | .whileLoop _ test body => congrArg₂ (Expr.whileLoop _) test.relabel_self body.relabel_self
  | .forLoop _ p iterable body =>
      congr (congrArg₂ (Expr.forLoop _) p.relabel_self iterable.relabel_self) body.relabel_self
  | .ret _ value => congrArg (Expr.ret _) (relabelOption_self value)

theorem relabelExprs_self : (es : List Expr) → relabelExprs (.following id id) es = es
  | [] => rfl
  | e :: es => congrArg₂ List.cons e.relabel_self (relabelExprs_self es)

theorem relabelOption_self : (o : Option Expr) → relabelOption (.following id id) o = o
  | none => rfl
  | some e => congrArg some e.relabel_self

theorem Stmt.relabel_self : (s : Stmt) → s.relabel (.following id id) = s
  | .expr _ value => congrArg (Stmt.expr _) value.relabel_self
  | .letIn _ p declared value => congr (congrArg₂ (Stmt.letIn _) p.relabel_self
      (map_erase_id declared)) (relabelOption_self value)

theorem relabelStmts_self : (ss : List Stmt) → relabelStmts (.following id id) ss = ss
  | [] => rfl
  | s :: ss => congrArg₂ List.cons s.relabel_self (relabelStmts_self ss)

theorem Block.relabel_self : (b : Block) → b.relabel (.following id id) = b
  | .mk _ ss tail => congrArg₂ (Block.mk _) (relabelStmts_self ss) (relabelOption_self tail)

end

theorem Function.relabel_self (h : Function) : h.relabel (.following id id) = h :=
  congr (congrArg₂ (Function.mk _ _) (map_relabel_self h.params) h.body.relabel_self)
    (map_erase_id h.result)

theorem Module.relabel_self (m : Module) : m.relabel (.following id id) = m :=
  congrArg (Module.mk _ _) ((List.map_congr_left fun h _ => h.relabel_self).trans
    (List.map_id m.functions))

theorem Module.analysis_eq_of_erase {m m' : Module} (h : m.erase id = m'.erase id) :
    (m.number 1).1.resolve = (m'.number 1).1.resolve := by
  have hm := m.analysis_erase id
  rw [h, m'.analysis_erase id, relabel_self, relabel_self] at hm
  exact hm.symm

namespace Numbering

variable {α β : Type} {g : NodeId → NodeId}

def Restores (g : NodeId → NodeId) (is : List NodeId) (a : Numbering α) (φ : α → α) (x : α) : Prop :=
  ∀ k : Int, Names g k is → φ (a.run k).1 = x ∧ (a.run k).2 = k + is.length

theorem Restores.pure {φ : α → α} {x y : α} (h : φ y = x) : Restores g [] (pure y) φ x :=
  fun k _ => ⟨h, (Int.add_zero k).symm⟩

theorem Restores.bind {φ : α → α} {ψ : β → β} {is js : List NodeId} {a : Numbering α} {x : α}
    {u : α → Numbering β} {y : β} (h : Restores g is a φ x)
    (hu : ∀ x', φ x' = x → Restores g js (u x') ψ y) : Restores g (is ++ js) (a >>= u) ψ y := by
  intro (k : Int) hnames
  obtain ⟨hfirst, hrest⟩ := names_append.mp hnames
  obtain ⟨hvalue, hnext⟩ := h k hfirst
  rw [← hnext] at hrest
  obtain ⟨hresult, hlast⟩ := hu _ hvalue _ hrest
  refine ⟨hresult, ?_⟩
  change ((u (a.run k).1).run (a.run k).2).2 = _
  have hlength : k + is.length + js.length = k + (is ++ js).length := by
    rw [List.length_append]
    omega
  rw [hlast, hnext, hlength]

theorem Restores.map {φ : α → α} {ψ : β → β} {is : List NodeId} {a : Numbering α} {x : α}
    {u : α → β} {y : β} (h : Restores g is a φ x) (hu : ∀ x', φ x' = x → ψ (u x') = y) :
    Restores g is (a >>= fun x' => Pure.pure (u x')) ψ y :=
  fun k hnames => ⟨hu _ (h k hnames).1, (h k hnames).2⟩

theorem restores_next (i : Info) : Restores g [i.id] (next i) (Info.relabel id g) i := by
  rintro k ⟨hk, -⟩
  exact ⟨congrArg (Info.mk · i.span) hk, rfl⟩

theorem restores_node {n : Node} {φ : β → β} {u : Info → Numbering β} {x : β}
    (hu : ∀ i, i.relabel id g = n.info → Restores g (Node.idsOf n.children) (u i) φ x) :
    Restores g n.ids (next n.info >>= u) φ x := by
  rw [Node.ids_eq]
  exact (restores_next n.info).bind hu

theorem Restores.one {n : Node} {a : Numbering α} {φ : α → α} {x : α} (h : Restores g n.ids a φ x) :
    Restores g (Node.idsOf [n]) a φ x := (Node.idsOf_singleton n).symm ▸ h

theorem Restores.both {ns ms : List Node} {a : Numbering α} {φ : α → α} {x : α}
    (h : Restores g (Node.idsOf ns ++ Node.idsOf ms) a φ x) :
    Restores g (Node.idsOf (ns ++ ms)) a φ x := (Node.idsOf_append ns ms).symm ▸ h

theorem restores_leaf {n : Node} {φ : β → β} {u : Info → β} {x : β} (hleaf : n.children = [])
    (hu : ∀ i, i.relabel id g = n.info → φ (u i) = x) :
    Restores g n.ids (next n.info >>= fun i => Pure.pure (u i)) φ x :=
  restores_node fun i hi => hleaf ▸ Restores.pure (hu i hi)

mutual

theorem restores_pat : (p : Pat) → Restores g (Node.pat p).ids (pat p) (Pat.relabel id g) p
  | .binding i name isMut => restores_leaf (n := .pat (.binding i name isMut)) rfl fun _ hi =>
      congrArg (Pat.binding · name isMut) hi
  | .wild i => restores_leaf (n := .pat (.wild i)) rfl fun _ hi => congrArg Pat.wild hi
  | .tuple i elems => restores_node (n := .pat (.tuple i elems)) fun _ hi =>
      (restores_pats elems).map fun _ he => congrArg₂ Pat.tuple hi he

theorem restores_pats : (ps : List Pat) →
    Restores g (Node.idsOf (ps.map Node.pat)) (pats ps) (relabelPats id g) ps
  | [] => .pure rfl
  | p :: ps => (restores_pat p).bind fun _ hp => (restores_pats ps).map fun _ hps =>
      congrArg₂ List.cons hp hps

end

theorem restores_param (p : Param) :
    Restores g (Node.param p).ids (param p) (Param.relabel id g) p := by
  refine restores_node (n := .param p) fun i hi => (restores_pat p.pattern).one.map fun q hq => ?_
  change (⟨i.relabel id g, q.relabel id g, p.declared.map (TypeExpr.erase id)⟩ : Param) = p
  rw [hi, hq, map_erase_id]
  rfl

theorem restores_params : (ps : List Param) →
    Restores g (Node.idsOf (ps.map Node.param)) (params ps) (List.map (Param.relabel id g)) ps
  | [] => .pure rfl
  | p :: ps => (restores_param p).bind fun _ hp => (restores_params ps).map fun _ hps =>
      congrArg₂ List.cons hp hps

mutual

theorem restores_expr : (e : Expr) →
    Restores g (Node.expr e).ids (expr e) (Expr.relabel (renamed g)) e
  | .var i name binding => restores_leaf (n := .expr (.var i name binding)) rfl fun _ hi =>
      congrArg (Expr.var · name binding) hi
  | .int i value suffix => restores_leaf (n := .expr (.int i value suffix)) rfl fun _ hi =>
      congrArg (Expr.int · value suffix) hi
  | .float i bits suffix => restores_leaf (n := .expr (.float i bits suffix)) rfl fun _ hi =>
      congrArg (Expr.float · bits suffix) hi
  | .string i value => restores_leaf (n := .expr (.string i value)) rfl fun _ hi =>
      congrArg (Expr.string · value) hi
  | .bool i value => restores_leaf (n := .expr (.bool i value)) rfl fun _ hi =>
      congrArg (Expr.bool · value) hi
  | .brk i => restores_leaf (n := .expr (.brk i)) rfl fun _ hi => congrArg Expr.brk hi
  | .cont i => restores_leaf (n := .expr (.cont i)) rfl fun _ hi => congrArg Expr.cont hi
  | .call i callee args => restores_node (n := .expr (.call i callee args)) fun _ hi =>
      (restores_expr callee).bind fun _ hc => (restores_exprs args).map fun _ ha => by
        exact congr (congrArg₂ Expr.call hi hc) ha
  | .methodCall i receiver name s args =>
      restores_node (n := .expr (.methodCall i receiver name s args)) fun _ hi =>
        (restores_expr receiver).bind fun _ hr => (restores_exprs args).map fun _ ha =>
          congr (congrArg₂ (Expr.methodCall · · name s) hi hr) ha
  | .field i subject name => restores_node (n := .expr (.field i subject name)) fun _ hi =>
      (restores_expr subject).one.map fun _ hs => congrArg₂ (Expr.field · · name) hi hs
  | .index i subject position =>
      restores_node (n := .expr (.index i subject position)) fun _ hi =>
        (restores_expr subject).bind fun _ hs => (restores_expr position).one.map fun _ hp => by
          rw [Expr.relabel, hs, hp]
          exact congrArg (Expr.index · subject position) hi
  | .unary i op operand => restores_node (n := .expr (.unary i op operand)) fun _ hi =>
      (restores_expr operand).one.map fun _ ho => congrArg₂ (Expr.unary · op ·) hi ho
  | .binary i op left right => restores_node (n := .expr (.binary i op left right)) fun _ hi =>
      (restores_expr left).bind fun _ hl => (restores_expr right).one.map fun _ hr => by
        rw [Expr.relabel, hl, hr]
        exact congrArg (Expr.binary · op left right) hi
  | .range i lower upper => by
      refine restores_node (n := .expr (.range i lower upper)) fun _ hi => ?_
      rw [Node.children, Expr.children, List.map_append]
      refine ((restores_optional lower).bind fun _ hl => (restores_optional upper).map
        fun _ hu => ?_).both
      rw [Expr.relabel, hl, hu]
      exact congrArg (Expr.range · lower upper) hi
  | .array i elems => restores_node (n := .expr (.array i elems)) fun _ hi =>
      (restores_exprs elems).map fun _ he => congrArg₂ Expr.array hi he
  | .tuple i elems => restores_node (n := .expr (.tuple i elems)) fun _ hi =>
      (restores_exprs elems).map fun _ he => congrArg₂ Expr.tuple hi he
  | .macroCall i name args => restores_node (n := .expr (.macroCall i name args)) fun _ hi =>
      (restores_exprs args).map fun _ ha => congrArg₂ (Expr.macroCall · name ·) hi ha
  | .closure i ps body isMove => by
      refine restores_node (n := .expr (.closure i ps body isMove)) fun j hi =>
        ((restores_params ps).bind fun ps' hps => (restores_expr body).one.map
          (u := (Expr.closure j ps' · isMove)) fun _ hb => ?_).both
      rw [Expr.relabel, hb]
      exact congrArg₂ (Expr.closure · · body isMove) hi hps
  | .block i body => restores_node (n := .expr (.block i body)) fun _ hi =>
      (restores_block body).one.map fun _ hb => congrArg₂ Expr.block hi hb
  | .cond i test yes no => restores_node (n := .expr (.cond i test yes no)) fun _ hi =>
      (restores_expr test).bind fun _ ht => (restores_block yes).bind fun _ hy =>
        (restores_optional no).map fun _ hn => congr (congr (congrArg₂ Expr.cond hi ht) hy) hn
  | .whileLoop i test body => restores_node (n := .expr (.whileLoop i test body)) fun _ hi =>
      (restores_expr test).bind fun _ ht => (restores_block body).one.map fun _ hb =>
        congr (congrArg₂ Expr.whileLoop hi ht) hb
  | .loop i body => restores_node (n := .expr (.loop i body)) fun _ hi =>
      (restores_block body).one.map fun _ hb => congrArg₂ Expr.loop hi hb
  | .forLoop i p iterable body =>
      restores_node (n := .expr (.forLoop i p iterable body)) fun _ hi =>
        (restores_pat p).bind fun _ hp => (restores_expr iterable).bind fun _ hit =>
          (restores_block body).one.map fun _ hb =>
            congr (congr (congrArg₂ Expr.forLoop hi hp) hit) hb
  | .ret i value => restores_node (n := .expr (.ret i value)) fun _ hi =>
      (restores_optional value).map fun _ hv => congrArg₂ Expr.ret hi hv

theorem restores_exprs : (es : List Expr) →
    Restores g (Node.idsOf (es.map Node.expr)) (exprs es) (relabelExprs (renamed g)) es
  | [] => .pure rfl
  | e :: es => (restores_expr e).bind fun _ he => (restores_exprs es).map fun _ hes =>
      congrArg₂ List.cons he hes

theorem restores_optional : (o : Option Expr) →
    Restores g (Node.idsOf (o.toList.map Node.expr)) (optional o) (relabelOption (renamed g)) o
  | none => .pure rfl
  | some e => (restores_expr e).one.map fun _ he => congrArg some he

theorem restores_stmt : (s : Stmt) →
    Restores g (Node.stmt s).ids (stmt s) (Stmt.relabel (renamed g)) s
  | .expr i value => restores_node (n := .stmt (.expr i value)) fun _ hi =>
      (restores_expr value).one.map fun _ hv => congrArg₂ Stmt.expr hi hv
  | .letIn i p declared value =>
      restores_node (n := .stmt (.letIn i p declared value)) fun _ hi =>
        (restores_pat p).bind fun _ hp => (restores_optional value).map fun _ hv =>
          congr (congr (congrArg₂ Stmt.letIn hi hp) (map_erase_id declared)) hv

theorem restores_stmts : (ss : List Stmt) →
    Restores g (Node.idsOf (ss.map Node.stmt)) (stmts ss) (relabelStmts (renamed g)) ss
  | [] => .pure rfl
  | s :: ss => (restores_stmt s).bind fun _ hs => (restores_stmts ss).map fun _ hss =>
      congrArg₂ List.cons hs hss

theorem restores_block : (b : Block) →
    Restores g (Node.block b).ids (block b) (Block.relabel (renamed g)) b
  | .mk i ss tail => by
      refine restores_node (n := .block (.mk i ss tail)) fun j hi =>
        ((restores_stmts ss).bind fun ss' hss => (restores_optional tail).map
          (u := Block.mk j ss') fun _ ht => ?_).both
      rw [Block.relabel, hss, ht]
      exact congrArg (Block.mk · ss tail) hi

end

theorem restores_function (h : Function) :
    Restores g (Node.function h).ids (function h) (Function.relabel (renamed g)) h := by
  refine restores_node (n := .function h) fun i hi =>
    ((restores_params h.params).bind fun ps hps => (restores_block h.body).one.map
      (u := (Function.mk i h.name ps · h.result)) fun b hb => ?_).both
  have hresult : h.result.map (TypeExpr.erase (renamed g).span) = h.result := map_erase_id h.result
  rw [Function.relabel, hb, hresult]
  exact congrArg₂ (Function.mk · h.name · h.body h.result) hi hps

theorem restores_functions : (hs : List Function) →
    Restores g (Node.idsOf (hs.map Node.function)) (functions hs)
      (List.map (Function.relabel (renamed g))) hs
  | [] => .pure rfl
  | h :: hs => (restores_function h).bind fun _ hh => (restores_functions hs).map fun _ hhs =>
      congrArg₂ List.cons hh hhs

theorem restores_module (m : Module) :
    Restores g (Node.module m).ids (module m) (Module.relabel (renamed g)) m :=
  restores_node (n := .module m) fun _ hi => (restores_functions m.functions).map fun _ hhs =>
    congrArg₂ (Module.mk · m.file ·) hi hhs

end Numbering

theorem Module.exists_renamed {m : Module} (h : (Node.module m).ids.Nodup) (start : NodeId) :
    ∃ g, Function.Injective g ∧ m = (m.number start).1.relabel (renamed g) := by
  obtain ⟨g, hg, hnames⟩ := exists_names h start
  exact ⟨g, hg, (Numbering.restores_module m start hnames).1.symm⟩

end ChainLint.Tree
