import ChainLint.Proofs.Tree.Enclosing
import ChainLint.Proofs.Tree.Erasure

namespace ChainLint.Tree

structure Relabelling where
  span : Span → Span
  id : NodeId → NodeId
  binding : Option NodeId → Option NodeId

def Relabelling.following (f : Span → Span) (g : NodeId → NodeId) : Relabelling :=
  ⟨f, g, Option.map g⟩

def Relabelling.unbound (f : Span → Span) (g : NodeId → NodeId) : Relabelling :=
  ⟨f, g, fun _ => none⟩

section

variable (f : Span → Span) (g : NodeId → NodeId)

def Info.relabel (i : Info) : Info := ⟨g i.id, f i.span⟩

mutual

def Pat.relabel : Pat → Pat
  | .binding i name isMut => .binding (i.relabel f g) name isMut
  | .wild i => .wild (i.relabel f g)
  | .tuple i elems => .tuple (i.relabel f g) (relabelPats elems)

def relabelPats : List Pat → List Pat
  | [] => []
  | p :: ps => p.relabel :: relabelPats ps

end

def Param.relabel (p : Param) : Param :=
  ⟨p.info.relabel f g, p.pattern.relabel f g, p.declared.map (TypeExpr.erase f)⟩

theorem relabelPats_eq (ps : List Pat) : relabelPats f g ps = ps.map (Pat.relabel f g) := by
  induction ps with
  | nil => rfl
  | cons p ps ih => rw [relabelPats, ih, List.map_cons]

end

variable (r : Relabelling)

mutual

def Expr.relabel : Expr → Expr
  | .var i name binding => .var (i.relabel r.span r.id) name (r.binding binding)
  | .int i value suffix => .int (i.relabel r.span r.id) value suffix
  | .float i bits suffix => .float (i.relabel r.span r.id) bits suffix
  | .string i value => .string (i.relabel r.span r.id) value
  | .bool i value => .bool (i.relabel r.span r.id) value
  | .call i callee args => .call (i.relabel r.span r.id) callee.relabel (relabelExprs args)
  | .methodCall i receiver name nameSpan args =>
      .methodCall (i.relabel r.span r.id) receiver.relabel name (r.span nameSpan) (relabelExprs args)
  | .field i subject name => .field (i.relabel r.span r.id) subject.relabel name
  | .index i subject position => .index (i.relabel r.span r.id) subject.relabel position.relabel
  | .unary i op operand => .unary (i.relabel r.span r.id) op operand.relabel
  | .binary i op left right => .binary (i.relabel r.span r.id) op left.relabel right.relabel
  | .range i lower upper => .range (i.relabel r.span r.id) (relabelOption lower) (relabelOption upper)
  | .array i elems => .array (i.relabel r.span r.id) (relabelExprs elems)
  | .tuple i elems => .tuple (i.relabel r.span r.id) (relabelExprs elems)
  | .closure i ps body isMove =>
      .closure (i.relabel r.span r.id) (ps.map (Param.relabel r.span r.id)) body.relabel isMove
  | .macroCall i name args => .macroCall (i.relabel r.span r.id) name (relabelExprs args)
  | .block i body => .block (i.relabel r.span r.id) body.relabel
  | .cond i test yes no => .cond (i.relabel r.span r.id) test.relabel yes.relabel (relabelOption no)
  | .whileLoop i test body => .whileLoop (i.relabel r.span r.id) test.relabel body.relabel
  | .loop i body => .loop (i.relabel r.span r.id) body.relabel
  | .forLoop i p iterable body =>
      .forLoop (i.relabel r.span r.id) (p.relabel r.span r.id) iterable.relabel body.relabel
  | .ret i value => .ret (i.relabel r.span r.id) (relabelOption value)
  | .brk i => .brk (i.relabel r.span r.id)
  | .cont i => .cont (i.relabel r.span r.id)

def relabelExprs : List Expr → List Expr
  | [] => []
  | e :: es => e.relabel :: relabelExprs es

def relabelOption : Option Expr → Option Expr
  | none => none
  | some e => some e.relabel

def Stmt.relabel : Stmt → Stmt
  | .expr i value => .expr (i.relabel r.span r.id) value.relabel
  | .letIn i p declared value =>
      .letIn (i.relabel r.span r.id) (p.relabel r.span r.id) (declared.map (TypeExpr.erase r.span))
        (relabelOption value)

def relabelStmts : List Stmt → List Stmt
  | [] => []
  | s :: ss => s.relabel :: relabelStmts ss

def Block.relabel : Block → Block
  | .mk i ss tail => .mk (i.relabel r.span r.id) (relabelStmts ss) (relabelOption tail)

end

def Function.relabel (g : Function) : Function :=
  ⟨g.info.relabel r.span r.id, g.name, g.params.map (Param.relabel r.span r.id), g.body.relabel r,
    g.result.map (TypeExpr.erase r.span)⟩

def Module.relabel (m : Module) : Module :=
  ⟨m.info.relabel r.span r.id, m.file, m.functions.map (Function.relabel r)⟩

theorem relabelExprs_eq (es : List Expr) : relabelExprs r es = es.map (Expr.relabel r) := by
  induction es with
  | nil => rfl
  | cons e es ih => rw [relabelExprs, ih, List.map_cons]

theorem relabelOption_eq (o : Option Expr) : relabelOption r o = o.map (Expr.relabel r) := by
  cases o <;> rfl

theorem relabelStmts_eq (ss : List Stmt) : relabelStmts r ss = ss.map (Stmt.relabel r) := by
  induction ss with
  | nil => rfl
  | cons s ss ih => rw [relabelStmts, ih, List.map_cons]

namespace Node

def relabel : Node → Node
  | .module m => .module (m.relabel r)
  | .function g => .function (g.relabel r)
  | .param p => .param (p.relabel r.span r.id)
  | .pat p => .pat (p.relabel r.span r.id)
  | .block b => .block (b.relabel r)
  | .stmt s => .stmt (s.relabel r)
  | .expr e => .expr (e.relabel r)

theorem info_relabel (n : Node) : (n.relabel r).info = n.info.relabel r.span r.id := by
  cases n with
  | pat p => cases p <;> rfl
  | block b => cases b; rfl
  | stmt s => cases s <;> rfl
  | expr e => cases e <;> rfl
  | _ => rfl

theorem id_relabel (n : Node) : (n.relabel r).id = r.id n.id := by
  rw [id, info_relabel]
  rfl

theorem ownsBody_relabel (n : Node) : (n.relabel r).ownsBody = n.ownsBody := by
  cases n with
  | expr e => cases e <;> rfl
  | _ => rfl

theorem children_relabel (n : Node) : (n.relabel r).children = n.children.map (relabel r) := by
  cases n with
  | module m => simp [children, relabel, Module.relabel, Function.comp_def]
  | function g => simp [children, relabel, Function.relabel, Function.comp_def]
  | param p => rfl
  | pat p => cases p <;> simp [children, relabel, Pat.relabel, relabelPats_eq, Function.comp_def]
  | block b =>
      obtain ⟨i, ss, tail⟩ := b
      simp [children, relabel, Block.relabel, relabelStmts_eq, relabelOption_eq, Function.comp_def,
        Option.toList_map]
  | stmt s =>
      cases s <;> simp [children, relabel, Stmt.relabel, relabelOption_eq, Function.comp_def,
        Option.toList_map]
  | expr e =>
      cases e <;> simp [children, Expr.children, relabel, Expr.relabel, relabelExprs_eq,
        relabelOption_eq, Function.comp_def, Option.toList_map]

theorem preorder_relabel (n : Node) : (n.relabel r).preorder = n.preorder.map (relabel r) := by
  induction n using child_induction with
  | step n ih =>
      rw [preorder_eq, n.preorder_eq, children_relabel, List.map_cons, List.map_flatMap,
        List.flatMap_map]
      congr 1
      exact List.flatMap_congr ih

theorem ids_relabel (n : Node) : (n.relabel r).ids = n.ids.map r.id := by
  rw [ids, ids, preorder_relabel, List.map_map, List.map_map]
  exact List.map_congr_left fun v _ => v.id_relabel r

end Node

end ChainLint.Tree
