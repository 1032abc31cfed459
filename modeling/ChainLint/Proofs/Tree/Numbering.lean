import ChainLint.Proofs.Tree.Walk
import ChainLint.Tree.Number

namespace ChainLint.Tree

def Consecutive : Int → List Int → Int → Prop
  | k, [], l => k = l
  | k, i :: is, l => i = k ∧ Consecutive (k + 1) is l

namespace Consecutive

theorem append {k l m : Int} {a b : List Int} (ha : Consecutive k a l)
    (hb : Consecutive l b m) : Consecutive k (a ++ b) m := by
  induction a generalizing k with
  | nil => cases ha; exact hb
  | cons i is ih => exact ⟨ha.1, ih ha.2⟩

theorem snd_eq {k l : Int} {a : List Int} (h : Consecutive k a l) : l = k + a.length := by
  induction a generalizing k with
  | nil => cases h; simp
  | cons i is ih =>
      have := ih h.2
      simp only [List.length_cons]
      omega

theorem getElem? {k l : Int} {a : List Int} (h : Consecutive k a l) (n : Nat)
    (hn : n < a.length) : a[n]? = some (k + n) := by
  induction a generalizing k n with
  | nil => simp at hn
  | cons i is ih =>
      cases n with
      | zero => simp [h.1]
      | succ n =>
          have := ih h.2 n (by simpa using hn)
          rw [List.getElem?_cons_succ, this]
          congr 1
          omega

theorem le_of_mem {k l i : Int} {a : List Int} (h : Consecutive k a l) (hi : i ∈ a) :
    k ≤ i := by
  induction a generalizing k with
  | nil => cases hi
  | cons j js ih =>
      rcases List.mem_cons.mp hi with rfl | hi
      · exact Int.le_of_eq h.1.symm
      · have := ih h.2 hi
        omega

theorem lt_of_mem {k l i : Int} {a : List Int} (h : Consecutive k a l) (hi : i ∈ a) :
    i < l := by
  obtain ⟨n, hn, rfl⟩ := List.mem_iff_getElem.mp hi
  have hget := h.getElem? n hn
  rw [List.getElem?_eq_getElem hn, Option.some.injEq] at hget
  have := h.snd_eq
  omega

theorem pairwise {k l : Int} {a : List Int} (h : Consecutive k a l) : a.Pairwise (· < ·) := by
  induction a generalizing k with
  | nil => exact .nil
  | cons i is ih =>
      refine .cons (fun j hj => ?_) (ih h.2)
      have := le_of_mem h.2 hj
      have := h.1
      omega

end Consecutive

def Node.ids (n : Node) : List NodeId := n.preorder.map Node.id

def Node.idsOf (ns : List Node) : List NodeId := ns.flatMap Node.ids

theorem Node.idsOf_cons (n : Node) (ns : List Node) : idsOf (n :: ns) = n.ids ++ idsOf ns := rfl

theorem Node.idsOf_append (a b : List Node) : idsOf (a ++ b) = idsOf a ++ idsOf b :=
  List.flatMap_append

theorem Node.idsOf_singleton (n : Node) : idsOf [n] = n.ids := by simp [idsOf]

theorem Node.ids_eq (n : Node) : n.ids = n.id :: Node.idsOf n.children := by
  rw [ids, n.preorder_eq, List.map_cons, List.map_flatMap]
  rfl

namespace Numbering

theorem consecutive_of_children {n : Node} {k l : NodeId} (hid : n.id = k)
    (h : Consecutive (k + 1) (Node.idsOf n.children) l) : Consecutive k n.ids l := by
  rw [n.ids_eq]
  exact ⟨hid, h⟩

theorem consecutive_one {n : Node} {k l : NodeId} (h : Consecutive k n.ids l) :
    Consecutive k (Node.idsOf [n]) l := by
  rwa [Node.idsOf_singleton]

theorem consecutive_cons {n : Node} {ns : List Node} {k l m : NodeId}
    (hn : Consecutive k n.ids l) (hs : Consecutive l (Node.idsOf ns) m) :
    Consecutive k (Node.idsOf (n :: ns)) m := hn.append hs

theorem consecutive_append {a b : List Node} {k l m : NodeId}
    (ha : Consecutive k (Node.idsOf a) l) (hb : Consecutive l (Node.idsOf b) m) :
    Consecutive k (Node.idsOf (a ++ b)) m := by
  rw [Node.idsOf_append]
  exact ha.append hb

mutual

theorem pat_consecutive : (p : Pat) → (k : NodeId) →
    Consecutive k (Node.pat (pat p k).1).ids (pat p k).2
  | .binding .., _ | .wild .., _ => consecutive_of_children rfl rfl
  | .tuple _ elems, k => consecutive_of_children rfl (pats_consecutive elems (k + 1))

theorem pats_consecutive : (ps : List Pat) → (k : NodeId) →
    Consecutive k (Node.idsOf ((pats ps k).1.map .pat)) (pats ps k).2
  | [], _ => rfl
  | p :: ps, k => consecutive_cons (pat_consecutive p k) (pats_consecutive ps (pat p k).2)

end

theorem param_consecutive (p : Param) (k : NodeId) :
    Consecutive k (Node.param (param p k).1).ids (param p k).2 :=
  consecutive_of_children rfl (consecutive_one (pat_consecutive p.pattern (k + 1)))

theorem params_consecutive : (ps : List Param) → (k : NodeId) →
    Consecutive k (Node.idsOf ((params ps k).1.map .param)) (params ps k).2
  | [], _ => rfl
  | p :: ps, k => consecutive_cons (param_consecutive p k) (params_consecutive ps (param p k).2)

mutual

theorem expr_consecutive : (e : Expr) → (k : NodeId) →
    Consecutive k (Node.expr (expr e k).1).ids (expr e k).2
  | .var .., _ | .int .., _ | .float .., _ | .string .., _ | .bool .., _ | .brk .., _
  | .cont .., _ => consecutive_of_children rfl rfl
  | .call _ callee args, k => consecutive_of_children rfl
      (consecutive_cons (expr_consecutive callee (k + 1)) (exprs_consecutive args _))
  | .methodCall _ receiver _ _ args, k => consecutive_of_children rfl
      (consecutive_cons (expr_consecutive receiver (k + 1)) (exprs_consecutive args _))
  | .field _ subject _, k => consecutive_of_children rfl
      (consecutive_one (expr_consecutive subject (k + 1)))
  | .index _ subject position, k => consecutive_of_children rfl
      (consecutive_cons (expr_consecutive subject (k + 1))
        (consecutive_one (expr_consecutive position _)))
  | .unary _ _ operand, k => consecutive_of_children rfl
      (consecutive_one (expr_consecutive operand (k + 1)))
  | .binary _ _ left right, k => consecutive_of_children rfl
      (consecutive_cons (expr_consecutive left (k + 1))
        (consecutive_one (expr_consecutive right _)))
  | .range _ lower upper, k => consecutive_of_children rfl <| by
      have h := consecutive_append (optional_consecutive lower (k + 1))
        (optional_consecutive upper _)
      rwa [← List.map_append] at h
  | .array _ elems, k | .tuple _ elems, k | .macroCall _ _ elems, k =>
      consecutive_of_children rfl (exprs_consecutive elems (k + 1))
  | .closure _ ps body _, k => consecutive_of_children rfl
      (consecutive_append (params_consecutive ps (k + 1))
        (consecutive_one (expr_consecutive body _)))
  | .block _ body, k | .loop _ body, k => consecutive_of_children rfl
      (consecutive_one (block_consecutive body (k + 1)))
  | .cond _ test yes no, k => consecutive_of_children rfl
      (consecutive_cons (expr_consecutive test (k + 1))
        (consecutive_cons (block_consecutive yes _) (optional_consecutive no _)))
  | .whileLoop _ test body, k => consecutive_of_children rfl
      (consecutive_cons (expr_consecutive test (k + 1))
        (consecutive_one (block_consecutive body _)))
  | .forLoop _ p iterable body, k => consecutive_of_children rfl
      (consecutive_cons (pat_consecutive p (k + 1))
        (consecutive_cons (expr_consecutive iterable _)
          (consecutive_one (block_consecutive body _))))
  | .ret _ value, k => consecutive_of_children rfl (optional_consecutive value (k + 1))

theorem exprs_consecutive : (es : List Expr) → (k : NodeId) →
    Consecutive k (Node.idsOf ((exprs es k).1.map .expr)) (exprs es k).2
  | [], _ => rfl
  | e :: es, k => consecutive_cons (expr_consecutive e k) (exprs_consecutive es (expr e k).2)

theorem optional_consecutive : (o : Option Expr) → (k : NodeId) →
    Consecutive k (Node.idsOf ((optional o k).1.toList.map .expr)) (optional o k).2
  | none, _ => rfl
  | some e, k => consecutive_one (expr_consecutive e k)

theorem stmt_consecutive : (s : Stmt) → (k : NodeId) →
    Consecutive k (Node.stmt (stmt s k).1).ids (stmt s k).2
  | .expr _ value, k => consecutive_of_children rfl
      (consecutive_one (expr_consecutive value (k + 1)))
  | .letIn _ p _ value, k => consecutive_of_children rfl
      (consecutive_cons (pat_consecutive p (k + 1)) (optional_consecutive value _))

theorem stmts_consecutive : (ss : List Stmt) → (k : NodeId) →
    Consecutive k (Node.idsOf ((stmts ss k).1.map .stmt)) (stmts ss k).2
  | [], _ => rfl
  | s :: ss, k => consecutive_cons (stmt_consecutive s k) (stmts_consecutive ss (stmt s k).2)

theorem block_consecutive : (b : Block) → (k : NodeId) →
    Consecutive k (Node.block (block b k).1).ids (block b k).2
  | .mk _ ss tail, k => consecutive_of_children rfl
      (consecutive_append (stmts_consecutive ss (k + 1)) (optional_consecutive tail _))

end

theorem function_consecutive (f : Function) (k : NodeId) :
    Consecutive k (Node.function (function f k).1).ids (function f k).2 :=
  consecutive_of_children rfl
    (consecutive_append (params_consecutive f.params (k + 1))
      (consecutive_one (block_consecutive f.body _)))

theorem functions_consecutive : (fs : List Function) → (k : NodeId) →
    Consecutive k (Node.idsOf ((functions fs k).1.map .function)) (functions fs k).2
  | [], _ => rfl
  | f :: fs, k =>
      consecutive_cons (function_consecutive f k) (functions_consecutive fs (function f k).2)

end Numbering

theorem Module.number_consecutive (m : Module) (start : NodeId) :
    Consecutive start (Node.module (m.number start).1).ids (m.number start).2 :=
  Numbering.consecutive_of_children rfl
    (Numbering.functions_consecutive m.functions (start + 1))

end ChainLint.Tree
