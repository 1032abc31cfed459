import ChainLint.Tree.Entry

namespace ChainLint.Tree

namespace Node

def preorder (n : Node) : List Node := n.entries.map Entry.node

theorem preorder_function (f : Function) :
    (Node.function f).preorder = (f.entries .outermost).map Entry.node := rfl

theorem preorder_param (p : Param) :
    (Node.param p).preorder = (p.entries .outermost).map Entry.node := rfl

theorem preorder_pat (p : Pat) :
    (Node.pat p).preorder = (p.entries .outermost).map Entry.node := rfl

theorem preorder_block (b : Block) :
    (Node.block b).preorder = (b.entries .outermost).map Entry.node := rfl

theorem preorder_stmt (t : Stmt) :
    (Node.stmt t).preorder = (t.entries .outermost).map Entry.node := rfl

theorem preorder_expr (e : Expr) :
    (Node.expr e).preorder = (e.entries .outermost).map Entry.node := rfl

end Node

mutual

theorem Pat.node_entries (s : Surroundings) :
    (p : Pat) → (p.entries s).map Entry.node = (Node.pat p).preorder
  | .binding .. | .wild .. => rfl
  | .tuple _ elems => by
      rw [Node.preorder_pat]
      simp only [Pat.entries, Surroundings.entry, List.map_cons]
      rw [node_patEntries _ elems, node_patEntries _ elems]

theorem node_patEntries (s : Surroundings) :
    (ps : List Pat) → (patEntries s ps).map Entry.node = ps.flatMap fun p => (Node.pat p).preorder
  | [] => rfl
  | p :: ps => by
      simp only [patEntries, List.map_append, List.flatMap_cons]
      rw [Pat.node_entries s p, node_patEntries s ps]

end

theorem Param.node_entries (s : Surroundings) (p : Param) :
    (p.entries s).map Entry.node = (Node.param p).preorder := by
  rw [Node.preorder_param]
  simp only [Param.entries, Surroundings.entry, List.map_cons, Pat.node_entries]

theorem node_paramEntries (s : Surroundings) (ps : List Param) :
    (ps.flatMap (·.entries s)).map Entry.node = ps.flatMap fun p => (Node.param p).preorder := by
  simp [List.map_flatMap, Param.node_entries]

mutual

theorem Expr.node_entries (s : Surroundings) :
    (e : Expr) → (e.entries s).map Entry.node = (Node.expr e).preorder
  | .var .. | .int .. | .float .. | .string .. | .bool .. | .brk .. | .cont .. => rfl
  | .call _ callee args => by
      rw [Node.preorder_expr]
      simp only [Expr.entries, Surroundings.entry, List.map_cons,
        List.map_append, Expr.node_entries _ callee, node_exprEntries _ args]
  | .methodCall _ receiver _ _ args => by
      rw [Node.preorder_expr]
      simp only [Expr.entries, Surroundings.entry, List.map_cons,
        List.map_append, Expr.node_entries _ receiver, node_exprEntries _ args]
  | .field _ subject _ => by
      rw [Node.preorder_expr]
      simp only [Expr.entries, Surroundings.entry, List.map_cons,
        Expr.node_entries _ subject]
  | .index _ subject position => by
      rw [Node.preorder_expr]
      simp only [Expr.entries, Surroundings.entry, List.map_cons,
        List.map_append, Expr.node_entries _ subject, Expr.node_entries _ position]
  | .unary _ _ operand => by
      rw [Node.preorder_expr]
      simp only [Expr.entries, Surroundings.entry, List.map_cons,
        Expr.node_entries _ operand]
  | .binary _ _ left right => by
      rw [Node.preorder_expr]
      simp only [Expr.entries, Surroundings.entry, List.map_cons,
        List.map_append, Expr.node_entries _ left, Expr.node_entries _ right]
  | .range _ lower upper => by
      rw [Node.preorder_expr]
      simp only [Expr.entries, Surroundings.entry, List.map_cons,
        List.map_append, node_optionEntries _ lower, node_optionEntries _ upper]
  | .array _ elems | .tuple _ elems | .macroCall _ _ elems => by
      rw [Node.preorder_expr]
      simp only [Expr.entries, Surroundings.entry, List.map_cons,
        node_exprEntries _ elems]
  | .closure _ ps body _ => by
      rw [Node.preorder_expr]
      simp only [Expr.entries, Surroundings.entry, List.map_cons,
        List.map_append, node_paramEntries, Expr.node_entries _ body]
  | .block _ body | .loop _ body => by
      rw [Node.preorder_expr]
      simp only [Expr.entries, Surroundings.entry, List.map_cons,
        Block.node_entries _ body]
  | .cond _ test yes no => by
      rw [Node.preorder_expr]
      simp only [Expr.entries, Surroundings.entry, List.map_cons,
        List.map_append, Expr.node_entries _ test, Block.node_entries _ yes,
        node_optionEntries _ no]
  | .whileLoop _ test body => by
      rw [Node.preorder_expr]
      simp only [Expr.entries, Surroundings.entry, List.map_cons,
        List.map_append, Expr.node_entries _ test, Block.node_entries _ body]
  | .forLoop _ p iterable body => by
      rw [Node.preorder_expr]
      simp only [Expr.entries, Surroundings.entry, List.map_cons,
        List.map_append, Pat.node_entries, Expr.node_entries _ iterable,
        Block.node_entries _ body]
  | .ret _ value => by
      rw [Node.preorder_expr]
      simp only [Expr.entries, Surroundings.entry, List.map_cons,
        node_optionEntries _ value]

theorem node_exprEntries (s : Surroundings) :
    (es : List Expr) →
      (exprEntries s es).map Entry.node = es.flatMap fun e => (Node.expr e).preorder
  | [] => rfl
  | e :: es => by
      simp only [exprEntries, List.map_append, List.flatMap_cons]
      rw [Expr.node_entries s e, node_exprEntries s es]

theorem node_optionEntries (s : Surroundings) :
    (o : Option Expr) →
      (optionEntries s o).map Entry.node = o.toList.flatMap fun e => (Node.expr e).preorder
  | none => rfl
  | some e => by simp [optionEntries, Expr.node_entries s e]

theorem Stmt.node_entries (s : Surroundings) :
    (t : Stmt) → (t.entries s).map Entry.node = (Node.stmt t).preorder
  | .expr _ value => by
      rw [Node.preorder_stmt]
      simp only [Stmt.entries, Surroundings.entry, List.map_cons,
        Expr.node_entries _ value]
  | .letIn _ p _ value => by
      rw [Node.preorder_stmt]
      simp only [Stmt.entries, Surroundings.entry, List.map_cons,
        List.map_append, Pat.node_entries, node_optionEntries _ value]

theorem node_stmtEntries (s : Surroundings) :
    (ts : List Stmt) →
      (stmtEntries s ts).map Entry.node = ts.flatMap fun t => (Node.stmt t).preorder
  | [] => rfl
  | t :: ts => by
      simp only [stmtEntries, List.map_append, List.flatMap_cons]
      rw [Stmt.node_entries s t, node_stmtEntries s ts]

theorem Block.node_entries (s : Surroundings) :
    (b : Block) → (b.entries s).map Entry.node = (Node.block b).preorder
  | .mk _ stmts tail => by
      rw [Node.preorder_block]
      simp only [Block.entries, Surroundings.entry, List.map_cons,
        List.map_append, node_stmtEntries _ stmts, node_optionEntries _ tail]

end

theorem Function.node_entries (s : Surroundings) (f : Function) :
    (f.entries s).map Entry.node = (Node.function f).preorder := by
  rw [Node.preorder_function]
  simp only [Function.entries, Surroundings.entry, List.map_cons, List.map_append,
    node_paramEntries, Block.node_entries]

theorem Module.node_entries (m : Module) :
    m.entries.map Entry.node =
      .module m :: m.functions.flatMap fun f => (Node.function f).preorder := by
  simp [Module.entries, Surroundings.entry, List.map_flatMap, Function.node_entries]

theorem Node.preorder_eq (n : Node) : n.preorder = n :: n.children.flatMap Node.preorder := by
  cases n with
  | module m =>
      change m.entries.map Entry.node = _
      rw [Module.node_entries]
      simp [Node.children, List.flatMap_map]
  | function f =>
      rw [Node.preorder_function]
      simp [Function.entries, Surroundings.entry, Node.children, List.flatMap_map,
        node_paramEntries, Block.node_entries]
  | param p =>
      rw [Node.preorder_param]
      simp [Param.entries, Surroundings.entry, Node.children, Pat.node_entries]
  | pat p =>
      rw [Node.preorder_pat]
      cases p <;> simp [Pat.entries, Surroundings.entry, Node.children, List.flatMap_map,
        node_patEntries]
  | block b =>
      rw [Node.preorder_block]
      cases b
      simp [Block.entries, Surroundings.entry, Node.children, List.flatMap_map, node_stmtEntries,
        node_optionEntries]
  | stmt t =>
      rw [Node.preorder_stmt]
      cases t <;> simp [Stmt.entries, Surroundings.entry, Node.children, List.flatMap_map,
        Pat.node_entries, Expr.node_entries, node_optionEntries]
  | expr e =>
      rw [Node.preorder_expr]
      cases e <;> simp [Expr.entries, Surroundings.entry, Node.children, Expr.children,
        List.flatMap_map, node_paramEntries, Pat.node_entries, Expr.node_entries,
        Block.node_entries, node_exprEntries, node_optionEntries]

/-- The nodes visited so far, those that are still to come with all below them, the next one at the
end, and whether the node visited last was a stop. -/
structure Walk where
  seen : Array Node := #[]
  stack : Array Node
  stopped : Bool := false

namespace Walk

def start (root : Node) : Walk := { stack := #[root] }

def isOver (w : Walk) : Bool := w.stopped || w.stack.isEmpty

def step (stop : Node → Bool) (w : Walk) : Walk :=
  match w.stopped, w.stack.back? with
  | false, some top =>
      let w := { w with seen := w.seen.push top, stack := w.stack.pop }
      if stop top then { w with stopped := true }
      else { w with stack := w.stack ++ top.children.reverse }
  | _, _ => w

def listed (stack : Array Node) : List Node := stack.toList.reverse.flatMap Node.preorder

theorem listed_empty : listed #[] = [] := rfl

theorem listed_singleton (root : Node) : listed #[root] = root.preorder := List.flatMap_singleton ..

theorem listed_push (stack : Array Node) (top : Node) :
    listed (stack.push top) = top.preorder ++ listed stack := by
  simp [listed]

theorem listed_push_eq_cons (stack : Array Node) (top : Node) :
    listed (stack.push top) = top :: listed (stack ++ top.children.reverse) := by
  rw [listed_push, top.preorder_eq]
  simp [listed]

variable (stop : Node → Bool) {w : Walk}

theorem step_of_isOver (h : w.isOver = true) : w.step stop = w := by
  obtain ⟨seen, stack, stopped⟩ := w
  cases stopped with
  | true => rfl
  | false =>
      have hempty : stack = #[] := by simpa [isOver] using h
      subst hempty
      rfl

theorem exists_step (h : w.isOver = false) :
    ∃ rest top, w.stopped = false ∧ w.stack = rest.push top ∧
      w.step stop = if stop top then ⟨w.seen.push top, rest, true⟩
        else ⟨w.seen.push top, rest ++ top.children.reverse, false⟩ := by
  obtain ⟨seen, stack, stopped⟩ := w
  obtain ⟨rfl, hstack⟩ : stopped = false ∧ stack ≠ #[] := by simpa [isOver] using h
  cases htop : stack.back? with
  | none => exact absurd (by simpa using htop) hstack
  | some top =>
      obtain ⟨rest, rfl⟩ := Array.back?_eq_some_iff.mp htop
      refine ⟨rest, top, rfl, rfl, ?_⟩
      simp only [step, htop, Array.pop_push]

theorem length_listed_step_lt (h : w.isOver = false) :
    (listed (w.step stop).stack).length < (listed w.stack).length := by
  obtain ⟨rest, top, -, hstack, hstep⟩ := exists_step stop h
  rw [hstack, hstep]
  split
  · rw [listed_push, top.preorder_eq]
    simp only [List.cons_append, List.length_cons, List.length_append]
    omega
  · rw [listed_push_eq_cons]
    exact Nat.lt_succ_self _

def run (stop : Node → Bool) (w : Walk) : Walk :=
  if w.isOver then w else (w.step stop).run stop
termination_by (listed w.stack).length
decreasing_by exact length_listed_step_lt stop (eq_false_of_ne_true ‹_›)

end Walk

def Node.walk (stop : Node → Bool) (root : Node) : List Node × Bool :=
  let w := (Walk.start root).run stop
  (w.seen.toList, w.stopped)

end ChainLint.Tree
