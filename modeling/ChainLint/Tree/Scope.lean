import ChainLint.Tree.Basic

namespace ChainLint.Tree

abbrev Scope := List (String × NodeId)

namespace Scope

mutual

def bind (scope : Scope) : Pat → Scope
  | .binding i name _ => (name, i.id) :: scope
  | .wild _ => scope
  | .tuple _ elems => bindAll scope elems

def bindAll (scope : Scope) : List Pat → Scope
  | [] => scope
  | p :: ps => bindAll (bind scope p) ps

end

def bindParams (scope : Scope) (ps : List Param) : Scope := bindAll scope (ps.map Param.pattern)

def afterStmts (scope : Scope) : List Stmt → Scope
  | [] => scope
  | .expr _ _ :: ss => afterStmts scope ss
  | .letIn _ p _ _ :: ss => afterStmts (scope.bind p) ss

def hasPathSep : List Char → Bool
  | [] => false
  | c :: cs => [':', ':'].isPrefixOf (c :: cs) || hasPathSep cs

theorem hasPathSep_iff (cs : List Char) : hasPathSep cs = true ↔ [':', ':'] <:+: cs := by
  induction cs with
  | nil => simp [hasPathSep]
  | cons c cs ih =>
      rw [hasPathSep, Bool.or_eq_true, ih, List.isPrefixOf_iff_prefix, List.infix_cons_iff]

def isQualified (name : String) : Bool := hasPathSep name.toList

def find? (scope : Scope) (name : String) : Option NodeId :=
  if isQualified name then none else scope.lookup name

mutual

def expr (scope : Scope) : Expr → Expr
  | .var i name _ => .var i name (scope.find? name)
  | .int i value suffix => .int i value suffix
  | .float i bits suffix => .float i bits suffix
  | .string i value => .string i value
  | .bool i value => .bool i value
  | .call i callee args => .call i (expr scope callee) (exprs scope args)
  | .methodCall i receiver name nameSpan args =>
      .methodCall i (expr scope receiver) name nameSpan (exprs scope args)
  | .field i subject name => .field i (expr scope subject) name
  | .index i subject position => .index i (expr scope subject) (expr scope position)
  | .unary i op operand => .unary i op (expr scope operand)
  | .binary i op left right => .binary i op (expr scope left) (expr scope right)
  | .range i lower upper => .range i (optional scope lower) (optional scope upper)
  | .array i elems => .array i (exprs scope elems)
  | .tuple i elems => .tuple i (exprs scope elems)
  | .closure i ps body isMove => .closure i ps (expr (scope.bindParams ps) body) isMove
  | .macroCall i name args => .macroCall i name (exprs scope args)
  | .block i body => .block i (block scope body)
  | .cond i test yes no => .cond i (expr scope test) (block scope yes) (optional scope no)
  | .whileLoop i test body => .whileLoop i (expr scope test) (block scope body)
  | .loop i body => .loop i (block scope body)
  | .forLoop i p iterable body =>
      .forLoop i p (expr scope iterable) (block (scope.bind p) body)
  | .ret i value => .ret i (optional scope value)
  | .brk i => .brk i
  | .cont i => .cont i

def exprs (scope : Scope) : List Expr → List Expr
  | [] => []
  | e :: es => expr scope e :: exprs scope es

def optional (scope : Scope) : Option Expr → Option Expr
  | none => none
  | some e => some (expr scope e)

def stmts (scope : Scope) : List Stmt → List Stmt
  | [] => []
  | .expr i value :: ss => .expr i (expr scope value) :: stmts scope ss
  | .letIn i p declared value :: ss =>
      .letIn i p declared (optional scope value) :: stmts (scope.bind p) ss

def block (scope : Scope) : Block → Block
  | .mk i ss tail => .mk i (stmts scope ss) (optional (scope.afterStmts ss) tail)

end

def function (f : Function) : Function :=
  { f with body := block (bindParams [] f.params) f.body }

end Scope

def Module.resolve (m : Module) : Module :=
  { m with functions := m.functions.map Scope.function }

end ChainLint.Tree
