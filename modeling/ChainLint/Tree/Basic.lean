import ChainLint.Source.Span
import ChainLint.Surface.Operator

namespace ChainLint.Tree

abbrev NodeId := Int

structure Info where
  id : NodeId
  span : Span
  deriving DecidableEq, Repr

/-- A type as written. The heads `&`, `&mut`, `[]` and `()` stand for the types without a name. -/
inductive TypeExpr where
  | mk (name : String) (args : List TypeExpr) (span : Span)
  deriving Repr

inductive Pat where
  | binding (info : Info) (name : String) (isMut : Bool)
  | wild (info : Info)
  | tuple (info : Info) (elems : List Pat)
  deriving Repr

structure Param where
  info : Info
  pattern : Pat
  declared : Option TypeExpr
  deriving Repr

mutual

inductive Expr where
  | var (info : Info) (name : String) (binding : Option NodeId)
  | int (info : Info) (value : Nat) (suffix : Option String)
  | float (info : Info) (bits : Nat) (suffix : Option String)
  | string (info : Info) (value : List Char)
  | bool (info : Info) (value : Bool)
  | call (info : Info) (callee : Expr) (args : List Expr)
  | methodCall (info : Info) (receiver : Expr) (name : String) (nameSpan : Span)
      (args : List Expr)
  | field (info : Info) (subject : Expr) (name : String)
  | index (info : Info) (subject position : Expr)
  | unary (info : Info) (op : UnaryOp) (operand : Expr)
  | binary (info : Info) (op : BinaryOp) (left right : Expr)
  | range (info : Info) (lower upper : Option Expr)
  | array (info : Info) (elems : List Expr)
  | tuple (info : Info) (elems : List Expr)
  | closure (info : Info) (params : List Param) (body : Expr) (isMove : Bool)
  | macroCall (info : Info) (name : String) (args : List Expr)
  | block (info : Info) (body : Block)
  | cond (info : Info) (test : Expr) (yes : Block) (no : Option Expr)
  | whileLoop (info : Info) (test : Expr) (body : Block)
  | loop (info : Info) (body : Block)
  | forLoop (info : Info) (pattern : Pat) (iterable : Expr) (body : Block)
  | ret (info : Info) (value : Option Expr)
  | brk (info : Info)
  | cont (info : Info)

inductive Stmt where
  | expr (info : Info) (value : Expr)
  | letIn (info : Info) (pattern : Pat) (declared : Option TypeExpr) (value : Option Expr)

inductive Block where
  | mk (info : Info) (stmts : List Stmt) (tail : Option Expr)

end

structure Function where
  info : Info
  name : String
  params : List Param
  body : Block
  result : Option TypeExpr

structure Module where
  info : Info
  file : Option String
  functions : List Function

def Pat.info : Pat → Info
  | .binding i _ _ | .wild i | .tuple i _ => i

def Expr.info : Expr → Info
  | .var i _ _ | .int i _ _ | .float i _ _ | .string i _ | .bool i _ | .call i _ _
  | .methodCall i _ _ _ _ | .field i _ _ | .index i _ _ | .unary i _ _ | .binary i _ _ _
  | .range i _ _ | .array i _ | .tuple i _ | .closure i _ _ _ | .macroCall i _ _ | .block i _
  | .cond i _ _ _ | .whileLoop i _ _ | .loop i _ | .forLoop i _ _ _ | .ret i _ | .brk i
  | .cont i => i

def Stmt.info : Stmt → Info
  | .expr i _ | .letIn i _ _ _ => i

def Block.info : Block → Info
  | .mk i _ _ => i

def Block.stmts : Block → List Stmt
  | .mk _ stmts _ => stmts

def Block.tail : Block → Option Expr
  | .mk _ _ tail => tail

def Expr.span (e : Expr) : Span := e.info.span

def Expr.isBlockLike : Expr → Bool
  | .cond .. | .whileLoop .. | .loop .. | .forLoop .. | .block .. => true
  | _ => false

mutual

def Expr.depth : Expr → Nat
  | .var .. | .int .. | .float .. | .string .. | .bool .. | .brk .. | .cont .. => 1
  | .call _ callee args => max callee.depth (depthList args) + 1
  | .methodCall _ receiver _ _ args => max receiver.depth (depthList args) + 1
  | .field _ subject _ => subject.depth + 1
  | .index _ subject position => max subject.depth position.depth + 1
  | .unary _ _ operand => operand.depth + 1
  | .binary _ _ left right => max left.depth (right.depth + 1)
  | .range _ lower upper => max (depthOption lower) (depthOption upper) + 1
  | .array _ elems | .tuple _ elems | .macroCall _ _ elems => depthList elems + 1
  | .closure _ _ body _ => body.depth + 1
  | .block _ body | .loop _ body => body.depth + 1
  | .cond _ test yes no => max (max test.depth yes.depth) (depthOption no) + 1
  | .whileLoop _ test body => max test.depth body.depth + 1
  | .forLoop _ _ iterable body => max iterable.depth body.depth + 1
  | .ret _ value => depthOption value + 1

def depthList : List Expr → Nat
  | [] => 0
  | e :: es => max e.depth (depthList es)

def depthOption : Option Expr → Nat
  | none => 0
  | some e => e.depth

def Stmt.depth : Stmt → Nat
  | .expr _ value => value.depth
  | .letIn _ _ _ value => depthOption value

def depthStmts : List Stmt → Nat
  | [] => 0
  | s :: ss => max s.depth (depthStmts ss)

def Block.depth : Block → Nat
  | .mk _ stmts tail => max (depthStmts stmts) (depthOption tail)

end

def Module.depth (m : Module) : Nat := m.functions.foldl (fun d f => max d f.body.depth) 0

end ChainLint.Tree
