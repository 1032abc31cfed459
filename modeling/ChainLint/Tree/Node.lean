import ChainLint.Tree.Basic

namespace ChainLint.Tree

inductive Node where
  | module (m : Module)
  | function (f : Function)
  | param (p : Param)
  | pat (p : Pat)
  | block (b : Block)
  | stmt (s : Stmt)
  | expr (e : Expr)

namespace Node

def info : Node → Info
  | .module m => m.info
  | .function f => f.info
  | .param p => p.info
  | .pat p => p.info
  | .block b => b.info
  | .stmt s => s.info
  | .expr e => e.info

def id (n : Node) : NodeId := n.info.id

def span (n : Node) : Span := n.info.span

def ownsBody : Node → Bool
  | .function _ | .expr (.closure ..) => true
  | _ => false

end Node

def Expr.children : Expr → List Node
  | .var .. | .int .. | .float .. | .string .. | .bool .. | .brk .. | .cont .. => []
  | .call _ callee args => .expr callee :: args.map .expr
  | .methodCall _ receiver _ _ args => .expr receiver :: args.map .expr
  | .field _ subject _ => [.expr subject]
  | .index _ subject position => [.expr subject, .expr position]
  | .unary _ _ operand => [.expr operand]
  | .binary _ _ left right => [.expr left, .expr right]
  | .range _ lower upper => (lower.toList ++ upper.toList).map .expr
  | .array _ elems | .tuple _ elems | .macroCall _ _ elems => elems.map .expr
  | .closure _ params body _ => params.map .param ++ [.expr body]
  | .block _ body | .loop _ body => [.block body]
  | .cond _ test yes no => .expr test :: .block yes :: no.toList.map .expr
  | .whileLoop _ test body => [.expr test, .block body]
  | .forLoop _ p iterable body => [.pat p, .expr iterable, .block body]
  | .ret _ value => value.toList.map .expr

def Node.children : Node → List Node
  | .module m => m.functions.map .function
  | .function f => f.params.map .param ++ [.block f.body]
  | .param p => [.pat p.pattern]
  | .pat (.tuple _ elems) => elems.map .pat
  | .pat _ => []
  | .block (.mk _ stmts tail) => stmts.map .stmt ++ tail.toList.map .expr
  | .stmt (.expr _ value) => [.expr value]
  | .stmt (.letIn _ p _ value) => .pat p :: value.toList.map .expr
  | .expr e => e.children

end ChainLint.Tree
