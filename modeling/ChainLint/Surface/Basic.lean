import ChainLint.Surface.Operator
import ChainLint.Token.Lexer

namespace ChainLint.Surface

structure Extent where
  start : Position
  stop : Position
  deriving DecidableEq, Repr

def Extent.ofToken (t : Token) : Extent := ⟨t.start, t.stop⟩

inductive Pat where
  | binding (isMut : Bool) (name : Token) (extent : Extent)
  | wild (extent : Extent)
  | tuple (elems : List Pat) (extent : Extent)
  deriving Repr

def Pat.extent : Pat → Extent
  | .binding _ _ e | .wild e | .tuple _ e => e

inductive TypeExpr where
  | named (path : List Token) (args : List TypeExpr) (extent : Extent)
  | ref (isMut : Bool) (target : TypeExpr) (extent : Extent)
  | slice (elem : TypeExpr) (extent : Extent)
  | unit (extent : Extent)
  | tuple (elems : List TypeExpr) (extent : Extent)
  deriving Repr

def TypeExpr.extent : TypeExpr → Extent
  | .named _ _ e | .ref _ _ e | .slice _ e | .unit e | .tuple _ e => e

structure Param where
  pattern : Pat
  declared : Option TypeExpr
  extent : Extent
  deriving Repr

mutual

inductive Expr where
  | int (lexeme : Token)
  | float (lexeme : Token)
  | string (lexeme : Token)
  | bool (value : Bool) (lexeme : Token)
  | path (segments : List Token) (extent : Extent)
  | macroCall (name : Token) (args : List Expr) (extent : Extent)
  | paren (inner : Expr) (extent : Extent)
  | tuple (elems : List Expr) (extent : Extent)
  | array (elems : List Expr) (extent : Extent)
  | block (body : Block)
  | cond (test : Expr) (yes : Block) (no : Option Expr) (extent : Extent)
  | whileLoop (test : Expr) (body : Block) (extent : Extent)
  | loop (body : Block) (extent : Extent)
  | forLoop (pattern : Pat) (iterable : Expr) (body : Block) (extent : Extent)
  | ret (value : Option Expr) (extent : Extent)
  | brk (extent : Extent)
  | cont (extent : Extent)
  | unary (op : UnaryOp) (operand : Expr) (extent : Extent)
  | binary (op : BinaryOp) (left right : Expr) (extent : Extent)
  | range (lower upper : Option Expr) (extent : Extent)
  | call (callee : Expr) (args : List Expr) (extent : Extent)
  | methodCall (receiver : Expr) (name : Token) (args : List Expr) (extent : Extent)
  | field (subject : Expr) (name : Token) (extent : Extent)
  | index (subject position : Expr) (extent : Extent)
  | closure (isMove : Bool) (params : List Param) (body : Expr) (extent : Extent)

inductive Block where
  | mk (items : List Item) (extent : Extent)

inductive Item where
  | empty (extent : Extent)
  | letItem (pattern : Pat) (declared : Option TypeExpr) (value : Option Expr) (extent : Extent)
  | exprItem (value : Expr) (semi : Bool) (extent : Extent)

end

def Block.extent : Block → Extent
  | .mk _ e => e

def Block.items : Block → List Item
  | .mk items _ => items

def Item.extent : Item → Extent
  | .empty e | .letItem _ _ _ e | .exprItem _ _ e => e

def Expr.extent : Expr → Extent
  | .int t | .float t | .string t | .bool _ t => .ofToken t
  | .block b => b.extent
  | .path _ e | .macroCall _ _ e | .paren _ e | .tuple _ e | .array _ e | .cond _ _ _ e
  | .whileLoop _ _ e | .loop _ e | .forLoop _ _ _ e | .ret _ e | .brk e | .cont e | .unary _ _ e
  | .binary _ _ _ e | .range _ _ e | .call _ _ e | .methodCall _ _ _ e | .field _ _ e
  | .index _ _ e | .closure _ _ _ e => e

structure Function where
  name : Token
  params : List Param
  result : Option TypeExpr
  body : Block
  extent : Extent

structure Module where
  functions : List Function

end ChainLint.Surface
