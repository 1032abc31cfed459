import ChainLint.Tree.Node

namespace ChainLint.Tree

structure Entry where
  node : Node
  parent : Option NodeId
  body : Option NodeId

structure Surroundings where
  parent : Option NodeId
  body : Option NodeId

namespace Surroundings

def outermost : Surroundings := ⟨none, none⟩

def within (s : Surroundings) (n : Node) : Surroundings :=
  ⟨some n.id, if n.ownsBody then some n.id else s.body⟩

def entry (s : Surroundings) (n : Node) : Entry := ⟨n, s.parent, s.body⟩

end Surroundings

mutual

def Pat.entries (s : Surroundings) (p : Pat) : List Entry :=
  let within := s.within (.pat p)
  s.entry (.pat p) ::
    match p with
    | .binding .. | .wild .. => []
    | .tuple _ elems => patEntries within elems

def patEntries (s : Surroundings) : List Pat → List Entry
  | [] => []
  | p :: ps => p.entries s ++ patEntries s ps

end

def Param.entries (s : Surroundings) (p : Param) : List Entry :=
  s.entry (.param p) :: p.pattern.entries (s.within (.param p))

mutual

def Expr.entries (s : Surroundings) (e : Expr) : List Entry :=
  let within := s.within (.expr e)
  s.entry (.expr e) ::
    match e with
    | .var .. | .int .. | .float .. | .string .. | .bool .. | .brk .. | .cont .. => []
    | .call _ callee args => callee.entries within ++ exprEntries within args
    | .methodCall _ receiver _ _ args => receiver.entries within ++ exprEntries within args
    | .field _ subject _ => subject.entries within
    | .index _ subject position => subject.entries within ++ position.entries within
    | .unary _ _ operand => operand.entries within
    | .binary _ _ left right => left.entries within ++ right.entries within
    | .range _ lower upper => optionEntries within lower ++ optionEntries within upper
    | .array _ elems | .tuple _ elems | .macroCall _ _ elems => exprEntries within elems
    | .closure _ params body _ => params.flatMap (·.entries within) ++ body.entries within
    | .block _ body | .loop _ body => body.entries within
    | .cond _ test yes no =>
        test.entries within ++ yes.entries within ++ optionEntries within no
    | .whileLoop _ test body => test.entries within ++ body.entries within
    | .forLoop _ p iterable body =>
        p.entries within ++ iterable.entries within ++ body.entries within
    | .ret _ value => optionEntries within value

def exprEntries (s : Surroundings) : List Expr → List Entry
  | [] => []
  | e :: es => e.entries s ++ exprEntries s es

def optionEntries (s : Surroundings) : Option Expr → List Entry
  | none => []
  | some e => e.entries s

def Stmt.entries (s : Surroundings) (t : Stmt) : List Entry :=
  let within := s.within (.stmt t)
  s.entry (.stmt t) ::
    match t with
    | .expr _ value => value.entries within
    | .letIn _ p _ value => p.entries within ++ optionEntries within value

def stmtEntries (s : Surroundings) : List Stmt → List Entry
  | [] => []
  | t :: ts => t.entries s ++ stmtEntries s ts

def Block.entries (s : Surroundings) (b : Block) : List Entry :=
  let within := s.within (.block b)
  s.entry (.block b) ::
    match b with
    | .mk _ stmts tail => stmtEntries within stmts ++ optionEntries within tail

end

def Function.entries (s : Surroundings) (f : Function) : List Entry :=
  let within := s.within (.function f)
  s.entry (.function f) :: (f.params.flatMap (·.entries within) ++ f.body.entries within)

def Module.entries (m : Module) : List Entry :=
  let s := Surroundings.outermost
  s.entry (.module m) :: m.functions.flatMap (·.entries (s.within (.module m)))

namespace Node

def entries : Node → List Entry
  | .module m => m.entries
  | .function f => f.entries .outermost
  | .param p => p.entries .outermost
  | .pat p => p.entries .outermost
  | .block b => b.entries .outermost
  | .stmt s => s.entries .outermost
  | .expr e => e.entries .outermost

end Node

end ChainLint.Tree
