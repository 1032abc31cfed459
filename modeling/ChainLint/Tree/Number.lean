import ChainLint.Tree.Basic

namespace ChainLint.Tree

abbrev Numbering := StateM NodeId

namespace Numbering

def next (i : Info) : Numbering Info := modifyGet fun n => ({ i with id := n }, n + 1)

mutual

def pat : Pat → Numbering Pat
  | .binding i name isMut => do return .binding (← next i) name isMut
  | .wild i => do return .wild (← next i)
  | .tuple i elems => do
      let i ← next i
      return .tuple i (← pats elems)

def pats : List Pat → Numbering (List Pat)
  | [] => return []
  | p :: ps => do
      let p ← pat p
      let ps ← pats ps
      return p :: ps

end

def param (p : Param) : Numbering Param := do
  let i ← next p.info
  return ⟨i, ← pat p.pattern, p.declared⟩

def params : List Param → Numbering (List Param)
  | [] => return []
  | p :: ps => do
      let p ← param p
      let ps ← params ps
      return p :: ps

mutual

def expr : Expr → Numbering Expr
  | .var i name binding => do return .var (← next i) name binding
  | .int i value suffix => do return .int (← next i) value suffix
  | .float i bits suffix => do return .float (← next i) bits suffix
  | .string i value => do return .string (← next i) value
  | .bool i value => do return .bool (← next i) value
  | .call i callee args => do
      let i ← next i
      let callee ← expr callee
      return .call i callee (← exprs args)
  | .methodCall i receiver name nameSpan args => do
      let i ← next i
      let receiver ← expr receiver
      return .methodCall i receiver name nameSpan (← exprs args)
  | .field i subject name => do
      let i ← next i
      return .field i (← expr subject) name
  | .index i subject position => do
      let i ← next i
      let subject ← expr subject
      return .index i subject (← expr position)
  | .unary i op operand => do
      let i ← next i
      return .unary i op (← expr operand)
  | .binary i op left right => do
      let i ← next i
      let left ← expr left
      return .binary i op left (← expr right)
  | .range i lower upper => do
      let i ← next i
      let lower ← optional lower
      return .range i lower (← optional upper)
  | .array i elems => do
      let i ← next i
      return .array i (← exprs elems)
  | .tuple i elems => do
      let i ← next i
      return .tuple i (← exprs elems)
  | .closure i ps body isMove => do
      let i ← next i
      let ps ← params ps
      return .closure i ps (← expr body) isMove
  | .macroCall i name args => do
      let i ← next i
      return .macroCall i name (← exprs args)
  | .block i body => do
      let i ← next i
      return .block i (← block body)
  | .cond i test yes no => do
      let i ← next i
      let test ← expr test
      let yes ← block yes
      return .cond i test yes (← optional no)
  | .whileLoop i test body => do
      let i ← next i
      let test ← expr test
      return .whileLoop i test (← block body)
  | .loop i body => do
      let i ← next i
      return .loop i (← block body)
  | .forLoop i p iterable body => do
      let i ← next i
      let p ← pat p
      let iterable ← expr iterable
      return .forLoop i p iterable (← block body)
  | .ret i value => do
      let i ← next i
      return .ret i (← optional value)
  | .brk i => do return .brk (← next i)
  | .cont i => do return .cont (← next i)

def exprs : List Expr → Numbering (List Expr)
  | [] => return []
  | e :: es => do
      let e ← expr e
      let es ← exprs es
      return e :: es

def optional : Option Expr → Numbering (Option Expr)
  | none => return none
  | some e => do return some (← expr e)

def stmt : Stmt → Numbering Stmt
  | .expr i value => do
      let i ← next i
      return .expr i (← expr value)
  | .letIn i p declared value => do
      let i ← next i
      let p ← pat p
      return .letIn i p declared (← optional value)

def stmts : List Stmt → Numbering (List Stmt)
  | [] => return []
  | s :: ss => do
      let s ← stmt s
      let ss ← stmts ss
      return s :: ss

def block : Block → Numbering Block
  | .mk i ss tail => do
      let i ← next i
      let ss ← stmts ss
      return .mk i ss (← optional tail)

end

def function (f : Function) : Numbering Function := do
  let i ← next f.info
  let ps ← params f.params
  let body ← block f.body
  return { f with info := i, params := ps, body := body }

def functions : List Function → Numbering (List Function)
  | [] => return []
  | f :: fs => do
      let f ← function f
      let fs ← functions fs
      return f :: fs

def module (m : Module) : Numbering Module := do
  let i ← next m.info
  let fs ← functions m.functions
  return { m with info := i, functions := fs }

end Numbering

def Module.number (start : NodeId) (m : Module) : Module × NodeId := (Numbering.module m).run start

end ChainLint.Tree
