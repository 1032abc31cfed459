import ChainLint.Source.Expansion
import ChainLint.Surface.Basic
import ChainLint.Text.Escape
import ChainLint.Text.Numeral
import ChainLint.Tree.Basic

namespace ChainLint.Tree

inductive BuildError where
  | missingSemicolon (span : Span)
  | badString (cause : EscapeError)
  | longInteger
  deriving DecidableEq, Repr

def BuildError.missingSemicolonMessage : String := "expected `;` after expression"

/-- Contexts given out before an error stay given out. -/
abbrev Build := ExceptT BuildError (StateM Expansions)

namespace Build

def spanOf (file : Option String) (e : Surface.Extent) : Span := .between file e.start e.stop

def infoOf (file : Option String) (e : Surface.Extent) : Info := ⟨0, spanOf file e⟩

def spell (t : Token) : String := String.ofList t.text

def pathName (segments : List Token) : String := "::".intercalate (segments.map spell)

mutual

def typeExpr (file : Option String) : Surface.TypeExpr → TypeExpr
  | .named path args e => .mk (pathName path) (typeExprs file args) (spanOf file e)
  | .ref isMut target e =>
      .mk (if isMut then "&mut" else "&") [typeExpr file target] (spanOf file e)
  | .slice elem e => .mk "[]" [typeExpr file elem] (spanOf file e)
  | .unit e => .mk "()" [] (spanOf file e)
  | .tuple elems e => .mk "()" (typeExprs file elems) (spanOf file e)

def typeExprs (file : Option String) : List Surface.TypeExpr → List TypeExpr
  | [] => []
  | t :: ts => typeExpr file t :: typeExprs file ts

end

mutual

def pattern (file : Option String) : Surface.Pat → Pat
  | .binding isMut name e => .binding (infoOf file e) (spell name) isMut
  | .wild e => .wild (infoOf file e)
  | .tuple elems e => .tuple (infoOf file e) (patterns file elems)

def patterns (file : Option String) : List Surface.Pat → List Pat
  | [] => []
  | p :: ps => pattern file p :: patterns file ps

end

def param (file : Option String) (p : Surface.Param) : Param :=
  ⟨infoOf file p.extent, pattern file p.pattern, p.declared.map (typeExpr file)⟩

def unquote (lexeme : List Char) : List Char := (lexeme.drop 1).dropLast

def isEmptyItem : Surface.Item → Bool
  | .empty _ => true
  | _ => false

def moreItems (items : List Surface.Item) : Bool := !items.all isEmptyItem

mutual

def expr (file : Option String) : Surface.Expr → Build Expr
  | .int t =>
      match Numeral.integer? t.text with
      | none => throw .longInteger
      | some n => pure (.int (infoOf file (.ofToken t)) n.value n.suffix)
  | .float t =>
      let r := Numeral.real t.text
      pure (.float (infoOf file (.ofToken t)) r.bits r.suffix)
  | .string t =>
      match Escape.decode (unquote t.text) with
      | .error cause => throw (.badString cause)
      | .ok value => pure (.string (infoOf file (.ofToken t)) value)
  | .bool value t => pure (.bool (infoOf file (.ofToken t)) value)
  | .path segments e => pure (.var (infoOf file e) (pathName segments) none)
  | .macroCall name args e => do
      let site := spanOf file e
      let context ← modifyGet fun expansions => expansions.push ⟨spell name, site⟩
      let args ← exprs file args
      return .macroCall ⟨0, { site with context := context }⟩ (spell name) args
  | .paren inner _ => expr file inner
  | .tuple elems e => do return .tuple (infoOf file e) (← exprs file elems)
  | .array elems e => do return .array (infoOf file e) (← exprs file elems)
  | .block body => do return .block (infoOf file body.extent) (← block file body)
  | .cond test yes no e => do
      let test ← expr file test
      let yes ← block file yes
      let no ← optional file no
      return .cond (infoOf file e) test yes no
  | .whileLoop test body e => do
      let test ← expr file test
      let body ← block file body
      return .whileLoop (infoOf file e) test body
  | .loop body e => do return .loop (infoOf file e) (← block file body)
  | .forLoop p iterable body e => do
      let iterable ← expr file iterable
      let body ← block file body
      return .forLoop (infoOf file e) (pattern file p) iterable body
  | .ret value e => do return .ret (infoOf file e) (← optional file value)
  | .brk e => pure (.brk (infoOf file e))
  | .cont e => pure (.cont (infoOf file e))
  | .unary op operand e => do return .unary (infoOf file e) op (← expr file operand)
  | .binary op left right _ => do
      let left ← expr file left
      let right ← expr file right
      return .binary ⟨0, left.span.join right.span⟩ op left right
  | .range lower upper e => do
      let lower ← optional file lower
      let upper ← optional file upper
      return .range (infoOf file e) lower upper
  | .call callee args e => do
      let callee ← expr file callee
      let args ← exprs file args
      return .call (infoOf file e) callee args
  | .methodCall receiver name args e => do
      let receiver ← expr file receiver
      let args ← exprs file args
      return .methodCall (infoOf file e) receiver (spell name) (spanOf file (.ofToken name)) args
  | .field subject name e => do return .field (infoOf file e) (← expr file subject) (spell name)
  | .index subject position e => do
      let subject ← expr file subject
      let position ← expr file position
      return .index (infoOf file e) subject position
  | .closure isMove params body e => do
      let body ← expr file body
      return .closure (infoOf file e) (params.map (param file)) body isMove

def exprs (file : Option String) : List Surface.Expr → Build (List Expr)
  | [] => pure []
  | e :: es => do
      let e ← expr file e
      let es ← exprs file es
      return e :: es

def optional (file : Option String) : Option Surface.Expr → Build (Option Expr)
  | none => pure none
  | some e => do return some (← expr file e)

def block (file : Option String) : Surface.Block → Build Block
  | .mk items e => do
      let (stmts, tail) ← stmts file items
      return .mk (infoOf file e) stmts tail

/-- An expression without a semicolon is the block's value if nothing comes after it, and a
statement if it ends in a block of its own. -/
def stmts (file : Option String) : List Surface.Item → Build (List Stmt × Option Expr)
  | [] => pure ([], none)
  | .empty _ :: rest => stmts file rest
  | .letItem p declared value e :: rest => do
      let value ← optional file value
      let (ss, tail) ← stmts file rest
      return (.letIn (infoOf file e) (pattern file p) (declared.map (typeExpr file)) value :: ss,
        tail)
  | .exprItem value semi e :: rest => do
      let value ← expr file value
      if semi || (moreItems rest && value.isBlockLike) then
        let (ss, tail) ← stmts file rest
        return (.expr (infoOf file e) value :: ss, tail)
      else if moreItems rest then throw (.missingSemicolon value.span)
      else return ([], some value)

end

def function (file : Option String) (f : Surface.Function) : Build Function := do
  let body ← block file f.body
  return ⟨infoOf file f.extent, spell f.name, f.params.map (param file), body,
    f.result.map (typeExpr file)⟩

def functions (file : Option String) : List Surface.Function → Build (List Function)
  | [] => pure []
  | f :: fs => do
      let f ← function file f
      let fs ← functions file fs
      return f :: fs

def moduleSpan (file : Option String) (fs : List Surface.Function) : Span :=
  match fs.head?, fs.getLast? with
  | some first, some last => .between file first.extent.start last.extent.stop
  | _, _ => { file := file }

def module (file : Option String) (m : Surface.Module) : Build Module := do
  let fs ← functions file m.functions
  return ⟨⟨0, moduleSpan file m.functions⟩, file, fs⟩

end Build

end ChainLint.Tree
