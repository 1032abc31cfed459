import ChainLint.Surface.Basic

namespace ChainLint.Surface

abbrev Parser := StateT Cursor (Except SyntaxError)

namespace Parser

def peek : Parser Terminal := fun c => .ok (c.token.terminal, c)

def fail {α : Type} : Parser α := fun c => .error c.unexpected

def shift (expected : Expectation) : Parser Token := fun c => do
  let c' ← c.advance expected
  return (c.token, c')

def expect (t : Terminal) (expected : Expectation) : Parser Token := do
  if (← peek) = t then shift expected else fail

def place : Parser Position := fun c => .ok (c.token.start, c)

def segments : Nat → Parser (List Token)
  | 0 => fail
  | n + 1 => do
      match ← peek with
      | .pathSep =>
          let _ ← shift .nameOnly
          let t ← expect .name .afterSegment
          let ts ← segments n
          return t :: ts
      | _ => return []

def lastStop (t : Token) (ts : List Token) : Position := (ts.getLast?.getD t).stop

mutual

def pattern : Nat → Parser Pat
  | 0 => fail
  | n + 1 => do
      match ← peek with
      | .name =>
          let t ← shift .afterPattern
          return .binding false t (.ofToken t)
      | .mutWord =>
          let m ← shift .nameOnly
          let t ← expect .name .afterPattern
          return .binding true t ⟨m.start, t.stop⟩
      | .underscore =>
          let t ← shift .afterPattern
          return .wild (.ofToken t)
      | .lparen =>
          let opening ← shift .patternOrClose
          let (elems, stop) ← patternElems n
          return .tuple elems ⟨opening.start, stop⟩
      | _ => fail

def patternElems : Nat → Parser (List Pat × Position)
  | 0 => fail
  | n + 1 => do
      match ← peek with
      | .rparen =>
          let closing ← shift .afterPattern
          return ([], closing.stop)
      | _ =>
          let p ← pattern n
          match ← peek with
          | .comma =>
              let _ ← shift .patternOrClose
              let (ps, stop) ← patternElems n
              return (p :: ps, stop)
          | _ =>
              let closing ← expect .rparen .afterPattern
              return ([p], closing.stop)

end

mutual

def typeExpr : Nat → Parser TypeExpr
  | 0 => fail
  | n + 1 => do
      match ← peek with
      | .name =>
          let t ← shift .afterTypeName
          let ts ← segments n
          match ← peek with
          | .less =>
              let _ ← shift .typeExpr
              let (args, stop) ← typeArgs n
              return .named (t :: ts) args ⟨t.start, stop⟩
          | _ => return .named (t :: ts) [] ⟨t.start, lastStop t ts⟩
      | .amp =>
          let amp ← shift .typeOrMut
          match ← peek with
          | .mutWord =>
              let _ ← shift .typeExpr
              let target ← typeExpr n
              return .ref true target ⟨amp.start, target.extent.stop⟩
          | _ =>
              let target ← typeExpr n
              return .ref false target ⟨amp.start, target.extent.stop⟩
      | .lbracket =>
          let opening ← shift .typeExpr
          let elem ← typeExpr n
          let closing ← expect .rbracket .afterType
          return .slice elem ⟨opening.start, closing.stop⟩
      | .lparen =>
          let opening ← shift .typeOrClose
          match ← peek with
          | .rparen =>
              let closing ← shift .afterType
              return .unit ⟨opening.start, closing.stop⟩
          | _ =>
              let first ← typeExpr n
              let _ ← expect .comma .typeOrClose
              let (others, stop) ← typeElems n
              return .tuple (first :: others) ⟨opening.start, stop⟩
      | _ => fail

def typeArgs : Nat → Parser (List TypeExpr × Position)
  | 0 => fail
  | n + 1 => do
      let t ← typeExpr n
      match ← peek with
      | .comma =>
          let _ ← shift .typeExpr
          let (ts, stop) ← typeArgs n
          return (t :: ts, stop)
      | _ =>
          let closing ← expect .greater .afterType
          return ([t], closing.stop)

def typeElems : Nat → Parser (List TypeExpr × Position)
  | 0 => fail
  | n + 1 => do
      match ← peek with
      | .rparen =>
          let closing ← shift .afterType
          return ([], closing.stop)
      | _ =>
          let t ← typeExpr n
          match ← peek with
          | .comma =>
              let _ ← shift .typeOrClose
              let (ts, stop) ← typeElems n
              return (t :: ts, stop)
          | _ =>
              let closing ← expect .rparen .afterType
              return ([t], closing.stop)

end

def closureParam (n : Nat) : Parser Param := do
  let p ← pattern n
  match ← peek with
  | .colon =>
      let _ ← shift .typeExpr
      let t ← typeExpr n
      return ⟨p, some t, ⟨p.extent.start, t.extent.stop⟩⟩
  | _ => return ⟨p, none, p.extent⟩

def closureParams : Nat → Parser (List Param)
  | 0 => fail
  | n + 1 => do
      let p ← closureParam n
      match ← peek with
      | .comma =>
          let _ ← shift .pattern
          let ps ← closureParams n
          return p :: ps
      | _ =>
          let _ ← expect .bar .expression
          return [p]

def closureHead (n : Nat) : Parser (List Param) := do
  match ← peek with
  | .orOr =>
      let _ ← shift .expression
      return []
  | _ =>
      let _ ← expect .bar .patternOrBar
      match ← peek with
      | .bar =>
          let _ ← shift .expression
          return []
      | _ => closureParams n

def startsExpr (t : Terminal) : Bool := Terminal.exprStart.contains t

def startsOperand (t : Terminal) : Bool := Terminal.operandStart.contains t

mutual

def expr : Nat → Parser Expr
  | 0 => fail
  | n + 1 => do
      match ← peek with
      | .moveWord =>
          let word ← shift .closureBars
          let params ← closureHead n
          let body ← expr n
          return .closure true params body ⟨word.start, body.extent.stop⟩
      | .bar | .orOr =>
          let start ← place
          let params ← closureHead n
          let body ← expr n
          return .closure false params body ⟨start, body.extent.stop⟩
      | .dotDot =>
          let dots ← shift .afterOperand
          upperBound n none dots.start dots.stop
      | _ =>
          let lower ← level n .disjunction
          match ← peek with
          | .dotDot =>
              let dots ← shift .afterOperand
              upperBound n (some lower) lower.extent.start dots.stop
          | _ => return lower

def upperBound : Nat → Option Expr → Position → Position → Parser Expr
  | 0, _, _, _ => fail
  | n + 1, lower, start, stop => do
      if startsOperand (← peek) then
        let upper ← level n .disjunction
        return .range lower (some upper) ⟨start, upper.extent.stop⟩
      else
        return .range lower none ⟨start, stop⟩

def level : Nat → Level → Parser Expr
  | 0, _ => fail
  | n + 1, l => do
      let left ← operand n l
      levelRest n l left

def operand : Nat → Level → Parser Expr
  | 0, _ => fail
  | n + 1, l =>
      match l.tighter? with
      | some l' => level n l'
      | none => unary n

def levelRest : Nat → Level → Expr → Parser Expr
  | 0, _, _ => fail
  | n + 1, l, left => do
      match l.operator? (← peek) with
      | none => return left
      | some op =>
          let _ ← shift .operand
          let right ← operand n l
          let whole := Expr.binary op left right ⟨left.extent.start, right.extent.stop⟩
          if l.chains then levelRest n l whole else return whole

def unary : Nat → Parser Expr
  | 0 => fail
  | n + 1 => do
      match ← peek with
      | .minus => prefixed n .neg (← shift .operand)
      | .bang => prefixed n .not (← shift .operand)
      | .star => prefixed n .deref (← shift .operand)
      | .amp =>
          let amp ← shift .operandOrMut
          match ← peek with
          | .mutWord =>
              let _ ← shift .operand
              prefixed n .refMut amp
          | _ => prefixed n .ref amp
      | _ =>
          let base ← primary n
          suffixes n base

def prefixed : Nat → UnaryOp → Token → Parser Expr
  | 0, _, _ => fail
  | n + 1, op, first => do
      let e ← unary n
      return .unary op e ⟨first.start, e.extent.stop⟩

def suffixes : Nat → Expr → Parser Expr
  | 0, _ => fail
  | n + 1, base => do
      match ← peek with
      | .dot =>
          let _ ← shift .memberName
          match ← peek with
          | .name =>
              let name ← shift .afterOperand
              match ← peek with
              | .lparen =>
                  let _ ← shift .expressionOrParen
                  let (args, stop) ← arguments n .rparen
                  suffixes n (.methodCall base name args ⟨base.extent.start, stop⟩)
              | _ => suffixes n (.field base name ⟨base.extent.start, name.stop⟩)
          | _ =>
              let name ← expect .int .afterOperand
              suffixes n (.field base name ⟨base.extent.start, name.stop⟩)
      | .lparen =>
          let _ ← shift .expressionOrParen
          let (args, stop) ← arguments n .rparen
          suffixes n (.call base args ⟨base.extent.start, stop⟩)
      | .lbracket =>
          let _ ← shift .expression
          let position ← expr n
          let closing ← expect .rbracket .afterOperand
          suffixes n (.index base position ⟨base.extent.start, closing.stop⟩)
      | _ => return base

def arguments : Nat → Terminal → Parser (List Expr × Position)
  | 0, _ => fail
  | n + 1, close => do
      if (← peek) = close then
        let closing ← shift .afterOperand
        return ([], closing.stop)
      else
        let e ← expr n
        match ← peek with
        | .comma =>
            let _ ← shift .expressionOrClose
            let (es, stop) ← arguments n close
            return (e :: es, stop)
        | _ =>
            let closing ← expect close .afterOperand
            return ([e], closing.stop)

def primary : Nat → Parser Expr
  | 0 => fail
  | n + 1 => do
      match ← peek with
      | .int => return .int (← shift .afterOperand)
      | .float => return .float (← shift .afterOperand)
      | .string => return .string (← shift .afterOperand)
      | .trueWord => return .bool true (← shift .afterOperand)
      | .falseWord => return .bool false (← shift .afterOperand)
      | .name =>
          let name ← shift .afterName
          match ← peek with
          | .bang =>
              let _ ← shift .macroOpen
              match ← peek with
              | .lbracket =>
                  let _ ← shift .expressionOrBracket
                  let (args, stop) ← arguments n .rbracket
                  return .macroCall name args ⟨name.start, stop⟩
              | _ =>
                  let _ ← expect .lparen .expressionOrParen
                  let (args, stop) ← arguments n .rparen
                  return .macroCall name args ⟨name.start, stop⟩
          | _ =>
              let more ← segments n
              return .path (name :: more) ⟨name.start, lastStop name more⟩
      | .lparen =>
          let opening ← shift .expression
          let inner ← expr n
          match ← peek with
          | .comma =>
              let _ ← shift .expressionOrParen
              let (others, stop) ← arguments n .rparen
              return .tuple (inner :: others) ⟨opening.start, stop⟩
          | _ =>
              let closing ← expect .rparen .afterOperand
              return .paren inner ⟨opening.start, closing.stop⟩
      | .lbracket =>
          let opening ← shift .expressionOrBracket
          let (elems, stop) ← arguments n .rbracket
          return .array elems ⟨opening.start, stop⟩
      | .lbrace => return .block (← block n)
      | .ifWord => cond n
      | .whileWord =>
          let word ← shift .expression
          let test ← expr n
          let body ← block n
          return .whileLoop test body ⟨word.start, body.extent.stop⟩
      | .loopWord =>
          let word ← shift .bodyOnly
          let body ← block n
          return .loop body ⟨word.start, body.extent.stop⟩
      | .forWord =>
          let word ← shift .pattern
          let p ← pattern n
          let _ ← expect .inWord .expression
          let iterable ← expr n
          let body ← block n
          return .forLoop p iterable body ⟨word.start, body.extent.stop⟩
      | .returnWord =>
          let word ← shift .afterOperand
          if startsExpr (← peek) then
            let value ← expr n
            return .ret (some value) ⟨word.start, value.extent.stop⟩
          else
            return .ret none (.ofToken word)
      | .breakWord => return .brk (.ofToken (← shift .afterOperand))
      | .continueWord => return .cont (.ofToken (← shift .afterOperand))
      | _ => fail

def cond : Nat → Parser Expr
  | 0 => fail
  | n + 1 => do
      let word ← expect .ifWord .expression
      let test ← expr n
      let yes ← block n
      match ← peek with
      | .elseWord =>
          let _ ← shift .elseBranch
          match ← peek with
          | .ifWord =>
              let no ← cond n
              return .cond test yes (some no) ⟨word.start, no.extent.stop⟩
          | _ =>
              let no ← block n
              return .cond test yes (some (.block no)) ⟨word.start, no.extent.stop⟩
      | _ => return .cond test yes none ⟨word.start, yes.extent.stop⟩

def block : Nat → Parser Block
  | 0 => fail
  | n + 1 => do
      let opening ← expect .lbrace .statement
      let items ← items n
      let closing ← expect .rbrace .afterBlock
      return .mk items ⟨opening.start, closing.stop⟩

def items : Nat → Parser (List Item)
  | 0 => fail
  | n + 1 => do
      match ← peek with
      | .semi =>
          let semi ← shift .statement
          return .empty (.ofToken semi) :: (← items n)
      | .letWord =>
          let item ← letItem n
          return item :: (← items n)
      | t =>
          if startsExpr t then
            let value ← expr n
            match ← peek with
            | .semi =>
                let semi ← shift .statement
                return .exprItem value true ⟨value.extent.start, semi.stop⟩ :: (← items n)
            | _ => return .exprItem value false value.extent :: (← items n)
          else return []

def letItem : Nat → Parser Item
  | 0 => fail
  | n + 1 => do
      let word ← expect .letWord .pattern
      let p ← pattern n
      let declared ← annotation n
      let value ← initializer n
      let semi ← expect .semi .statement
      return .letItem p declared value ⟨word.start, semi.stop⟩

def annotation : Nat → Parser (Option TypeExpr)
  | 0 => fail
  | n + 1 => do
      match ← peek with
      | .colon =>
          let _ ← shift .typeExpr
          return some (← typeExpr n)
      | _ => return none

def initializer : Nat → Parser (Option Expr)
  | 0 => fail
  | n + 1 => do
      match ← peek with
      | .equals =>
          let _ ← shift .expression
          return some (← expr n)
      | _ => return none

end

def param (n : Nat) : Parser Param := do
  let p ← pattern n
  let _ ← expect .colon .typeExpr
  let t ← typeExpr n
  return ⟨p, some t, ⟨p.extent.start, t.extent.stop⟩⟩

def params : Nat → Parser (List Param)
  | 0 => fail
  | n + 1 => do
      match ← peek with
      | .rparen =>
          let _ ← shift .arrowOrBody
          return []
      | _ =>
          let p ← param n
          match ← peek with
          | .comma =>
              let _ ← shift .patternOrClose
              return p :: (← params n)
          | _ =>
              let _ ← expect .rparen .arrowOrBody
              return [p]

def function (n : Nat) : Parser Function := do
  let word ← expect .fnWord .nameOnly
  let name ← expect .name .openParen
  let _ ← expect .lparen .patternOrClose
  let ps ← params n
  let result ←
    match ← peek with
    | .arrow =>
        let _ ← shift .typeExpr
        pure (some (← typeExpr n))
    | _ => pure none
  let body ← block n
  return ⟨name, ps, result, body, ⟨word.start, body.extent.stop⟩⟩

def functions : Nat → Parser (List Function)
  | 0 => fail
  | n + 1 => do
      match ← peek with
      | .eof => return []
      | _ =>
          let f ← function n
          return f :: (← functions n)

/-- Of sixteen nested calls one reads a token, so the bound on the depth of calls is never reached. -/
def depthFor (length : Nat) : Nat := 16 * (length + 2)

end Parser

def parse (text : List Char) : Except SyntaxError (Module × List Token) := do
  let c ← Cursor.ofText text
  let (fs, c) ← Parser.functions (Parser.depthFor text.length) c
  return (⟨fs⟩, c.past.reverse)

end ChainLint.Surface
