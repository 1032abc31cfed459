import ChainLint.Token.Terminal

namespace ChainLint

/-- What may follow the tokens read so far. A text is cut into tokens by what is expected: two
ampersands are one token only where a conjunction may stand, a word is a keyword only where that
keyword may stand. The sets are those of an automaton that remembers one token of context, so
some hold terminals that only other contexts can use. -/
inductive Expectation where
  | fileStart
  | nameOnly
  | openParen
  | patternOrClose
  | afterPattern
  | arrowOrBody
  | statement
  | typeExpr
  | typeOrClose
  | typeOrMut
  | afterTypeName
  | afterType
  | pattern
  | patternOrBar
  | closureBars
  | expression
  | expressionOrParen
  | expressionOrBracket
  | expressionOrClose
  | operand
  | operandOrMut
  | afterOperand
  | afterName
  | afterSegment
  | afterBlock
  | memberName
  | macroOpen
  | bodyOnly
  | elseBranch
  deriving DecidableEq, Repr

namespace Expectation

open Terminal in
def terminals : Expectation → List Terminal
  | .fileStart => [.fnWord]
  | .nameOnly => [.name]
  | .openParen => [.lparen]
  | .patternOrClose => .rparen :: patternStart
  | .afterPattern => [.rparen, .comma, .colon, .semi, .equals, .inWord, .bar]
  | .arrowOrBody => [.arrow, .lbrace]
  | .statement => [.semi, .letWord, .rbrace] ++ exprStart
  | .typeExpr => typeStart
  | .typeOrClose => .rparen :: typeStart
  | .typeOrMut => .mutWord :: typeStart
  | .afterTypeName =>
      [.rparen, .comma, .pathSep, .semi, .less, .equals, .greater, .rbracket, .lbrace, .bar]
  | .afterType => [.rparen, .comma, .semi, .equals, .greater, .rbracket, .lbrace, .bar]
  | .pattern => patternStart
  | .patternOrBar => .bar :: patternStart
  | .closureBars => [.bar, .orOr]
  | .expression => exprStart
  | .expressionOrParen => .rparen :: exprStart
  | .expressionOrBracket => .rbracket :: exprStart
  | .expressionOrClose => .rparen :: .rbracket :: exprStart
  | .operand => operandStart
  | .operandOrMut => .mutWord :: operandStart
  | .afterOperand => operandFollow
  | .afterName => .pathSep :: operandFollow
  | .afterSegment => .pathSep :: .equals :: operandFollow
  | .afterBlock => .elseWord :: .fnWord :: operandFollow
  | .memberName => [.name, .int]
  | .macroOpen => [.lparen, .lbracket]
  | .bodyOnly => [.lbrace]
  | .elseBranch => [.ifWord, .lbrace]
where
  operandFollow : List Terminal :=
    exprStart ++ binaryOperators ++ [.dot, .comma, .semi, .letWord, .rparen, .rbracket, .rbrace]

end Expectation

end ChainLint
