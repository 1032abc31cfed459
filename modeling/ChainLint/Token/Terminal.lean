namespace ChainLint

inductive Terminal where
  | name | int | float | string
  | fnWord | mutWord | letWord | moveWord | trueWord | falseWord
  | ifWord | elseWord | whileWord | loopWord | forWord | inWord
  | returnWord | breakWord | continueWord | underscore
  | arrow | pathSep | orOr | andAnd | dotDot | eqEq | notEq | lessEq | greaterEq
  | less | greater | plus | minus | star | slash | percent | bang | amp | bar
  | semi | comma | colon | dot | equals
  | lparen | rparen | lbracket | rbracket | lbrace | rbrace
  | eof
  deriving DecidableEq, Repr

namespace Terminal

def spelling : Terminal → List Char
  | .name | .int | .float | .string | .eof => []
  | .fnWord => ['f', 'n']
  | .mutWord => ['m', 'u', 't']
  | .letWord => ['l', 'e', 't']
  | .moveWord => ['m', 'o', 'v', 'e']
  | .trueWord => ['t', 'r', 'u', 'e']
  | .falseWord => ['f', 'a', 'l', 's', 'e']
  | .ifWord => ['i', 'f']
  | .elseWord => ['e', 'l', 's', 'e']
  | .whileWord => ['w', 'h', 'i', 'l', 'e']
  | .loopWord => ['l', 'o', 'o', 'p']
  | .forWord => ['f', 'o', 'r']
  | .inWord => ['i', 'n']
  | .returnWord => ['r', 'e', 't', 'u', 'r', 'n']
  | .breakWord => ['b', 'r', 'e', 'a', 'k']
  | .continueWord => ['c', 'o', 'n', 't', 'i', 'n', 'u', 'e']
  | .underscore => ['_']
  | .arrow => ['-', '>']
  | .pathSep => [':', ':']
  | .orOr => ['|', '|']
  | .andAnd => ['&', '&']
  | .dotDot => ['.', '.']
  | .eqEq => ['=', '=']
  | .notEq => ['!', '=']
  | .lessEq => ['<', '=']
  | .greaterEq => ['>', '=']
  | .less => ['<']
  | .greater => ['>']
  | .plus => ['+']
  | .minus => ['-']
  | .star => ['*']
  | .slash => ['/']
  | .percent => ['%']
  | .bang => ['!']
  | .amp => ['&']
  | .bar => ['|']
  | .semi => [';']
  | .comma => [',']
  | .colon => [':']
  | .dot => ['.']
  | .equals => ['=']
  | .lparen => ['(']
  | .rparen => [')']
  | .lbracket => ['[']
  | .rbracket => [']']
  | .lbrace => ['\x7b']
  | .rbrace => ['\x7d']

def words : List Terminal :=
  [.fnWord, .mutWord, .letWord, .moveWord, .trueWord, .falseWord, .ifWord, .elseWord, .whileWord,
    .loopWord, .forWord, .inWord, .returnWord, .breakWord, .continueWord, .underscore]

def symbols : List Terminal :=
  [.arrow, .pathSep, .orOr, .andAnd, .dotDot, .eqEq, .notEq, .lessEq, .greaterEq, .less, .greater,
    .plus, .minus, .star, .slash, .percent, .bang, .amp, .bar, .semi, .comma, .colon, .dot, .equals,
    .lparen, .rparen, .lbracket, .rbracket, .lbrace, .rbrace]

def all : List Terminal := [.name, .int, .float, .string] ++ words ++ symbols

def operandStart : List Terminal :=
  [.name, .int, .float, .string, .trueWord, .falseWord, .minus, .bang, .amp, .star, .lparen,
    .lbracket, .lbrace, .ifWord, .whileWord, .loopWord, .forWord, .returnWord, .breakWord,
    .continueWord]

def exprStart : List Terminal := operandStart ++ [.dotDot, .bar, .orOr, .moveWord]

def patternStart : List Terminal := [.name, .mutWord, .underscore, .lparen]

def typeStart : List Terminal := [.name, .amp, .lbracket, .lparen]

def binaryOperators : List Terminal :=
  [.orOr, .andAnd, .eqEq, .notEq, .lessEq, .greaterEq, .less, .greater, .plus, .minus, .star,
    .slash, .percent]

theorem operandStart_subset_exprStart : operandStart ⊆ exprStart := by
  simp [exprStart]

theorem mem_all (t : Terminal) (h : t ≠ .eof) : t ∈ all := by
  cases t <;> simp_all [all, words, symbols]

end Terminal

end ChainLint
