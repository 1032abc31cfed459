import ChainLint.Token.Lexer

namespace ChainLint.Numeral

def plain (lexeme : List Char) : List Char := lexeme.filter (· ≠ '_')

def suffix? (suffixes : List (List Char)) (lexeme : List Char) : Option (List Char) :=
  suffixes.find? (·.isSuffixOf lexeme)

def dropSuffix (suffixes : List (List Char)) (lexeme : List Char) : List Char :=
  lexeme.take (lexeme.length - ((suffix? suffixes lexeme).getD []).length)

def value (digits : List Char) : Nat :=
  digits.foldl (fun n c => 10 * n + (c.toNat - '0'.toNat)) 0

def maxDigits : Nat := 4300

structure Integer where
  value : Nat
  suffix : Option String
  deriving DecidableEq, Repr

def integer? (lexeme : List Char) : Option Integer :=
  let text := plain lexeme
  let digits := dropSuffix Lexer.intSuffixes text
  if maxDigits < digits.length then none
  else some ⟨value digits, (suffix? Lexer.intSuffixes text).map String.ofList⟩

def roundHalfEven (n d : Nat) : Nat :=
  let q := n / d
  let r := n % d
  if 2 * r < d then q
  else if d < 2 * r then q + 1
  else if q % 2 = 0 then q else q + 1

def scale (n d : Nat) (k : Int) : Nat × Nat :=
  if 0 ≤ k then (n <<< k.toNat, d) else (n, d <<< (-k).toNat)

def mantissaBits : Nat := 52

/-- The bits of the double nearest to `n / d`. The leading bit of a normal mantissa is not stored,
but added to the exponent above it. A magnitude out of range is infinite. -/
def doubleBits (n d : Nat) : Nat :=
  if n = 0 then 0
  else
    let guess : Int := (n.log2 : Int) - d.log2 - mantissaBits
    let (p, q) := scale n d (-guess)
    let exponent := max (if p < q <<< mantissaBits then guess - 1 else guess) (-1074)
    let (p, q) := scale n d (-exponent)
    let bits := (exponent + 1074).toNat <<< mantissaBits + roundHalfEven p q
    min bits (0x7FF <<< mantissaBits)

structure Real where
  bits : Nat
  suffix : Option String
  deriving DecidableEq, Repr

def real (lexeme : List Char) : Real :=
  let text := plain lexeme
  let digits := dropSuffix Lexer.floatSuffixes text
  let fraction := (digits.dropWhile (· ≠ '.')).drop 1
  ⟨doubleBits (value (digits.filter (· ≠ '.'))) (Nat.pow 10 fraction.length),
    (suffix? Lexer.floatSuffixes text).map String.ofList⟩

example : (real ['1', '.', '5']).bits = 0x3FF8000000000000 := by decide +kernel

example : (real ['0', '.', '1']).bits = 0x3FB999999999999A := by decide +kernel

end ChainLint.Numeral
