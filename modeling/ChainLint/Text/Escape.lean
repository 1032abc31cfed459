import ChainLint.Text.Utf8
import ChainLint.Text.CharName

namespace ChainLint

inductive EscapeError where
  | undecodable
  | tooLarge
  deriving DecidableEq, Repr

namespace Escape

def hexDigit? (c : Char) : Option Nat :=
  if '0' ≤ c ∧ c ≤ '9' then some (c.toNat - '0'.toNat)
  else if 'a' ≤ c ∧ c ≤ 'f' then some (c.toNat - 'a'.toNat + 10)
  else if 'A' ≤ c ∧ c ≤ 'F' then some (c.toNat - 'A'.toNat + 10)
  else none

def octalDigit? (c : Char) : Option Nat :=
  if '0' ≤ c ∧ c ≤ '7' then some (c.toNat - '0'.toNat) else none

def hexNumber : Nat → Nat → List Char → Option (Nat × List Char)
  | 0, value, cs => some (value, cs)
  | _ + 1, _, [] => none
  | n + 1, value, c :: cs =>
      match hexDigit? c with
      | none => none
      | some d => hexNumber n (16 * value + d) cs

def octalNumber : Nat → Nat → List Char → Nat × List Char
  | 0, value, cs => (value, cs)
  | _ + 1, value, [] => (value, [])
  | n + 1, value, c :: cs =>
      match octalDigit? c with
      | none => (value, c :: cs)
      | some d => octalNumber n (8 * value + d) cs

def simple? : Char → Option Nat
  | '\\' => some 0x5C
  | '\'' => some 0x27
  | '"' => some 0x22
  | 'a' => some 0x07
  | 'b' => some 0x08
  | 't' => some 0x09
  | 'n' => some 0x0A
  | 'v' => some 0x0B
  | 'f' => some 0x0C
  | 'r' => some 0x0D
  | _ => none

def named? : List Char → Option (Nat × List Char)
  | '\x7b' :: cs =>
      let name := cs.takeWhile (· ≠ '\x7d')
      match cs.drop name.length with
      | _ :: rest => (CharName.code? name).map (·, rest)
      | [] => none
  | _ => none

def escape? : List Char → Option (List Nat × List Char)
  | [] => none
  | 'x' :: cs => (hexNumber 2 0 cs).map fun r => ([r.1], r.2)
  | 'u' :: cs => (hexNumber 4 0 cs).map fun r => ([r.1], r.2)
  | 'U' :: cs =>
      match hexNumber 8 0 cs with
      | some (code, rest) => if code < 0x110000 then some ([code], rest) else none
      | none => none
  | 'N' :: cs => (named? cs).map fun r => ([r.1], r.2)
  | c :: cs =>
      match simple? c, octalDigit? c with
      | some b, _ => some ([b], cs)
      | none, some d =>
          let (code, rest) := octalNumber 2 d cs
          some ([code], rest)
      | none, none => some (0x5C :: Utf8.encodeChar c, cs)

/-- The codes that a text stands for. The first argument is at least the length of the text. -/
def codes : Nat → List Char → Option (List Nat)
  | _, [] => some []
  | 0, _ => none
  | n + 1, c :: cs =>
      if c = '\\' then
        match escape? cs with
        | none => none
        | some (out, rest) => (codes n rest).map (out ++ ·)
      else (codes n cs).map (Utf8.encodeChar c ++ ·)

def decode (content : List Char) : Except EscapeError (List Char) :=
  match codes content.length content with
  | none => .error .undecodable
  | some cs =>
      if cs.any (0xFF < ·) then .error .tooLarge
      else
        match Utf8.decode cs with
        | .error _ => .error .undecodable
        | .ok text => .ok text

end Escape

end ChainLint
