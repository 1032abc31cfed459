import ChainLint.Text.CharName.Lead
import ChainLint.Text.CodeRanges

namespace ChainLint.CharName

def upperHexDigit? (c : Char) : Option Nat :=
  if '0' ≤ c ∧ c ≤ '9' then some (c.toNat - '0'.toNat)
  else if 'A' ≤ c ∧ c ≤ 'F' then some (c.toNat - 'A'.toNat + 10)
  else none

def hexCode? (digits : List Char) : Option Nat :=
  if digits.length = 4 ∨ digits.length = 5 then
    digits.foldlM (fun n c => (upperHexDigit? c).map (16 * n + ·)) 0
  else none

structure Series where
  lead : String
  ranges : CodeRanges
  mayPad : Bool := false
  deriving DecidableEq, Repr

def Series.code? (s : Series) (name : List Char) : Option Nat :=
  match afterLead? s.lead name with
  | none => none
  | some digits =>
      if digits.head? = some '0' ∧ !s.mayPad then none
      else (hexCode? digits).filter s.ranges.contains

def unified : Series where
  lead := "CJK UNIFIED IDEOGRAPH-"
  ranges := [(0x3400, 0x4DBF), (0x4E00, 0x9FFF), (0x20000, 0x2A6DF), (0x2A700, 0x2B738),
    (0x2B740, 0x2B81D), (0x2B820, 0x2CEA1), (0x2CEB0, 0x2EBE0), (0x30000, 0x3134A)]
  mayPad := true

def series : List Series :=
  [{ lead := "CJK COMPATIBILITY IDEOGRAPH-"
     ranges := [(0xF900, 0xFA6D), (0xFA70, 0xFAD9), (0x2F800, 0x2FA1D)] },
   { lead := "KHITAN SMALL SCRIPT CHARACTER-", ranges := [(0x18B00, 0x18CD5)] },
   { lead := "NUSHU CHARACTER-", ranges := [(0x1B170, 0x1B2FB)] }]

end ChainLint.CharName
