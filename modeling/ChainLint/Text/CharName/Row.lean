import ChainLint.Text.CharName.Lead

namespace ChainLint.CharName

/-- Names of characters with consecutive codes. They start alike; `ends` holds what follows in each
of them, with bars between. Blanks after a bar only lay out the table. -/
structure Row where
  first : Nat
  lead : String
  ends : String
  deriving DecidableEq, Repr

namespace Row

def endings (r : Row) : List (List Char) :=
  (r.ends.toList.splitOn '|').map (·.dropWhile Char.isWhitespace)

def code? (r : Row) (name : List Char) : Option Nat :=
  match afterLead? r.lead name with
  | none => none
  | some rest => (r.endings.findIdx? (· = rest)).map (r.first + ·)

end Row

end ChainLint.CharName
