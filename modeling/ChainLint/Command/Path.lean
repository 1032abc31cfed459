namespace ChainLint

structure Path where
  /-- The slashes the path starts with: none, one, or two, which are kept apart from one. -/
  root : Nat
  parts : List String
  deriving DecidableEq, Repr

namespace Path

def rootOf (cs : List Char) : Nat :=
  match (cs.takeWhile (· = '/')).length with
  | 0 => 0
  | 2 => 2
  | _ => 1

def ofString (s : String) : Path where
  root := rootOf s.toList
  parts := ((s.toList.splitOn '/').map String.ofList).filter fun p => p ≠ "" ∧ p ≠ "."

def toString (p : Path) : String :=
  if p.root = 0 ∧ p.parts = [] then "."
  else String.ofList (List.replicate p.root '/') ++ "/".intercalate p.parts

end Path

end ChainLint
