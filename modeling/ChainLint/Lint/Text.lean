import ChainLint.Lint.MapUnwrapOr
import ChainLint.Tree.OfText

namespace ChainLint

inductive LintError where
  | badString (cause : EscapeError)
  | longInteger
  | tooDeep
  deriving DecidableEq, Repr

/-- The number is nominal. The depth from which on a tree is too deep is that of the machine's stack,
which no text decides; the limit counts expressions alone, neither types nor patterns, and reading a
text has none. -/
def maxDepth : Nat := 1000

def lintText (file : Option String) (levels : LintLevels) (text : List Char) :
    Except LintError (List Diagnostic) :=
  match (Tree.Module.ofText file text .empty).1 with
  | .error (.build (.badString cause)) => .error (.badString cause)
  | .error (.build .longInteger) => .error .longInteger
  | .error e => .ok (e.diagnostic? file).toList
  | .ok m =>
      if maxDepth < m.depth then .error .tooDeep
      else
        let a := Analysis.ofModule m
        if a.typing.longField then .error .longInteger
        else .ok (MapUnwrapOr.run a (Sources.empty.add file text) levels)

end ChainLint
