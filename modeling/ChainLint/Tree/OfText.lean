import ChainLint.Report.Diagnostic
import ChainLint.Surface.Parser
import ChainLint.Tree.Build

namespace ChainLint

inductive ReadError where
  | grammar (cause : SyntaxError)
  | build (cause : Tree.BuildError)
  deriving DecidableEq, Repr

/-- The report of an error. A literal without a value is no fault of the text's structure and has
no report. -/
def ReadError.diagnostic? (file : Option String) : ReadError → Option Diagnostic
  | .grammar cause =>
      some {
        message := cause.message
        phase := .parser
        span := { file := file, line := some cause.place.line, column := some cause.place.column } }
  | .build (.missingSemicolon span) =>
      some { message := Tree.BuildError.missingSemicolonMessage, phase := .parser, span := span }
  | .build (.badString _) => none
  | .build .longInteger => none

namespace Tree

def Module.ofText (file : Option String) (text : List Char) (expansions : Expansions) :
    Except ReadError Module × Expansions :=
  match Surface.parse text with
  | .error cause => (.error (.grammar cause), expansions)
  | .ok (m, _) =>
      let (built, expansions) := (Build.module file m).run.run expansions
      (built.mapError .build, expansions)

theorem Module.ofText_grammar {file : Option String} {text : List Char} {expansions : Expansions}
    {cause : SyntaxError} (h : Surface.parse text = .error cause) :
    Module.ofText file text expansions = (.error (.grammar cause), expansions) := by
  simp [Module.ofText, h]

end Tree

end ChainLint
