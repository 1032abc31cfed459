import ChainLint.Command.FileTree
import ChainLint.Command.Options
import ChainLint.Command.Report
import ChainLint.Lint.Text

namespace ChainLint

inductive RunFault where
  | noLevel
  | badString (cause : EscapeError)
  | longInteger
  | nulInPath
  deriving DecidableEq, Repr

inductive Outcome where
  | exit (code : Nat)
  | fault (cause : RunFault)
  deriving DecidableEq, Repr

structure RunResult where
  outcome : Outcome
  stdout : String
  stderr : String
  files : FileTree

structure Progress where
  files : FileTree
  failed : Bool := false
  reports : List Json := []
  lines : String := ""
  fixes : Nat := 0

def unifyLineEnds : List Char → List Char
  | [] => []
  | '\r' :: '\n' :: cs => '\n' :: unifyLineEnds cs
  | '\r' :: cs => '\n' :: unifyLineEnds cs
  | c :: cs => c :: unifyLineEnds cs

theorem not_mem_unifyLineEnds (cs : List Char) : '\r' ∉ unifyLineEnds cs := by
  fun_induction unifyLineEnds cs with
  | case1 => simp
  | case2 cs ih => simpa using ih
  | case3 cs h ih => simpa using ih
  | case4 c cs h h' ih =>
      simp only [List.mem_cons, not_or]
      exact ⟨fun hc => h' hc.symm, ih⟩

theorem unifyLineEnds_eq_self {text : List Char} (h : '\r' ∉ text) : unifyLineEnds text = text := by
  fun_induction unifyLineEnds text with
  | case1 => rfl
  | case2 | case3 => exact absurd List.mem_cons_self h
  | case4 c cs _ _ ih => rw [ih fun hmem => h (List.mem_cons_of_mem c hmem)]

namespace Command

def levelsFor (level : LintLevel) : LintLevels := ⟨[(MapUnwrapOr.code, level)], level⟩

def addFault (p : Progress) (f : SourceFault) : Progress :=
  { p with failed := true, reports := p.reports ++ [f.toJson], lines := p.lines ++ f.line }

def addReports (p : Progress) (path : String) (text : List Char) (ds : List Diagnostic) :
    Progress :=
  { p with
    failed := p.failed || ds.any fun d => d.severity = .error
    reports := p.reports ++ ds.map (Diagnostic.toJson path)
    lines := p.lines ++ String.join (ds.map (Diagnostic.lines path text)) }

def addFixes (p : Progress) (place : Place) (text : List Char) (ds : List Diagnostic) :
    Progress :=
  let (fixed, applied) := Suggestion.applyAll text (ds.flatMap Diagnostic.suggestions)
  if applied = 0 then p
  else
    { p with
      files := p.files.write place (Utf8.encode fixed)
      fixes := p.fixes + applied }

def source (o : Options) (level : LintLevel) (p : Progress) (given : String) :
    Except RunFault Progress :=
  let path := Path.ofString given
  let name := path.toString
  if given.toList.contains '\x00' then .error .nulInPath
  else
    match p.files.locate path with
    | .error e => .ok (addFault p ⟨name, "cannot read source file: " ++ e.message⟩)
    | .ok (place, bytes) =>
        match Utf8.decode bytes with
        | .error (e, at_) =>
            .ok (addFault p ⟨name, "source file is not valid UTF-8: " ++ e.message ++
              " at byte " ++ toString at_⟩)
        | .ok decoded =>
            let text := unifyLineEnds decoded
            match lintText (some name) (levelsFor level) text with
            | .error .tooDeep => .ok (addFault p ⟨name, "expression nesting too deep to analyze"⟩)
            | .error (.badString cause) => .error (.badString cause)
            | .error .longInteger => .error .longInteger
            | .ok ds =>
                let p := addReports p name text ds
                .ok (if o.fix then addFixes p place text ds else p)

def sources (o : Options) (level : LintLevel) :
    Progress → List String → Progress × Option RunFault
  | p, [] => (p, none)
  | p, s :: ss =>
      match source o level p s with
      | .error e => (p, some e)
      | .ok p => sources o level p ss

def usage : String :=
  "usage: maplint [-h] [--json] [--fix] [--level \x7ballow,warn,deny\x7d] source [source ...]\n"

def helpRow (name text : String) : String :=
  let start := "  " ++ name
  let blanks (n : Nat) := String.ofList (List.replicate n ' ')
  if start.length + 2 ≤ 24 then start ++ blanks (24 - start.length) ++ text ++ "\n"
  else start ++ "\n" ++ blanks 24 ++ text ++ "\n"

def helpText : String :=
  usage ++ "\nSuggest map_or/and_then for Option map().unwrap_or() chains\n" ++
    "\npositional arguments:\n" ++ helpRow "source" "Path(s) to source file(s)" ++
    "\noptions:\n" ++ helpRow "-h, --help" "show this help message and exit" ++
    helpRow "--json" "Emit diagnostics as JSON on stdout instead of text on stderr" ++
    helpRow "--fix" "Apply machine-applicable suggestions in place" ++
    helpRow "--level \x7ballow,warn,deny\x7d" "Level for every registered lint (default: warn)"

def exitCode (p : Progress) : Nat := if p.failed then 1 else 0

def payload (o : Options) (p : Progress) : Json :=
  .object ([("exit_code", .number (exitCode p)), ("diagnostics", .array p.reports)] ++
    if o.fix then [("fixes_applied", .number p.fixes)] else [])

def finish (o : Options) (p : Progress) : RunResult :=
  if o.json then
    ⟨.exit (exitCode p), String.ofList (payload o p).render ++ "\n", "", p.files⟩
  else
    let summary := if o.fix && p.fixes ≠ 0 then
      "maplint: applied " ++ toString p.fixes ++ " fix(es)\n" else ""
    ⟨.exit (exitCode p), "", p.lines ++ summary, p.files⟩

def run (files : FileTree) (args : List String) (edition : Edition := .early) : RunResult :=
  match Options.ofArgs args edition with
  | .error .help => ⟨.exit 0, helpText, "", files⟩
  | .error (.usage e) => ⟨.exit 2, "", usage ++ "maplint: error: " ++ e.message ++ "\n", files⟩
  | .ok o =>
      match o.level with
      | none => ⟨.fault .noLevel, "", "", files⟩
      | some level =>
          match sources o level { files := files } o.sources with
          | (p, some cause) => ⟨.fault cause, "", if o.json then "" else p.lines, p.files⟩
          | (p, none) => finish o p

theorem run_of_level {args : List String} {edition : Edition} {o : Options} {level : LintLevel}
    (h : Options.ofArgs args edition = .ok o) (hlevel : o.level = some level) (files : FileTree) :
    run files args edition =
      match sources o level { files := files } o.sources with
      | (p, some cause) => ⟨.fault cause, "", if o.json then "" else p.lines, p.files⟩
      | (p, none) => finish o p := by
  unfold run
  rw [h]
  simp only [hlevel]

end Command

end ChainLint
