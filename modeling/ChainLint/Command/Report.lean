import ChainLint.Report.Fix
import ChainLint.Text.Json

namespace ChainLint

structure SourceFault where
  path : String
  message : String
  deriving DecidableEq, Repr

namespace SourceFault

def line (f : SourceFault) : String := f.path ++ ":?:?: error: " ++ f.message ++ "\n"

def toJson (f : SourceFault) : Json :=
  .object [("phase", .string "driver"), ("message", .string f.message),
    ("severity", .string Severity.error.label), ("file", .string f.path), ("line", .null),
    ("column", .null)]

end SourceFault

def preview (text : List Char) (d : Diagnostic) (s : Suggestion) : Option (List Char) :=
  let (fixed, applied) := Suggestion.applyAll text [s] false
  if applied = 0 ∨ d.span.isNowhere then none
  else
    let hi := d.span.hi + ((fixed.length : Int) - text.length)
    some ((fixed.take hi.toNat).drop d.span.lo.toNat)

namespace Suggestion

def line (text : List Char) (d : Diagnostic) (s : Suggestion) : String :=
  match preview text d s with
  | none => "  help: " ++ s.message ++ "\n"
  | some t => "  help: " ++ s.message ++ ": `" ++ String.ofList t ++ "`\n"

def toJson (s : Suggestion) : Json :=
  .object [("message", .string s.message), ("applicability", .string s.applicability.label),
    ("parts", .array (s.parts.map fun p =>
      .object [("lo", .number p.span.lo), ("hi", .number p.span.hi),
        ("snippet", .string (String.ofList p.snippet))]))]

end Suggestion

namespace Diagnostic

def placeText (s : Span) : String :=
  match s.line, s.column with
  | some l, some c => toString l ++ ":" ++ toString c
  | some l, none => toString l ++ ":None"
  | none, _ => "?:?"

def header (path : String) (d : Diagnostic) : String :=
  path ++ ":" ++ placeText d.span ++ ": " ++ d.severity.label ++ ": " ++ d.message

def lines (path : String) (text : List Char) (d : Diagnostic) : String :=
  let code := match d.code with
    | some c => " [" ++ c ++ "]"
    | none => ""
  d.header path ++ code ++ "\n" ++
    String.join (d.notes.map fun n => "  note: " ++ n ++ "\n") ++
    String.join (d.suggestions.map (Suggestion.line text d))

def optional {α : Type} (f : α → Json) : Option α → Json
  | none => .null
  | some a => f a

def toJson (path : String) (d : Diagnostic) : Json :=
  .object [("phase", .string d.phase.label), ("code", optional .string d.code),
    ("message", .string d.message), ("severity", .string d.severity.label),
    ("file", .string (d.span.file.getD path)),
    ("line", optional .number d.span.line),
    ("column", optional .number d.span.column),
    ("notes", .array (d.notes.map Json.string)),
    ("suggestions", .array (d.suggestions.map Suggestion.toJson))]

end Diagnostic

end ChainLint
