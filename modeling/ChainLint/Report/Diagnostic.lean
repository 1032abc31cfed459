import ChainLint.Source.Span

namespace ChainLint

inductive Applicability where
  | machineApplicable
  | maybeIncorrect
  | hasPlaceholders
  | unspecified
  deriving DecidableEq, Repr

namespace Applicability

def rank : Applicability → Nat
  | .machineApplicable => 0
  | .maybeIncorrect => 1
  | .hasPlaceholders => 2
  | .unspecified => 3

def weaker (a b : Applicability) : Applicability := if b.rank ≤ a.rank then a else b

def label : Applicability → String
  | .machineApplicable => "MachineApplicable"
  | .maybeIncorrect => "MaybeIncorrect"
  | .hasPlaceholders => "HasPlaceholders"
  | .unspecified => "Unspecified"

end Applicability

structure Edit where
  span : Span
  snippet : List Char
  deriving DecidableEq, Repr

structure Suggestion where
  message : String
  parts : List Edit
  applicability : Applicability := .machineApplicable
  deriving DecidableEq, Repr

inductive Severity where
  | error
  | warning
  deriving DecidableEq, Repr

def Severity.label : Severity → String
  | .error => "error"
  | .warning => "warning"

inductive Phase where
  | parser
  | lint
  deriving DecidableEq, Repr

def Phase.label : Phase → String
  | .parser => "parser"
  | .lint => "lint"

structure Diagnostic where
  message : String
  code : Option String := none
  phase : Phase
  severity : Severity := .error
  span : Span := {}
  notes : List String := []
  suggestions : List Suggestion := []
  deriving DecidableEq, Repr

end ChainLint
