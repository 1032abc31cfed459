namespace ChainLint

inductive LintLevel where
  | allow | warn | deny
  deriving DecidableEq, Repr

namespace LintLevel

def all : List LintLevel := [.allow, .warn, .deny]

def label : LintLevel → String
  | .allow => "allow"
  | .warn => "warn"
  | .deny => "deny"

def ofLabel? (s : String) : Option LintLevel := all.find? fun l => l.label = s

end LintLevel

structure LintLevels where
  named : List (String × LintLevel) := []
  fallback : LintLevel := .warn

def LintLevels.get (ls : LintLevels) (lint : String) : LintLevel :=
  (ls.named.lookup lint).getD ls.fallback

end ChainLint
