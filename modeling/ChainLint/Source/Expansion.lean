import ChainLint.Source.Span

namespace ChainLint

structure Expansion where
  macroName : String
  callSite : Span
  deriving DecidableEq, Repr

/-- The macro invocations met so far. The invocation at index `i` has context `i + 1`, so
`rootContext` belongs to none of them. -/
structure Expansions where
  entries : Array Expansion := #[]
  deriving Repr

namespace Expansions

def empty : Expansions := {}

def nextContext (t : Expansions) : Int := t.entries.size + 1

def push (t : Expansions) (e : Expansion) : Int × Expansions :=
  (t.nextContext, ⟨t.entries.push e⟩)

def get? (t : Expansions) (context : Int) : Option Expansion :=
  if context ≤ rootContext then none else t.entries[(context - 1).toNat]?

theorem get?_push (t : Expansions) (e : Expansion) :
    (t.push e).2.get? (t.push e).1 = some e := by
  simp [push, nextContext, get?, rootContext]

end Expansions

end ChainLint
