import ChainLint.Report.Diagnostic

namespace ChainLint

structure Sources where
  files : List (String × List Char) := []

namespace Sources

def anonymous : String := "<input>"

def key : Option String → String
  | none => anonymous
  | some name => if name = "" then anonymous else name

def empty : Sources := {}

def add (m : Sources) (name : Option String) (text : List Char) : Sources :=
  ⟨(key name, text) :: m.files.filter fun f => f.1 ≠ key name⟩

def get? (m : Sources) (name : Option String) : Option (List Char) := m.files.lookup (key name)

@[simp] theorem get?_add (m : Sources) (name : Option String) (text : List Char) :
    (m.add name text).get? name = some text := by
  simp [get?, add]

def textAt (m : Sources) (s : Span) : Option (List Char) :=
  match m.get? s.file with
  | none => none
  | some text =>
      if s.lo < 0 ∨ (text.length : Int) < s.hi ∨ s.hi < s.lo then none
      else some ((text.take s.hi.toNat).drop s.lo.toNat)

def textOr (m : Sources) (s : Span) (fallback : List Char) : List Char :=
  if s.isNowhere then fallback else (m.textAt s).getD fallback

def quote (m : Sources) (s : Span) (fallback : List Char)
    (a : Applicability) : List Char × Applicability :=
  let a := if s.isExpanded then a.weaker .maybeIncorrect else a
  match if s.isNowhere then none else m.textAt s with
  | none => (fallback, a.weaker .hasPlaceholders)
  | some text => (text, a)

end Sources

end ChainLint
