namespace ChainLint

structure Position where
  offset : Nat
  line : Nat
  column : Nat
  deriving DecidableEq, Repr

namespace Position

def start : Position := ⟨0, 1, 1⟩

def step (p : Position) (c : Char) : Position :=
  if c = '\n' then ⟨p.offset + 1, p.line + 1, 1⟩ else ⟨p.offset + 1, p.line, p.column + 1⟩

def advance (p : Position) (text : List Char) : Position := text.foldl step p

@[simp] theorem advance_nil (p : Position) : p.advance [] = p := rfl

theorem advance_append (p : Position) (a b : List Char) :
    p.advance (a ++ b) = (p.advance a).advance b := by
  simp [advance, List.foldl_append]

theorem step_offset (p : Position) (c : Char) : (p.step c).offset = p.offset + 1 := by
  unfold step
  split <;> rfl

theorem advance_offset (p : Position) (text : List Char) :
    (p.advance text).offset = p.offset + text.length := by
  induction text generalizing p with
  | nil => rfl
  | cons c cs ih =>
      have h := ih (p.step c)
      rw [step_offset] at h
      simp only [List.length_cons]
      change ((p.step c).advance cs).offset = _
      omega

end Position

def rootContext : Int := 0

structure Span where
  file : Option String := none
  line : Option Int := none
  column : Option Int := none
  endLine : Option Int := none
  endColumn : Option Int := none
  lo : Int := 0
  hi : Int := 0
  context : Int := rootContext
  deriving DecidableEq, Repr

namespace Span

def isNowhere (s : Span) : Bool := s.lo == 0 && s.hi == 0 && s.line.isNone

def isExpanded (s : Span) : Bool := s.context != rootContext

def startingAt (s : Span) (lo : Int) : Span := { s with lo := lo, line := none, column := none }

def endingAt (s : Span) (hi : Int) : Span := { s with hi := hi, endLine := none, endColumn := none }

def atStart (s : Span) : Span :=
  { s with hi := s.lo, endLine := s.line, endColumn := s.column }

def precedes (s t : Span) : Bool := s.lo < t.lo

def between (file : Option String) (a b : Position) : Span where
  file := file
  line := some a.line
  column := some a.column
  endLine := some b.line
  endColumn := some b.column
  lo := a.offset
  hi := b.offset

def join (s t : Span) : Span where
  file := s.file
  line := s.line
  column := s.column
  endLine := t.endLine
  endColumn := t.endColumn
  lo := s.lo
  hi := t.hi

@[simp] theorem precedes_iff (s t : Span) : s.precedes t = true ↔ s.lo < t.lo := by
  simp [precedes]

end Span

end ChainLint
