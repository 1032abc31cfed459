import ChainLint.Token.Terminal

namespace ChainLint

inductive UnaryOp where
  | neg | not | ref | refMut | deref
  deriving DecidableEq, Repr

inductive BinaryOp where
  | add | sub | mul | div | mod
  | eq | ne | lt | le | gt | ge
  | and | or
  deriving DecidableEq, Repr

def BinaryOp.isLogical : BinaryOp → Bool
  | .eq | .ne | .lt | .le | .gt | .ge | .and | .or => true
  | .add | .sub | .mul | .div | .mod => false

inductive Level where
  | disjunction | conjunction | comparison | sum | product
  deriving DecidableEq, Repr

namespace Level

def tighter? : Level → Option Level
  | .disjunction => some .conjunction
  | .conjunction => some .comparison
  | .comparison => some .sum
  | .sum => some .product
  | .product => none

def operator? : Level → Terminal → Option BinaryOp
  | .disjunction, .orOr => some .or
  | .conjunction, .andAnd => some .and
  | .comparison, .eqEq => some .eq
  | .comparison, .notEq => some .ne
  | .comparison, .lessEq => some .le
  | .comparison, .greaterEq => some .ge
  | .comparison, .less => some .lt
  | .comparison, .greater => some .gt
  | .sum, .plus => some .add
  | .sum, .minus => some .sub
  | .product, .star => some .mul
  | .product, .slash => some .div
  | .product, .percent => some .mod
  | _, _ => none

def chains : Level → Bool
  | .comparison => false
  | _ => true

end Level

end ChainLint
