import ChainLint.Ty.Basic

namespace ChainLint

abbrev TypeId := Int

inductive Shape where
  | scalar (s : Scalar)
  | unit
  | str
  | string
  | ref (isMut : Bool) (target : TypeId)
  | option (inner : TypeId)
  | vec (elem : TypeId)
  | slice (elem : TypeId)
  | array (elem : TypeId)
  | tuple (elems : List TypeId)
  | range (bound : TypeId)
  | function (params : List TypeId) (result : TypeId)
  | closure (params : List TypeId) (result : TypeId)
  | adt (name : String) (args : List TypeId)
  | unknown
  deriving DecidableEq, Repr

namespace Shape

def parts : Shape → List TypeId
  | .scalar _ | .unit | .str | .string | .unknown => []
  | .ref _ t | .option t | .vec t | .slice t | .array t | .range t => [t]
  | .tuple ts | .adt _ ts => ts
  | .function ps r | .closure ps r => ps ++ [r]

def ofElems : List TypeId → Shape
  | [] => .unit
  | t :: ts => .tuple (t :: ts)

def name : Shape → String
  | .scalar s => s.name
  | .unit => "()"
  | .str => "str"
  | .string => "String"
  | .ref isMut _ => if isMut then "&mut" else "&"
  | .option _ => "Option"
  | .vec _ => "Vec"
  | .slice _ => "[]"
  | .array _ => "[;]"
  | .tuple _ => "()"
  | .range _ => "Range"
  | .function _ _ => "fn"
  | .closure _ _ => "closure"
  | .adt name _ => name
  | .unknown => "Unknown"

end Shape

structure TypePool where
  shapes : Array Shape := #[]

inductive TypePoolError where
  | unknownId (id : TypeId)
  | notScalar (name : String)
  | endless (id : TypeId)
  deriving DecidableEq, Repr

def TypePoolError.message : TypePoolError → String
  | .unknownId id => "no type has number " ++ toString id
  | .notScalar name => "not a scalar type: " ++ name
  | .endless id => "type number " ++ toString id ++ " is a part of itself"

namespace TypePool

def empty : TypePool := {}

def intern (t : TypePool) (s : Shape) : TypeId × TypePool :=
  match t.shapes.toList.findIdx? (· = s) with
  | some i => (i + 1, t)
  | none => (t.shapes.size + 1, ⟨t.shapes.push s⟩)

def get? (t : TypePool) (id : TypeId) : Option Shape :=
  if 0 < id then t.shapes[(id - 1).toNat]? else none

theorem get?_intern (t : TypePool) (s : Shape) :
    (t.intern s).2.get? (t.intern s).1 = some s := by
  unfold intern
  split
  · next i h =>
      obtain ⟨hlt, hi, _⟩ := List.findIdx?_eq_some_iff_getElem.mp h
      simp only [Array.length_toList] at hlt
      have hp : (0 : Int) < i + 1 := by omega
      simp only [get?, if_pos hp, Int.add_sub_cancel, Int.toNat_natCast,
        Array.getElem?_eq_getElem hlt]
      simpa using hi
  · have hp : (0 : Int) < t.shapes.size + 1 := by omega
    simp [get?, hp]

theorem get?_intern_of_get? {t : TypePool} {id : TypeId} {r : Shape} (h : t.get? id = some r)
    (s : Shape) : (t.intern s).2.get? id = some r := by
  unfold intern
  split
  · exact h
  · unfold get? at h ⊢
    split at h
    · next hp =>
        obtain ⟨hi, -⟩ := Array.getElem?_eq_some_iff.mp h
        rw [if_pos hp, Array.getElem?_push_lt hi, ← h, Array.getElem?_eq_getElem hi]
    · cases h

def get (t : TypePool) (id : TypeId) : Except TypePoolError Shape :=
  match t.get? id with
  | some s => .ok s
  | none => .error (.unknownId id)

def scalar (t : TypePool) (name : String) : Except TypePoolError (TypeId × TypePool) :=
  match Scalar.ofName? name with
  | some s => .ok (t.intern (.scalar s))
  | none => .error (.notScalar name)

def isOption (t : TypePool) : Option TypeId → Except TypePoolError Bool
  | none => .ok false
  | some id =>
      match t.get id with
      | .ok (.option _) => .ok true
      | .ok _ => .ok false
      | .error e => .error e

def optionArg? (t : TypePool) (id : TypeId) : Except TypePoolError (Option TypeId) :=
  match t.get id with
  | .ok (.option inner) => .ok (some inner)
  | .ok _ => .ok none
  | .error e => .error e

mutual

def isCopyWithin (t : TypePool) : Nat → TypeId → Except TypePoolError Bool
  | 0, id => .error (.endless id)
  | depth + 1, id =>
      match t.get id with
      | .error e => .error e
      | .ok (.scalar _) | .ok .unit | .ok (.function _ _) => .ok true
      | .ok (.ref isMut _) => .ok !isMut
      | .ok (.option inner) | .ok (.array inner) => isCopyWithin t depth inner
      | .ok (.tuple elems) => allCopyWithin t depth elems
      | .ok _ => .ok false

def allCopyWithin (t : TypePool) (depth : Nat) : List TypeId → Except TypePoolError Bool
  | [] => .ok true
  | id :: ids =>
      match isCopyWithin t depth id with
      | .ok true => allCopyWithin t depth ids
      | other => other

end

/-- A chain of parts longer than the table meets a number twice, and so has no end. -/
def isCopy (t : TypePool) : Option TypeId → Except TypePoolError Bool
  | none => .ok false
  | some id => t.isCopyWithin (t.shapes.size + 1) id

def peelWithin (t : TypePool) : Nat → TypeId → Except TypePoolError TypeId
  | 0, id => .error (.endless id)
  | depth + 1, id =>
      match t.get id with
      | .error e => .error e
      | .ok (.ref _ target) => peelWithin t depth target
      | .ok _ => .ok id

def peel (t : TypePool) (id : TypeId) : Except TypePoolError TypeId :=
  t.peelWithin (t.shapes.size + 1) id

end TypePool

end ChainLint
