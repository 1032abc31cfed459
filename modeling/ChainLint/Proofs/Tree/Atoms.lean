import ChainLint.Proofs.Tree.Erasure

namespace ChainLint

inductive Atom where
  | name (s : String)
  | position (s : String)
  | int (value : Nat) (suffix : Option String)
  | float (bits : Nat) (suffix : Option String)
  | string (value : List Char)
  deriving DecidableEq, Repr

def segments : List Char → List (List Char)
  | [] => [[]]
  | ':' :: ':' :: cs => [] :: segments cs
  | c :: cs =>
      match segments cs with
      | [] => [[c]]
      | s :: ss => (c :: s) :: ss

theorem segments_ne_nil (cs : List Char) : segments cs ≠ [] := by
  fun_cases segments cs <;> simp

theorem segments_cons {c : Char} (hc : c ≠ ':') (cs : List Char) :
    segments (c :: cs) = (segments cs).modifyHead (c :: ·) := by
  obtain ⟨s, ss, hs⟩ := List.exists_cons_of_ne_nil (segments_ne_nil cs)
  rw [segments, hs]
  · rfl
  · rintro cs rfl
    exact absurd rfl hc

theorem segments_append {s : List Char} (h : ':' ∉ s) (cs : List Char) :
    segments (s ++ ':' :: ':' :: cs) = s :: segments cs := by
  induction s with
  | nil => rfl
  | cons c s ih =>
      obtain ⟨hc, hs⟩ := not_or.mp (mt List.mem_cons.mpr h)
      rw [List.cons_append, segments_cons (Ne.symm hc), ih hs]
      rfl

theorem segments_self {s : List Char} (h : ':' ∉ s) : segments s = [s] := by
  induction s with
  | nil => rfl
  | cons c s ih =>
      obtain ⟨hc, hs⟩ := not_or.mp (mt List.mem_cons.mpr h)
      rw [segments_cons (Ne.symm hc), ih hs]
      rfl

theorem segments_intercalate {ss : List (List Char)} (h : ∀ s ∈ ss, ':' ∉ s) (hne : ss ≠ []) :
    segments ([':', ':'].intercalate ss) = ss := by
  induction ss with
  | nil => exact absurd rfl hne
  | cons s ss ih =>
      obtain ⟨hs, hss⟩ := List.forall_mem_cons.mp h
      cases ss with
      | nil => rw [List.intercalate_singleton, segments_self hs]
      | cons u us =>
          rw [List.intercalate_cons_cons, List.append_assoc]
          exact (segments_append hs _).trans (congrArg _ (ih hss (List.cons_ne_nil _ _)))

namespace Tree

def pathAtoms (name : String) : List Atom :=
  (segments name.toList).map fun s => .name (String.ofList s)

def memberAtom (name : String) : Atom :=
  if name.toList.head?.any Char.isDigit then .position name else .name name

mutual

def TypeExpr.atoms : TypeExpr → List Atom
  | .mk name args _ =>
      (if name ∈ ["&", "&mut", "[]", "()"] then [] else pathAtoms name) ++ typeAtoms args

def typeAtoms : List TypeExpr → List Atom
  | [] => []
  | t :: ts => t.atoms ++ typeAtoms ts

end

mutual

def Pat.atoms : Pat → List Atom
  | .binding _ name _ => [.name name]
  | .wild _ => []
  | .tuple _ elems => patAtoms elems

def patAtoms : List Pat → List Atom
  | [] => []
  | p :: ps => p.atoms ++ patAtoms ps

end

def declaredAtoms (o : Option TypeExpr) : List Atom := o.toList.flatMap TypeExpr.atoms

def Param.atoms (p : Param) : List Atom := p.pattern.atoms ++ declaredAtoms p.declared

mutual

def Expr.atoms : Expr → List Atom
  | .var _ name _ => pathAtoms name
  | .int _ value suffix => [.int value suffix]
  | .float _ bits suffix => [.float bits suffix]
  | .string _ value => [.string value]
  | .bool .. | .brk _ | .cont _ => []
  | .call _ callee args => callee.atoms ++ exprAtoms args
  | .methodCall _ receiver name _ args => receiver.atoms ++ .name name :: exprAtoms args
  | .field _ subject name => subject.atoms ++ [memberAtom name]
  | .index _ subject position => subject.atoms ++ position.atoms
  | .unary _ _ operand => operand.atoms
  | .binary _ _ left right => left.atoms ++ right.atoms
  | .range _ lower upper => optionAtoms lower ++ optionAtoms upper
  | .array _ elems | .tuple _ elems => exprAtoms elems
  | .closure _ params body _ => params.flatMap Param.atoms ++ body.atoms
  | .macroCall _ name args => .name name :: exprAtoms args
  | .block _ body | .loop _ body => body.atoms
  | .cond _ test yes no => test.atoms ++ (yes.atoms ++ optionAtoms no)
  | .whileLoop _ test body => test.atoms ++ body.atoms
  | .forLoop _ p iterable body => p.atoms ++ (iterable.atoms ++ body.atoms)
  | .ret _ value => optionAtoms value

def exprAtoms : List Expr → List Atom
  | [] => []
  | e :: es => e.atoms ++ exprAtoms es

def optionAtoms : Option Expr → List Atom
  | none => []
  | some e => e.atoms

def Stmt.atoms : Stmt → List Atom
  | .expr _ value => value.atoms
  | .letIn _ p declared value => p.atoms ++ (declaredAtoms declared ++ optionAtoms value)

def stmtAtoms : List Stmt → List Atom
  | [] => []
  | s :: ss => s.atoms ++ stmtAtoms ss

def Block.atoms : Block → List Atom
  | .mk _ stmts tail => stmtAtoms stmts ++ optionAtoms tail

end

def Function.atoms (f : Function) : List Atom :=
  .name f.name :: (f.params.flatMap Param.atoms ++ (declaredAtoms f.result ++ f.body.atoms))

def Module.atoms (m : Module) : List Atom := m.functions.flatMap Function.atoms

section

variable (f : Span → Span)

mutual

theorem TypeExpr.atoms_erase : (t : TypeExpr) → (t.erase f).atoms = t.atoms
  | .mk _ args _ => congrArg (_ ++ ·) (typeAtoms_erase args)

theorem typeAtoms_erase : (ts : List TypeExpr) → typeAtoms (eraseTypes f ts) = typeAtoms ts
  | [] => rfl
  | t :: ts => congrArg₂ _ t.atoms_erase (typeAtoms_erase ts)

end

mutual

theorem Pat.atoms_erase : (p : Pat) → (p.erase f).atoms = p.atoms
  | .binding .. | .wild _ => rfl
  | .tuple _ elems => patAtoms_erase elems

theorem patAtoms_erase : (ps : List Pat) → patAtoms (erasePats f ps) = patAtoms ps
  | [] => rfl
  | p :: ps => congrArg₂ _ p.atoms_erase (patAtoms_erase ps)

end

theorem declaredAtoms_erase (o : Option TypeExpr) :
    declaredAtoms (o.map (TypeExpr.erase f)) = declaredAtoms o := by
  cases o with
  | none => rfl
  | some t => simp [declaredAtoms, t.atoms_erase]

theorem Param.atoms_erase (p : Param) : (p.erase f).atoms = p.atoms :=
  congrArg₂ _ (p.pattern.atoms_erase f) (declaredAtoms_erase f p.declared)

theorem paramAtoms_erase (ps : List Param) :
    (ps.map (Param.erase f)).flatMap Param.atoms = ps.flatMap Param.atoms := by
  rw [List.flatMap_map]
  exact List.flatMap_congr fun p _ => p.atoms_erase f

mutual

theorem Expr.atoms_erase : (e : Expr) → (e.erase f).atoms = e.atoms
  | .var .. | .int .. | .float .. | .string .. | .bool .. | .brk _ | .cont _ => rfl
  | .call _ callee args => congrArg₂ _ callee.atoms_erase (exprAtoms_erase args)
  | .methodCall _ receiver name _ args =>
      congrArg₂ (· ++ Atom.name name :: ·) receiver.atoms_erase (exprAtoms_erase args)
  | .field _ subject _ => congrArg (· ++ _) subject.atoms_erase
  | .index _ subject position => congrArg₂ _ subject.atoms_erase position.atoms_erase
  | .unary _ _ operand => operand.atoms_erase
  | .binary _ _ left right => congrArg₂ _ left.atoms_erase right.atoms_erase
  | .range _ lower upper => congrArg₂ _ (optionAtoms_erase lower) (optionAtoms_erase upper)
  | .array _ elems | .tuple _ elems => exprAtoms_erase elems
  | .closure _ params body _ => congrArg₂ _ (paramAtoms_erase f params) body.atoms_erase
  | .macroCall _ _ args => congrArg (_ :: ·) (exprAtoms_erase args)
  | .block _ body | .loop _ body => body.atoms_erase
  | .cond _ test yes no =>
      congrArg₂ _ test.atoms_erase (congrArg₂ _ yes.atoms_erase (optionAtoms_erase no))
  | .whileLoop _ test body => congrArg₂ _ test.atoms_erase body.atoms_erase
  | .forLoop _ p iterable body =>
      congrArg₂ _ (p.atoms_erase f) (congrArg₂ _ iterable.atoms_erase body.atoms_erase)
  | .ret _ value => optionAtoms_erase value

theorem exprAtoms_erase : (es : List Expr) → exprAtoms (eraseExprs f es) = exprAtoms es
  | [] => rfl
  | e :: es => congrArg₂ _ e.atoms_erase (exprAtoms_erase es)

theorem optionAtoms_erase : (o : Option Expr) → optionAtoms (eraseOption f o) = optionAtoms o
  | none => rfl
  | some e => e.atoms_erase

theorem Stmt.atoms_erase : (s : Stmt) → (s.erase f).atoms = s.atoms
  | .expr _ value => value.atoms_erase
  | .letIn _ p declared value => congrArg₂ _ (p.atoms_erase f)
      (congrArg₂ _ (declaredAtoms_erase f declared) (optionAtoms_erase value))

theorem stmtAtoms_erase : (ss : List Stmt) → stmtAtoms (eraseStmts f ss) = stmtAtoms ss
  | [] => rfl
  | s :: ss => congrArg₂ _ s.atoms_erase (stmtAtoms_erase ss)

theorem Block.atoms_erase : (b : Block) → (b.erase f).atoms = b.atoms
  | .mk _ stmts tail => congrArg₂ _ (stmtAtoms_erase stmts) (optionAtoms_erase tail)

end

theorem Function.atoms_erase (g : Function) : (g.erase f).atoms = g.atoms :=
  congrArg (_ :: ·) (congrArg₂ _ (paramAtoms_erase f g.params)
    (congrArg₂ _ (declaredAtoms_erase f g.result) (g.body.atoms_erase f)))

end

end Tree

end ChainLint
