import ChainLint.Proofs.Tree.Plain

namespace ChainLint.Surface

open Tree Tree.Build

inductive Part where
  | int (t : Token)
  | string (t : Token)
  | block (b : Block)

def Part.HasValue : Part → Prop
  | .int t =>
      (Numeral.dropSuffix Lexer.intSuffixes (Numeral.plain t.text)).length ≤ Numeral.maxDigits
  | .string t => (Escape.decode (unquote t.text)).isOk = true
  | .block _ => True

instance : DecidablePred Part.HasValue
  | .int _ => inferInstanceAs (Decidable (_ ≤ _))
  | .string _ => inferInstanceAs (Decidable (_ = true))
  | .block _ => inferInstanceAs (Decidable True)

mutual

def Expr.parts : Expr → List Part
  | .int t => [.int t]
  | .string t => [.string t]
  | .float _ | .bool _ _ | .path _ _ | .brk _ | .cont _ => []
  | .macroCall _ args _ | .tuple args _ | .array args _ => partsOf args
  | .paren inner _ => inner.parts
  | .block body | .loop body _ => body.parts
  | .cond test yes no _ => test.parts ++ (yes.parts ++ optionParts no)
  | .whileLoop test body _ => test.parts ++ body.parts
  | .forLoop _ iterable body _ => iterable.parts ++ body.parts
  | .ret value _ => optionParts value
  | .unary _ operand _ => operand.parts
  | .binary _ left right _ => left.parts ++ right.parts
  | .range lower upper _ => optionParts lower ++ optionParts upper
  | .call callee args _ => callee.parts ++ partsOf args
  | .methodCall receiver _ args _ => receiver.parts ++ partsOf args
  | .field subject _ _ => subject.parts
  | .index subject position _ => subject.parts ++ position.parts
  | .closure _ _ body _ => body.parts

def partsOf : List Expr → List Part
  | [] => []
  | e :: es => e.parts ++ partsOf es

def optionParts : Option Expr → List Part
  | none => []
  | some e => e.parts

def Block.parts : Block → List Part
  | .mk items x => .block (.mk items x) :: itemParts items

def itemParts : List Item → List Part
  | [] => []
  | .empty _ :: rest => itemParts rest
  | .letItem _ _ value _ :: rest => optionParts value ++ itemParts rest
  | .exprItem value _ _ :: rest => value.parts ++ itemParts rest

end

def Module.parts (m : Module) : List Part := m.functions.flatMap fun f => f.body.parts

/-- The expression is an item without a semicolon, some later item is not empty, and the expression
does not end in a block of its own. -/
def Lacks (is : List Item) (e : Expr) : Prop :=
  (∃ before x rest, is = before ++ .exprItem e false x :: rest ∧
    ∃ i ∈ rest, isEmptyItem i = false) ∧ Builds.endsInBlock e = false

def Block.Lacks (b : Block) (e : Expr) : Prop := Surface.Lacks b.items e

theorem moreItems_iff {is : List Item} :
    moreItems is = true ↔ ∃ i ∈ is, isEmptyItem i = false := by
  simp [moreItems]

theorem lacks_nil {e : Expr} : ¬Lacks [] e := by
  rintro ⟨⟨before, x, rest, h, -⟩, -⟩
  simp at h

theorem lacks_cons {i : Item} {is : List Item} {e : Expr} :
    Lacks (i :: is) e ↔
      ((∃ x, i = .exprItem e false x) ∧ moreItems is = true ∧ Builds.endsInBlock e = false) ∨
        Lacks is e := by
  constructor
  · rintro ⟨⟨before, x, rest, h, hmore⟩, hend⟩
    cases before with
    | nil =>
        cases h
        exact .inl ⟨⟨x, rfl⟩, moreItems_iff.mpr hmore, hend⟩
    | cons j before =>
        obtain ⟨-, rfl⟩ := List.cons.inj h
        exact .inr ⟨⟨before, x, rest, rfl, hmore⟩, hend⟩
  · rintro (⟨⟨x, rfl⟩, hmore, hend⟩ | ⟨⟨before, x, rest, rfl, hmore⟩, hend⟩)
    · exact ⟨⟨[], x, is, rfl, moreItems_iff.mp hmore⟩, hend⟩
    · exact ⟨⟨i :: before, x, rest, rfl, hmore⟩, hend⟩

def Lacked (ps : List Part) (e : Expr) : Prop := ∃ b, .block b ∈ ps ∧ b.Lacks e

theorem lacked_nil {e : Expr} : ¬Lacked [] e := by simp [Lacked]

theorem lacked_append {ps qs : List Part} {e : Expr} :
    Lacked (ps ++ qs) e ↔ Lacked ps e ∨ Lacked qs e := by
  simp [Lacked, or_and_right, exists_or]

def unended (value : Expr) (semi : Bool) (rest : List Item) : List Expr :=
  if semi || Builds.endsInBlock value || !moreItems rest then [] else [value]

theorem lacks_exprItem {value e : Expr} {semi : Bool} {x : Extent} {is : List Item} :
    Lacks (.exprItem value semi x :: is) e ↔ e ∈ unended value semi is ∨ Lacks is e := by
  rw [lacks_cons]
  refine or_congr_left ?_
  cases semi with
  | true => simp [unended]
  | false =>
      cases hmore : moreItems is with
      | false => simp [unended, hmore]
      | true =>
          cases hend : Builds.endsInBlock value <;> simp [unended, hmore, hend] <;> grind

mutual

def Expr.lacking : Expr → List Expr
  | .int _ | .string _ | .float _ | .bool _ _ | .path _ _ | .brk _ | .cont _ => []
  | .macroCall _ args _ | .tuple args _ | .array args _ => lackingOf args
  | .paren inner _ => inner.lacking
  | .block body | .loop body _ => body.lacking
  | .cond test yes no _ => test.lacking ++ (yes.lacking ++ optionLacking no)
  | .whileLoop test body _ => test.lacking ++ body.lacking
  | .forLoop _ iterable body _ => iterable.lacking ++ body.lacking
  | .ret value _ => optionLacking value
  | .unary _ operand _ => operand.lacking
  | .binary _ left right _ => left.lacking ++ right.lacking
  | .range lower upper _ => optionLacking lower ++ optionLacking upper
  | .call callee args _ => callee.lacking ++ lackingOf args
  | .methodCall receiver _ args _ => receiver.lacking ++ lackingOf args
  | .field subject _ _ => subject.lacking
  | .index subject position _ => subject.lacking ++ position.lacking
  | .closure _ _ body _ => body.lacking

def lackingOf : List Expr → List Expr
  | [] => []
  | e :: es => e.lacking ++ lackingOf es

def optionLacking : Option Expr → List Expr
  | none => []
  | some e => e.lacking

def Block.lacking : Block → List Expr
  | .mk items _ => itemLacking items

def itemLacking : List Item → List Expr
  | [] => []
  | .empty _ :: rest => itemLacking rest
  | .letItem _ _ value _ :: rest => optionLacking value ++ itemLacking rest
  | .exprItem value semi _ :: rest => value.lacking ++ (unended value semi rest ++ itemLacking rest)

end

def Module.lacking (m : Module) : List Expr := m.functions.flatMap fun f => f.body.lacking

variable {v : Expr}

mutual

theorem Expr.mem_lacking : (e : Expr) → (v ∈ e.lacking ↔ Lacked e.parts v)
  | .int _ | .string _ | .float _ | .bool _ _ | .path _ _ | .brk _ | .cont _ => by
      simp [Expr.lacking, Expr.parts, Lacked]
  | .macroCall _ args _ | .tuple args _ | .array args _ => mem_lackingOf args
  | .paren inner _ => inner.mem_lacking
  | .block body | .loop body _ => body.mem_lacking
  | .cond test yes no _ => by
      simp [Expr.lacking, Expr.parts, lacked_append, test.mem_lacking, yes.mem_lacking,
        mem_optionLacking no]
  | .whileLoop test body _ => by
      simp [Expr.lacking, Expr.parts, lacked_append, test.mem_lacking, body.mem_lacking]
  | .forLoop _ iterable body _ => by
      simp [Expr.lacking, Expr.parts, lacked_append, iterable.mem_lacking, body.mem_lacking]
  | .ret value _ => mem_optionLacking value
  | .unary _ operand _ => operand.mem_lacking
  | .binary _ left right _ => by
      simp [Expr.lacking, Expr.parts, lacked_append, left.mem_lacking, right.mem_lacking]
  | .range lower upper _ => by
      simp [Expr.lacking, Expr.parts, lacked_append, mem_optionLacking lower,
        mem_optionLacking upper]
  | .call callee args _ => by
      simp [Expr.lacking, Expr.parts, lacked_append, callee.mem_lacking, mem_lackingOf args]
  | .methodCall receiver _ args _ => by
      simp [Expr.lacking, Expr.parts, lacked_append, receiver.mem_lacking, mem_lackingOf args]
  | .field subject _ _ => subject.mem_lacking
  | .index subject position _ => by
      simp [Expr.lacking, Expr.parts, lacked_append, subject.mem_lacking, position.mem_lacking]
  | .closure _ _ body _ => body.mem_lacking

theorem mem_lackingOf : (es : List Expr) → (v ∈ lackingOf es ↔ Lacked (partsOf es) v)
  | [] => by simp [lackingOf, partsOf, lacked_nil]
  | e :: es => by simp [lackingOf, partsOf, lacked_append, e.mem_lacking, mem_lackingOf es]

theorem mem_optionLacking : (o : Option Expr) → (v ∈ optionLacking o ↔ Lacked (optionParts o) v)
  | none => by simp [optionLacking, optionParts, lacked_nil]
  | some e => e.mem_lacking

theorem Block.mem_lacking : (b : Block) → (v ∈ b.lacking ↔ Lacked b.parts v)
  | .mk items x => by
      rw [Block.lacking, Block.parts, mem_itemLacking items, ← List.singleton_append, lacked_append]
      simp [Lacked, Block.Lacks, Block.items]

theorem mem_itemLacking : (is : List Item) →
    (v ∈ itemLacking is ↔ Lacks is v ∨ Lacked (itemParts is) v)
  | [] => by simp [itemLacking, itemParts, lacks_nil, lacked_nil]
  | .empty _ :: rest => by
      simp [itemLacking, itemParts, lacks_cons, mem_itemLacking rest]
  | .letItem _ _ value _ :: rest => by
      simp only [itemLacking, itemParts, lacks_cons, lacked_append, List.mem_append,
        mem_itemLacking rest, mem_optionLacking value]
      grind
  | .exprItem value semi _ :: rest => by
      simp only [itemLacking, itemParts, lacks_exprItem, lacked_append, List.mem_append,
        mem_itemLacking rest, value.mem_lacking]
      grind

end

theorem Module.mem_lacking (m : Module) : v ∈ m.lacking ↔ Lacked m.parts v := by
  simp only [Module.lacking, Module.parts, Lacked, List.mem_flatMap, Block.mem_lacking]
  grind

end ChainLint.Surface
