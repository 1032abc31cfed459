import ChainLint.Proofs.Tree.Origins
import ChainLint.Ty.Basic

namespace ChainLint

theorem Scalar.of_isIntegerName {name : String} (h : isIntegerName name = true) :
    ∃ s, ofName? name = some s ∧ s.isInteger = true ∧ s.name = name := by
  rw [isIntegerName] at h
  cases hs : ofName? name with
  | none =>
      rw [hs] at h
      cases h
  | some s =>
      rw [hs] at h
      exact ⟨s, rfl, h, by simpa using List.find?_some hs⟩

theorem Numeral.of_suffix {p : String → Prop} {suffixes : List (List Char)} {text cs : List Char}
    (hall : ∀ cs ∈ suffixes, p (String.ofList cs)) (h : suffix? suffixes text = some cs) :
    p (String.ofList cs) :=
  hall cs (List.mem_of_find?_eq_some h)

theorem Numeral.isIntegerName_of_integer {text : List Char} {n : Integer}
    (h : integer? text = some n) {name : String} (hname : n.suffix = some name) :
    isIntegerName name = true := by
  simp only [integer?] at h
  split at h
  · cases h
  · cases h
    obtain ⟨cs, hcs, rfl⟩ := Option.map_eq_some_iff.mp hname
    exact of_suffix (p := (isIntegerName · = true)) (by decide) hcs

namespace Tree

def Expr.suffix? : Expr → Option String
  | .int _ _ suffix | .float _ _ suffix => suffix
  | _ => none

theorem Expr.suffix?_erase (f : Span → Span) (e : Expr) : (e.erase f).suffix? = e.suffix? := by
  cases e <;> rfl

def Node.Suffixed (n : Node) : Prop :=
  ∀ e name, .expr e ∈ n.preorder → e.suffix? = some name → (Scalar.ofName? name).isSome

theorem Node.Suffixed.children {n : Node} (h : n.Suffixed) : ∀ c ∈ n.children, c.Suffixed :=
  fun _ hc e name he => h e name (mem_preorder_of_child hc he)

open Surface in
theorem isScalar_of_plain {file : Option String} {e : Surface.Expr}
    (hparen : ∀ inner x, e ≠ .paren inner x) {name : String}
    (h : (Plain.expr file e).suffix? = some name) : (Scalar.ofName? name).isSome := by
  cases e with
  | int t =>
      rw [Plain.expr, Plain.intExpr] at h
      cases hn : Numeral.integer? t.text with
      | none =>
          rw [hn] at h
          cases h
      | some n =>
          rw [hn] at h
          obtain ⟨s, hs, -⟩ := Scalar.of_isIntegerName (Numeral.isIntegerName_of_integer hn h)
          exact Option.isSome_of_eq_some hs
  | float t =>
      obtain ⟨cs, hcs, rfl⟩ := Option.map_eq_some_iff.mp h
      exact Numeral.of_suffix (p := fun name => (Scalar.ofName? name).isSome) (by decide) hcs
  | string t =>
      rw [Plain.expr, Plain.stringExpr] at h
      split at h <;> cases h
  | paren inner x => exact absurd rfl (hparen inner x)
  | _ => cases h

theorem Reads.suffixed {file : Option String} {text : List Char} {m : Module}
    {fs : List Surface.Function} {ws : List Lexeme} (h : Reads file text m fs ws) :
    (Node.module m).Suffixed := by
  intro e name he hname
  obtain ⟨e', _, _, _, -, -, -, hplain, -, hparen⟩ := h.arises he
  rw [← e.suffix?_erase Span.inRoot, ← hplain] at hname
  exact isScalar_of_plain hparen hname

open Surface in
theorem isIntegerName_of_plain {file : Option String} {e : Surface.Expr}
    (hparen : ∀ inner x, e ≠ .paren inner x) {i : Info} {value : Nat} {name : String}
    (h : Plain.expr file e = .int i value (some name)) : isIntegerName name = true := by
  cases e with
  | int t =>
      rw [Plain.expr, Plain.intExpr] at h
      cases hn : Numeral.integer? t.text with
      | none =>
          rw [hn] at h
          cases h
      | some n =>
          rw [hn] at h
          exact Numeral.isIntegerName_of_integer hn (Expr.int.inj h).2.2
  | string t =>
      rw [Plain.expr, Plain.stringExpr] at h
      split at h <;> cases h
  | paren inner x => exact absurd rfl (hparen inner x)
  | _ => cases h

theorem Reads.isIntegerName {file : Option String} {text : List Char} {m : Module}
    {fs : List Surface.Function} {ws : List Lexeme} (h : Reads file text m fs ws) {i : Info}
    {value : Nat} {name : String}
    (he : .expr (.int i value (some name)) ∈ (Node.module m).preorder) : isIntegerName name = true := by
  obtain ⟨e', _, _, _, -, -, -, hplain, -, hparen⟩ := h.arises he
  exact isIntegerName_of_plain hparen hplain

end Tree

end ChainLint
