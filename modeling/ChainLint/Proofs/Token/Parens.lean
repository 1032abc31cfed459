import ChainLint.Proofs.Token.Context

namespace ChainLint.Lexer

inductive Mode where
  | code | comment | string | escape
  deriving DecidableEq, Repr

def parensFrom : Mode → List Char → List Char
  | _, [] => []
  | .code, c :: cs =>
      if c = '"' then parensFrom .string cs
      else if c = '/' ∧ cs.head? = some '/' then parensFrom .comment cs
      else if c = '(' ∨ c = ')' then c :: parensFrom .code cs
      else parensFrom .code cs
  | .comment, c :: cs => parensFrom (if c = '\n' then .code else .comment) cs
  | .string, c :: cs =>
      parensFrom (if c = '\\' then .escape else if c = '"' then .code else .string) cs
  | .escape, _ :: cs => parensFrom .string cs

def parens (cs : List Char) : List Char := parensFrom .code cs

def depth : Nat → List Char → Option Nat
  | n, [] => some n
  | n, '(' :: cs => depth (n + 1) cs
  | 0, _ :: _ => none
  | n + 1, _ :: cs => depth n cs

def Nested (cs : List Char) : Prop := depth 0 (parens cs) = some 0

instance : DecidablePred Nested := fun cs => inferInstanceAs (Decidable (depth 0 (parens cs) = some 0))

theorem depth_append (n : Nat) (a b : List Char) :
    depth n (a ++ b) = (depth n a).bind fun m => depth m b := by
  fun_induction depth n a with
  | case1 => rfl
  | case2 n cs ih => exact ih
  | case3 c cs hc =>
      rw [List.cons_append, depth]
      · rfl
      · exact hc
  | case4 n c cs hc ih =>
      rw [List.cons_append, depth]
      · exact ih
      · exact hc

theorem depth_add {n m : Nat} {a : List Char} (h : depth n a = some m) (k : Nat) :
    depth (n + k) a = some (m + k) := by
  fun_induction depth n a with
  | case1 n =>
      cases h
      rfl
  | case2 n cs ih =>
      rw [depth, Nat.add_right_comm]
      exact ih h
  | case3 c cs hc => cases h
  | case4 n c cs hc ih =>
      rw [Nat.succ_add, depth]
      · exact ih h
      · exact hc

def isPlain (c : Char) : Bool := c ≠ '"' && c ≠ '/' && c ≠ '(' && c ≠ ')'

theorem parensFrom_plain {l : List Char} (h : ∀ c ∈ l, isPlain c = true) (y : List Char) :
    parensFrom .code (l ++ y) = parensFrom .code y := by
  induction l with
  | nil => rfl
  | cons c l ih =>
      have hc := h c List.mem_cons_self
      simp only [isPlain, Bool.and_eq_true, decide_eq_true_eq] at hc
      obtain ⟨⟨⟨hquote, hslash⟩, hopen⟩, hclose⟩ := hc
      rw [List.cons_append, parensFrom, if_neg hquote, if_neg fun hc => hslash hc.1,
        if_neg (not_or.mpr ⟨hopen, hclose⟩)]
      exact ih fun d hd => h d (List.mem_cons_of_mem c hd)

theorem parensFrom_blank {m : Bool} {b y : List Char} (h : blankRun m (b ++ y) = b) :
    parensFrom (if m then .comment else .code) (b ++ y) = parensFrom .code y := by
  induction b generalizing m with
  | nil =>
      cases m with
      | false => rfl
      | true =>
          cases y with
          | nil => rfl
          | cons c y => cases h
  | cons c b ih =>
      cases m with
      | true =>
          simp only [List.cons_append, blankRun, List.cons.injEq, true_and] at h
          have := ih h
          by_cases hc : c = '\n' <;> simpa [parensFrom, hc] using this
      | false =>
          rw [List.cons_append, blankRun] at h
          by_cases hb : isBlank c = true
          · rw [if_pos hb, List.cons.injEq] at h
            have hplain : isPlain c = true := by
              simp only [isBlank, Bool.or_eq_true, decide_eq_true_eq] at hb
              rcases hb with (((rfl | rfl) | rfl) | rfl) | rfl <;> decide
            have hstep := parensFrom_plain (l := [c]) (by simpa using hplain) (b ++ y)
            exact hstep.trans (ih h.2)
          · rw [if_neg hb] at h
            split at h
            · next hs =>
                rw [List.cons.injEq] at h
                have hstep : parensFrom .code (c :: (b ++ y)) = parensFrom .comment (b ++ y) := by
                  rw [parensFrom, if_neg, if_pos hs]
                  rw [hs.1]
                  decide
                exact hstep.trans (ih h.2)
            · cases h

theorem parens_blank {b y : List Char} (h : blankRun false (b ++ y) = b) :
    parensFrom .code (b ++ y) = parensFrom .code y :=
  parensFrom_blank h

theorem isPlain_of_isNamePart {c : Char} (h : isNamePart c = true) : isPlain c = true := by
  simp only [isPlain, Bool.and_eq_true, decide_eq_true_eq]
  refine ⟨⟨⟨?_, ?_⟩, ?_⟩, ?_⟩ <;>
    · rintro rfl
      exact absurd h (by decide)

theorem isPlain_of_isNumberPart {c : Char} (h : isNumberPart c = true) : isPlain c = true := by
  simp only [isPlain, Bool.and_eq_true, decide_eq_true_eq]
  refine ⟨⟨⟨?_, ?_⟩, ?_⟩, ?_⟩ <;>
    · rintro rfl
      exact absurd h (by decide)

theorem name?_part {cs l : List Char} (h : name? cs = some l) : ∀ c ∈ l, isNamePart c = true := by
  cases cs with
  | nil => cases h
  | cons c cs =>
      rw [name?, Option.ite_none_right_eq_some, Option.some.injEq] at h
      obtain ⟨hc, rfl⟩ := h
      intro d hd
      rcases List.mem_cons.mp hd with rfl | hd
      · simp only [isNameStart, Bool.or_eq_true] at hc
        simp only [isNamePart, Char.isAlphanum, Bool.or_eq_true]
        exact hc.imp_left .inl
      · exact List.all_eq_true.mp List.all_takeWhile d hd

theorem name?_plain {cs l : List Char} (h : name? cs = some l) : ∀ c ∈ l, isPlain c = true :=
  fun c hc => isPlain_of_isNamePart (name?_part h c hc)

theorem digits?_plain {cs l : List Char} (h : digits? cs = some l) : ∀ c ∈ l, isPlain c = true := by
  cases cs with
  | nil => cases h
  | cons c cs =>
      rw [digits?, Option.ite_none_right_eq_some, Option.some.injEq] at h
      obtain ⟨hc, rfl⟩ := h
      intro d hd
      rcases List.mem_cons.mp hd with rfl | hd
      · exact isPlain_of_isNumberPart (by simp [isNumberPart, hc])
      · exact isPlain_of_isNumberPart (List.all_eq_true.mp List.all_takeWhile d hd)

theorem suffixOf_plain {suffixes : List (List Char)}
    (hs : (suffixes.all fun s => s.all isPlain) = true) (cs : List Char) :
    ∀ c ∈ suffixOf suffixes cs, isPlain c = true := by
  unfold suffixOf
  cases h : suffixes.find? (·.isPrefixOf cs) with
  | none => exact fun c hc => absurd hc List.not_mem_nil
  | some s =>
      exact List.all_eq_true.mp (List.all_eq_true.mp hs s (List.mem_of_find?_eq_some h))

theorem int?_plain {cs l : List Char} (h : int? cs = some l) : ∀ c ∈ l, isPlain c = true := by
  obtain ⟨whole, hw, rfl⟩ := Option.map_eq_some_iff.mp h
  intro c hc
  rcases List.mem_append.mp hc with hc | hc
  · exact digits?_plain hw c hc
  · exact suffixOf_plain (by decide) _ c hc

theorem float?_plain {cs l : List Char} (h : float? cs = some l) : ∀ c ∈ l, isPlain c = true := by
  obtain ⟨whole, part, suffix, rest, -, rfl, hw, hpart, hsuffix⟩ := float?_eq_some.mp h
  intro c hc
  rcases List.mem_append.mp hc with hc | hc
  · exact digits?_plain hw c hc
  · rcases List.mem_cons.mp hc with rfl | hc
    · rfl
    · rcases List.mem_append.mp hc with hc | hc
      · exact digits?_plain hpart c hc
      · rw [← hsuffix] at hc
        exact suffixOf_plain (by decide) _ c hc

theorem stringBody_parens {t a : List Char} (ht : stringBody (t ++ a) = some t) (y : List Char) :
    parensFrom .string (t ++ y) = parensFrom .code y := by
  generalize hcs : t ++ a = cs at ht
  fun_induction stringBody cs generalizing t with
  | case1 => cases ht
  | case2 cs =>
      cases ht
      rfl
  | case3 => cases ht
  | case4 => cases ht
  | case5 c cs hc ih =>
      obtain ⟨r, hr, rfl⟩ := Option.map_eq_some_iff.mp ht
      simp only [List.cons_append, List.cons.injEq, true_and] at hcs
      change parensFrom .string (r ++ y) = _
      exact ih hcs hr
  | case6 c cs hquote hend hescape ih =>
      obtain ⟨r, hr, rfl⟩ := Option.map_eq_some_iff.mp ht
      simp only [List.cons_append, List.cons.injEq, true_and] at hcs
      have hc : c ≠ '\\' := by
        rintro rfl
        cases cs with
        | nil => exact hend rfl rfl
        | cons d cs => exact hescape d cs rfl rfl
      rw [List.cons_append, parensFrom, if_neg hc, if_neg fun h => hquote h]
      exact ih hcs hr

theorem string?_parens {t a : List Char} (ht : string? (t ++ a) = some t) (y : List Char) :
    parensFrom .code (t ++ y) = parensFrom .code y := by
  cases t with
  | nil => exact absurd rfl (string?_isPrefix ht).1
  | cons c w =>
      rw [List.cons_append] at ht
      unfold string? at ht
      split at ht
      · next cs heq =>
          cases heq
          obtain ⟨r, hr, hcons⟩ := Option.map_eq_some_iff.mp ht
          obtain rfl := (List.cons.inj hcons).2
          exact stringBody_parens hr y
      · cases ht

def paren : Terminal → List Char
  | .lparen => ['(']
  | .rparen => [')']
  | _ => []

theorem paren_word {t : Terminal} (h : t ∈ Terminal.words ∨ t = .name) : paren t = [] := by
  rcases h with h | rfl
  · revert h
    cases t <;> decide
  · rfl

theorem spelling_parens {t : Terminal} {rest : List Char}
    (hb : blankRun false (t.spelling ++ rest) = []) {y : List Char} (h : Follows rest y) :
    parensFrom .code (t.spelling ++ y) = paren t ++ parensFrom .code y := by
  by_cases hplain : t.spelling.all isPlain = true
  · rw [parensFrom_plain (List.all_eq_true.mp hplain)]
    revert hplain
    cases t <;> first | exact fun _ => rfl | exact fun h => absurd h (by decide)
  · have hcases : t = .lparen ∨ t = .rparen ∨ t = .slash := by
      revert hplain
      cases t <;> decide
    rcases hcases with rfl | rfl | rfl
    · rfl
    · rfl
    · have hslash : rest.head? ≠ some '/' := fun hc => (blankRun_eq_nil.mp hb).2 ⟨rfl, hc⟩
      have hy : ¬('/' = '/' ∧ y.head? = some '/') := fun hc => hslash (h.head hc.2 (by decide))
      change parensFrom .code ('/' :: y) = _
      rw [parensFrom, if_neg (by decide), if_neg hy, if_neg (by decide)]
      rfl

theorem token_parens {expected : List Terminal} {t : Terminal} {l rest : List Char}
    (hs : scan expected (l ++ rest) = some (t, l)) (hb : blankRun false (l ++ rest) = [])
    {y : List Char} (h : Follows rest y) :
    parensFrom .code (l ++ y) = paren t ++ parensFrom .code y := by
  simp only [scan, Option.orElse_eq_orElse, Option.orElse_eq_or, Option.or_eq_some_iff] at hs
  rcases hs with hs | ⟨-, hs | ⟨-, hs | ⟨-, hs | ⟨-, hs⟩⟩⟩⟩
  · obtain ⟨-, rfl, ho⟩ := ifExpected_eq_some hs
    exact parensFrom_plain (float?_plain ho) y
  · obtain ⟨⟨u, l'⟩, hl, he⟩ := Option.map_eq_some_iff.mp hs
    obtain ⟨-, rfl, ho⟩ := ifExpected_eq_some hl
    obtain ⟨rfl, rfl⟩ := Prod.mk.inj he
    have hword : paren (classify expected l') = [] := by
      refine paren_word ?_
      rcases classify_cases expected l' with ⟨hw, -, -⟩ | ⟨hn, -⟩
      · exact .inl hw
      · exact .inr hn
    rw [hword]
    exact parensFrom_plain (name?_plain ho) y
  · obtain ⟨-, rfl, ho⟩ := ifExpected_eq_some hs
    exact parensFrom_plain (int?_plain ho) y
  · obtain ⟨-, rfl, ho⟩ := ifExpected_eq_some hs
    exact string?_parens ho y
  · obtain ⟨u, -, he⟩ := Option.map_eq_some_iff.mp hs
    obtain ⟨rfl, rfl⟩ := Prod.mk.inj he
    exact spelling_parens hb h

end ChainLint.Lexer
