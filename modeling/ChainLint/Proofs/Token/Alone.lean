import ChainLint.Proofs.Token.Context

namespace ChainLint.Lexer

open Terminal

variable {expected : List Terminal} {cs l digits suffix : List Char}

theorem scan_alone_name (hn : .name ∈ expected) (hl : name? l = some l)
    (hw : ∀ t ∈ words, t ∈ expected → t.spelling ≠ l) : scan expected l = some (.name, l) := by
  rw [scan_of_name hn hl, classify_name hw]

theorem scan_of_int (hi : .int ∈ expected) (hfloat : float? cs = none) (hint : int? cs = some l) :
    scan expected cs = some (.int, l) := by
  have hname : name? cs = none := by
    cases cs with
    | nil => rfl
    | cons c cs =>
        have hdigit : c.isDigit = true := by
          cases hc : c.isDigit with
          | true => rfl
          | false => cases (int?_eq_none.mpr hc).symm.trans hint
        exact name?_eq_none.mpr (isNameStart_of_isDigit hdigit)
  have hsome := ifExpected_some hi hint
  simp only [scan, hfloat, hname, hsome]
  simp [ifExpected]

theorem scan_of_string (hs : .string ∈ expected) (hbody : stringBody cs = some l) :
    scan expected ('"' :: cs) = some (.string, '"' :: l) := by
  have hstring : string? ('"' :: cs) = some ('"' :: l) := by
    rw [string?, hbody]
    rfl
  have hsome := ifExpected_some hs hstring
  have hname : name? ('"' :: cs) = none := name?_eq_none.mpr (by decide)
  have hint : int? ('"' :: cs) = none := int?_eq_none.mpr (by decide)
  have hfloat : float? ('"' :: cs) = none := by simp [float?, digits?]
  simp only [scan, hfloat, hname, hint, hsome]
  simp [ifExpected]

theorem scan_symbol {E : Expectation} {t : Terminal} (ht : t ∈ symbols) (hE : t ∈ E.terminals) :
    scan E.terminals t.spelling = some (t, t.spelling) ∧ blankRun false t.spelling = [] := by
  revert t
  cases E <;> decide +kernel

theorem digits?_append (hfirst : ∃ c ∈ digits.head?, c.isDigit = true)
    (hdigits : ∀ c ∈ digits, isNumberPart c = true)
    (hnext : ∀ c ∈ suffix.head?, isNumberPart c = false) :
    digits? (digits ++ suffix) = some digits := by
  obtain ⟨c, hc, hdigit⟩ := hfirst
  cases digits with
  | nil => cases hc
  | cons d ds =>
      cases hc
      rw [List.cons_append, digits?, if_pos hdigit]
      congr 2
      exact takeWhile_append_eq.mpr ⟨fun c hc => hdigits c (List.mem_cons_of_mem _ hc), hnext⟩

theorem intSuffix_head (h : suffix = [] ∨ suffix ∈ intSuffixes) :
    ∀ c ∈ suffix.head?, isNumberPart c = false ∧ c ≠ '.' := by
  have hall : ∀ s ∈ intSuffixes, ∀ c ∈ s.head?, isNumberPart c = false ∧ c ≠ '.' := by
    simp [intSuffixes, isNumberPart]
  rcases h with rfl | h
  · simp
  · exact hall suffix h

theorem suffixOf_intSuffix (h : suffix = [] ∨ suffix ∈ intSuffixes) :
    suffixOf intSuffixes suffix = suffix := by
  have hall : ∀ s ∈ intSuffixes, suffixOf intSuffixes s = s := by decide
  rcases h with rfl | h
  · rfl
  · exact hall suffix h

theorem scan_decimal (hi : .int ∈ expected) (hfirst : ∃ c ∈ digits.head?, c.isDigit = true)
    (hdigits : ∀ c ∈ digits, isNumberPart c = true) (hs : suffix = [] ∨ suffix ∈ intSuffixes) :
    scan expected (digits ++ suffix) = some (.int, digits ++ suffix) := by
  have hwhole := digits?_append hfirst hdigits fun c hc => (intSuffix_head hs c hc).1
  refine scan_of_int hi ?_ ?_
  · rw [float?, hwhole]
    simp only [List.drop_left]
    split
    · exact absurd rfl (intSuffix_head hs '.' rfl).2
    · rfl
  · rw [int?, hwhole, Option.map_some, List.drop_left, suffixOf_intSuffix hs]

end ChainLint.Lexer
