import ChainLint.Proofs.Token.Lookahead

namespace ChainLint

open Terminal Lexer

theorem Terminal.spelling_injective {t u : Terminal} (ht : t.spelling ≠ [])
    (h : t.spelling = u.spelling) : t = u := by
  have hall : ∀ t ∈ all, ∀ u ∈ all, t.spelling ≠ [] → t.spelling = u.spelling → t = u := by
    decide +kernel
  have hmem {v : Terminal} (hv : v.spelling ≠ []) : v ∈ all := by
    refine mem_all v ?_
    rintro rfl
    exact hv rfl
  exact hall t (hmem ht) u (hmem (h ▸ ht)) ht h

def Terminal.marks : List Terminal :=
  [.lparen, .rparen, .lbracket, .rbracket, .lbrace, .rbrace, .comma, .semi]

namespace Lexer

theorem longest_eq {ts : List Terminal} {t : Terminal} (ht : t ∈ ts)
    (h : ∀ u ∈ ts, u ≠ t → u.spelling.length < t.spelling.length) : longest ts = some t := by
  induction ts with
  | nil => cases ht
  | cons u us ih =>
      unfold longest
      by_cases hmem : t ∈ us
      · rw [ih hmem fun v hv => h v (List.mem_cons_of_mem u hv)]
        simp only
        by_cases hu : u = t
        · rw [hu]
          exact if_pos (Nat.le_refl _)
        · rw [if_neg (Nat.not_le.mpr (h u List.mem_cons_self hu))]
      · obtain rfl : t = u := (List.mem_cons.mp ht).resolve_right hmem
        cases hl : longest us with
        | none => rfl
        | some v =>
            have hv := longest_mem hl
            have hlt := h v (List.mem_cons_of_mem t hv) fun he => hmem (he ▸ hv)
            exact if_pos (Nat.le_of_lt hlt)

theorem fixed?_eq {expected : List Terminal} {cs : List Char} {t : Terminal} (ht : t ∈ expected)
    (hne : t.spelling ≠ []) (hp : t.spelling <+: cs)
    (h : ∀ u ∈ expected, u ≠ t → u.spelling ≠ [] → u.spelling <+: cs →
      u.spelling.length < t.spelling.length) : fixed? expected cs = some t := by
  have hempty {v : Terminal} : (!v.spelling.isEmpty) = true ↔ v.spelling ≠ [] := by
    simp
  refine longest_eq (List.mem_filter.mpr ⟨ht, ?_⟩) fun u hu hut => ?_
  · rw [Bool.and_eq_true, hempty]
    exact ⟨hne, List.isPrefixOf_iff_prefix.mpr hp⟩
  · obtain ⟨hu, hpu⟩ := List.mem_filter.mp hu
    rw [Bool.and_eq_true, hempty] at hpu
    exact h u hu hut hpu.1 (List.isPrefixOf_iff_prefix.mp hpu.2)

theorem head?_of_isPrefix {l cs : List Char} (h : l <+: cs) (hl : l ≠ []) : l.head? = cs.head? := by
  obtain ⟨c, w, rfl⟩ := List.exists_cons_of_ne_nil hl
  obtain ⟨z, rfl⟩ := h
  rfl

theorem marks_heads {t u : Terminal} (ht : t ∈ marks) (hu : u ≠ t) :
    u.spelling.head? ≠ t.spelling.head? := by
  have hall : ∀ t ∈ marks, ∀ u ∈ .eof :: all, u ≠ t → u.spelling.head? ≠ t.spelling.head? := by
    decide +kernel
  refine hall t ht u ?_ hu
  by_cases he : u = .eof
  · exact he ▸ List.mem_cons_self
  · exact List.mem_cons_of_mem _ (mem_all u he)

theorem scan_mark {expected : List Terminal} {t : Terminal} (ht : t ∈ marks) (hm : t ∈ expected)
    (rest : List Char) : scan expected (t.spelling ++ rest) = some (t, t.spelling) ∧
      blankRun false (t.spelling ++ rest) = [] := by
  have hform : ∃ c, t.spelling = [c] ∧ isNameStart c = false ∧ c.isDigit = false ∧ c ≠ '"' ∧
      isBlank c = false ∧ c ≠ '/' := by
    simp only [marks, List.mem_cons, List.not_mem_nil, or_false] at ht
    rcases ht with rfl | rfl | rfl | rfl | rfl | rfl | rfl | rfl <;>
      exact ⟨_, rfl, by decide, by decide, by decide, by decide, by decide⟩
  obtain ⟨c, hc, hname, hdigit, hquote, hblank, hslash⟩ := hform
  have hfloat : float? (c :: rest) = none := by
    simp [float?, digits?, hdigit]
  have hfixed : fixed? expected (t.spelling ++ rest) = some t := by
    refine fixed?_eq hm (by simp [hc]) (List.prefix_append _ _) fun u _ hut hne hp => ?_
    have := head?_of_isPrefix hp hne
    rw [List.head?_append, hc] at this
    exact absurd (this.trans (by rw [hc]; rfl)) (marks_heads ht hut)
  constructor
  · rw [hc, List.singleton_append] at hfixed ⊢
    simp only [scan, Option.orElse_eq_orElse, Option.orElse_eq_or, Option.or_eq_some_iff]
    refine .inr ⟨ifExpected_eq_none.mpr fun _ => hfloat, .inr ⟨?_, .inr ⟨?_, .inr ⟨?_, ?_⟩⟩⟩⟩
    · rw [Option.map_eq_none_iff]
      exact ifExpected_eq_none.mpr fun _ => name?_eq_none.mpr hname
    · exact ifExpected_eq_none.mpr fun _ => int?_eq_none.mpr hdigit
    · exact ifExpected_eq_none.mpr fun _ => string?_eq_none hquote
    · rw [hfixed, Option.map_some, hc]
  · rw [hc]
    exact blankRun_eq_nil.mpr ⟨hblank, fun h => hslash h.1⟩

end Lexer

namespace Expectation

def expressions : List Expectation :=
  [.expression, .expressionOrParen, .expressionOrBracket, .expressionOrClose]

theorem exprStart_subset {E : Expectation} (h : E ∈ expressions) : exprStart ⊆ E.terminals := by
  simp only [expressions, List.mem_cons, List.not_mem_nil, or_false] at h
  rcases h with rfl | rfl | rfl | rfl <;> decide

theorem subset_exprStart {E : Expectation} (h : E ∈ expressions) :
    E.terminals ⊆ exprStart ++ [.rparen, .rbracket] := by
  simp only [expressions, List.mem_cons, List.not_mem_nil, or_false] at h
  rcases h with rfl | rfl | rfl | rfl <;> decide

theorem heads_apart {E : Expectation} (hE : operandStart ⊆ E.terminals) {t u : Terminal}
    (ht : t ∈ exprStart) (htE : t ∈ E.terminals) (hu : u ∈ exprStart ++ [.rparen, .rbracket])
    (huE : u ∉ E.terminals) : u.spelling.head? ≠ t.spelling.head? := by
  have hall : ∀ t ∈ exprStart, t ∈ E.terminals → ∀ u ∈ exprStart ++ [.rparen, .rbracket],
      u ∉ E.terminals → u.spelling.head? ≠ t.spelling.head? := by
    cases E <;> first | exact absurd hE (by decide) | decide +kernel
  exact hall t ht htE u hu huE

end Expectation

namespace Lexer

theorem classify_cases (expected : List Terminal) (lexeme : List Char) :
    (classify expected lexeme ∈ words ∧ classify expected lexeme ∈ expected ∧
      (classify expected lexeme).spelling = lexeme) ∨
    classify expected lexeme = .name ∧ ∀ t ∈ words, t ∈ expected → t.spelling ≠ lexeme := by
  unfold classify
  simp only
  cases hfind : (words.filter fun t => expected.contains t).find? fun t => t.spelling = lexeme with
  | none =>
      refine .inr ⟨rfl, fun t ht he hs => ?_⟩
      rw [List.find?_eq_none] at hfind
      exact hfind t (List.mem_filter.mpr ⟨ht, by simpa using he⟩) (by simpa using hs)
  | some t =>
      obtain ⟨ht, he⟩ := List.mem_filter.mp (List.mem_of_find?_eq_some hfind)
      exact .inl ⟨ht, by simpa using he, by simpa using List.find?_some hfind⟩

theorem words_spelling {t : Terminal} (h : t ∈ words) : t.spelling ≠ [] := by
  revert t
  decide

theorem classify_word {expected : List Terminal} {t : Terminal} (ht : t ∈ words)
    (he : t ∈ expected) : classify expected t.spelling = t := by
  rcases classify_cases expected t.spelling with ⟨hw, -, hs⟩ | ⟨-, h⟩
  · exact spelling_injective (words_spelling hw) hs
  · exact absurd rfl (h t ht he)

theorem classify_name {expected : List Terminal} {lexeme : List Char}
    (h : ∀ t ∈ words, t ∈ expected → t.spelling ≠ lexeme) : classify expected lexeme = .name := by
  rcases classify_cases expected lexeme with ⟨hw, he, hs⟩ | ⟨h, -⟩
  · exact absurd hs (h _ hw he)
  · exact h

theorem scan_expression {E F : Expectation} (hE : operandStart ⊆ E.terminals)
    (hF : F ∈ Expectation.expressions) {cs lexeme : List Char} {t : Terminal} (ht : t ∈ exprStart)
    (hmove : t = .name → lexeme ≠ moveWord.spelling)
    (h : scan E.terminals cs = some (t, lexeme)) : scan F.terminals cs = some (t, lexeme) := by
  have hFs := Expectation.exprStart_subset hF
  have hsame {u : Terminal} {o : Option (List Char)} (hu : u ∈ operandStart)
      (hn : ifExpected E.terminals u o = none) : ifExpected F.terminals u o = none :=
    ifExpected_eq_none.mpr fun _ => ifExpected_eq_none.mp hn (hE hu)
  have hname (hn : (ifExpected E.terminals .name (name? cs)).map
        (fun m => (classify E.terminals m.2, m.2)) = none) :
      (ifExpected F.terminals .name (name? cs)).map
        (fun m => (classify F.terminals m.2, m.2)) = none := by
    rw [Option.map_eq_none_iff] at hn ⊢
    exact hsame (by decide) hn
  simp only [scan, Option.orElse_eq_orElse, Option.orElse_eq_or, Option.or_eq_some_iff] at h ⊢
  rcases h with h | ⟨hf, h | ⟨hn, h | ⟨hi, h | ⟨hs, h⟩⟩⟩⟩
  · obtain ⟨-, rfl, ho⟩ := ifExpected_eq_some h
    exact .inl (ifExpected_some (hFs ht) ho)
  · obtain ⟨⟨u, l⟩, hl, he⟩ := Option.map_eq_some_iff.mp h
    obtain ⟨-, rfl, ho⟩ := ifExpected_eq_some hl
    obtain ⟨hc, rfl⟩ := Prod.mk.inj he
    refine .inr ⟨hsame (by decide) hf, .inl (Option.map_eq_some_iff.mpr ⟨(.name, l), ?_, ?_⟩)⟩
    · exact ifExpected_some (hFs (by decide)) ho
    · refine Prod.ext ?_ rfl
      change classify F.terminals l = t
      rcases classify_cases E.terminals l with ⟨hw, -, hspell⟩ | ⟨hn, hwords⟩
      · simp only at hc
        rw [hc] at hw hspell
        rw [← hspell]
        exact classify_word hw (hFs ht)
      · simp only at hc
        rw [hc] at hn
        rw [hn]
        refine classify_name fun u hu huF => ?_
        by_cases hum : u = .moveWord
        · rw [hum]
          exact (hmove hn).symm
        · refine hwords u hu (hE ?_)
          have := Expectation.subset_exprStart hF huF
          revert this hum hu
          cases u <;> decide
  · obtain ⟨-, rfl, ho⟩ := ifExpected_eq_some h
    refine .inr ⟨hsame (by decide) hf, .inr ⟨hname hn, .inl ?_⟩⟩
    exact ifExpected_some (hFs ht) ho
  · obtain ⟨-, rfl, ho⟩ := ifExpected_eq_some h
    refine .inr ⟨hsame (by decide) hf, .inr ⟨hname hn, .inr ⟨hsame (by decide) hi, .inl ?_⟩⟩⟩
    exact ifExpected_some (hFs ht) ho
  · obtain ⟨u, hu, he⟩ := Option.map_eq_some_iff.mp h
    obtain ⟨rfl, hspell⟩ := Prod.mk.inj he
    refine .inr ⟨hsame (by decide) hf, .inr ⟨hname hn, .inr ⟨hsame (by decide) hi, .inr
      ⟨hsame (by decide) hs, Option.map_eq_some_iff.mpr ⟨u, ?_, he⟩⟩⟩⟩⟩
    obtain ⟨huE, hne, hp⟩ := fixed?_isPrefix hu
    refine fixed?_eq (hFs ht) hne hp fun v hv hvu hvne hvp => ?_
    have hhead := (head?_of_isPrefix hvp hvne).trans (head?_of_isPrefix hp hne).symm
    by_cases hvE : v ∈ E.terminals
    · have hle : v.spelling.length ≤ u.spelling.length := by
        refine longest_max hu (List.mem_filter.mpr ⟨hvE, ?_⟩)
        simp [hvne, List.isPrefixOf_iff_prefix.mpr hvp]
      refine Nat.lt_of_le_of_ne hle fun heq => hvu (spelling_injective hvne ?_)
      exact (List.prefix_of_prefix_length_le hvp hp hle).eq_of_length heq
    · exact absurd hhead (Expectation.heads_apart hE ht huE (Expectation.subset_exprStart hF hv) hvE)

theorem name?_append {l a : List Char} : name? (l ++ a) = some l ↔
    name? l = some l ∧ ∀ c ∈ a.head?, isNamePart c = false := by
  cases l with
  | nil =>
      constructor
      · intro h
        exact absurd rfl (name?_isPrefix h).1
      · rintro ⟨h, -⟩
        cases h
  | cons c w =>
      have hself : w.takeWhile isNamePart = w ↔ ∀ x ∈ w, isNamePart x = true := by
        have := takeWhile_append_eq (p := isNamePart) (w := w) (a := [])
        simpa using this
      simp only [List.cons_append, name?, Option.ite_none_right_eq_some, Option.some.injEq,
        List.cons.injEq, true_and, takeWhile_append_eq, hself]
      exact and_assoc.symm

theorem scan_member {l l' a : List Char}
    (h : scan Expectation.memberName.terminals (l ++ a) = some (.name, l)) (hl' : name? l' = some l') :
    scan Expectation.memberName.terminals (l' ++ a) = some (.name, l') := by
  have hfloat (o : Option (List Char)) : ifExpected Expectation.memberName.terminals .float o = none :=
    ifExpected_eq_none.mpr fun hm => absurd hm (by decide)
  simp only [scan, Option.orElse_eq_orElse, Option.orElse_eq_or, Option.or_eq_some_iff, hfloat] at h ⊢
  rcases h with h | ⟨-, h | ⟨-, h | ⟨-, h | ⟨-, h⟩⟩⟩⟩
  · cases h
  · obtain ⟨⟨u, l⟩, hl, he⟩ := Option.map_eq_some_iff.mp h
    obtain ⟨-, rfl, ho⟩ := ifExpected_eq_some hl
    obtain ⟨-, rfl⟩ := Prod.mk.inj he
    have hclass : classify Expectation.memberName.terminals l' = .name :=
      classify_name fun t _ ht => by
        simp only [Expectation.terminals, List.mem_cons, List.not_mem_nil, or_false] at ht
        rcases ht with rfl | rfl <;> contradiction
    refine .inr ⟨trivial, .inl (Option.map_eq_some_iff.mpr ⟨(.name, l'), ?_, ?_⟩)⟩
    · exact ifExpected_some (by decide) (name?_append.mpr ⟨hl', (name?_append.mp ho).2⟩)
    · rw [hclass]
  · obtain ⟨-, ht, -⟩ := ifExpected_eq_some h
    cases ht
  · obtain ⟨-, ht, -⟩ := ifExpected_eq_some h
    cases ht
  · obtain ⟨u, hu, he⟩ := Option.map_eq_some_iff.mp h
    obtain ⟨rfl, -⟩ := Prod.mk.inj he
    exact absurd rfl (fixed?_isPrefix hu).2.1

theorem scan_name {expected : List Terminal} {cs l : List Char}
    (h : scan expected cs = some (.name, l)) : classify expected l = .name ∧ name? cs = some l := by
  simp only [scan, Option.orElse_eq_orElse, Option.orElse_eq_or, Option.or_eq_some_iff] at h
  rcases h with h | ⟨-, h | ⟨-, h | ⟨-, h | ⟨-, h⟩⟩⟩⟩
  · cases (ifExpected_eq_some h).2.1
  · obtain ⟨⟨u, l'⟩, hl, he⟩ := Option.map_eq_some_iff.mp h
    obtain ⟨-, rfl, ho⟩ := ifExpected_eq_some hl
    obtain ⟨hc, rfl⟩ := Prod.mk.inj he
    exact ⟨hc, ho⟩
  · cases (ifExpected_eq_some h).2.1
  · cases (ifExpected_eq_some h).2.1
  · obtain ⟨u, hu, he⟩ := Option.map_eq_some_iff.mp h
    obtain ⟨rfl, -⟩ := Prod.mk.inj he
    exact absurd rfl (fixed?_isPrefix hu).2.1

theorem scan_name_ne {expected : List Terminal} {cs l : List Char} {t : Terminal} (ht : t ∈ words)
    (he : t ∈ expected) (h : scan expected cs = some (.name, l)) : l ≠ t.spelling := by
  rintro rfl
  have := (scan_name h).1
  rw [classify_word ht he] at this
  subst this
  exact absurd ht (by decide)

theorem float?_of_name {cs l : List Char} (h : name? cs = some l) : float? cs = none := by
  refine Classical.not_not.mp fun hne => ?_
  obtain ⟨c, w, d, hc, -, -, rest, hp⟩ := float?_ne_none.mp hne
  rw [← hp, List.cons_append, name?, isNameStart_of_isDigit hc] at h
  cases h

theorem scan_of_name {expected : List Terminal} {cs l : List Char} (hn : .name ∈ expected)
    (h : name? cs = some l) : scan expected cs = some (classify expected l, l) := by
  have hname : ifExpected expected .name (some l) = some (.name, l) := ifExpected_some hn rfl
  simp only [scan, float?_of_name h, h, hname, Option.map_some]
  simp [ifExpected]

theorem scan_word {expected : List Terminal} {cs : List Char} {t : Terminal} (ht : t ∈ words)
    (he : t ∈ expected) (hn : .name ∈ expected) (h : name? cs = some t.spelling) :
    scan expected cs = some (t, t.spelling) := by
  rw [scan_of_name hn h, classify_word ht he]

theorem name?_before {cs rest : List Char} (hcs : cs ≠ []) (hrest : Breaks rest) :
    name? (cs ++ rest) = name? cs := by
  obtain ⟨c, cs, rfl⟩ := List.exists_cons_of_ne_nil hcs
  have hnone : rest.takeWhile isNamePart = [] := by
    cases rest with
    | nil => rfl
    | cons d rest =>
        have hd : isNamePart d = false := by
          cases hpart : isNamePart d with
          | false => rfl
          | true => simpa [isBreak_of_isNamePart hpart] using hrest d rfl
        rw [List.takeWhile_cons_of_neg (by rw [hd]; decide)]
  have hsame : (cs ++ rest).takeWhile isNamePart = cs.takeWhile isNamePart := by
    rw [List.takeWhile_append, hnone, List.append_nil]
    split
    · next hall => rw [List.Sublist.eq_of_length (List.takeWhile_sublist _) hall]
    · rfl
  rw [List.cons_append, name?, name?, hsame]

theorem scan_spelling {expected : List Terminal} {cs l : List Char} {t : Terminal}
    (h : scan expected cs = some (t, l)) (ht : t.spelling ≠ []) : l = t.spelling := by
  simp only [scan, Option.orElse_eq_orElse, Option.orElse_eq_or, Option.or_eq_some_iff] at h
  rcases h with h | ⟨-, h | ⟨-, h | ⟨-, h | ⟨-, h⟩⟩⟩⟩
  · obtain ⟨-, rfl, -⟩ := ifExpected_eq_some h
    exact absurd rfl ht
  · obtain ⟨⟨u, l'⟩, -, he⟩ := Option.map_eq_some_iff.mp h
    obtain ⟨rfl, rfl⟩ := Prod.mk.inj he
    rcases classify_cases expected l' with ⟨-, -, hs⟩ | ⟨hn, -⟩
    · exact hs.symm
    · exact absurd (by rw [hn]; rfl) ht
  · obtain ⟨-, rfl, -⟩ := ifExpected_eq_some h
    exact absurd rfl ht
  · obtain ⟨-, rfl, -⟩ := ifExpected_eq_some h
    exact absurd rfl ht
  · obtain ⟨u, -, he⟩ := Option.map_eq_some_iff.mp h
    obtain ⟨rfl, rfl⟩ := Prod.mk.inj he
    rfl

theorem scan_dot {expected : List Terminal} (he : .dot ∈ expected) {c : Char} {cs : List Char}
    (hc : isNameStart c = true) : scan expected ('.' :: c :: cs) = some (.dot, ['.']) := by
  have hfixed : fixed? expected ('.' :: c :: cs) = some .dot := by
    refine fixed?_eq he (by decide) ⟨c :: cs, rfl⟩ fun u _ hu hne hp => ?_
    have hhead := head?_of_isPrefix hp hne
    have hdots : u = .dotDot := by
      revert hhead hu
      cases u <;> simp [Terminal.spelling]
    subst hdots
    obtain ⟨z, hz⟩ := hp
    obtain rfl : '.' = c := by simpa [Terminal.spelling] using congrArg (fun l => l.tail.head?) hz
    exact absurd hc (by decide)
  simp only [scan, Option.orElse_eq_orElse, Option.orElse_eq_or, Option.or_eq_some_iff]
  refine .inr ⟨ifExpected_eq_none.mpr fun _ => rfl, .inr ⟨?_, .inr ⟨?_, .inr ⟨?_, ?_⟩⟩⟩⟩
  · rw [Option.map_eq_none_iff]
    exact ifExpected_eq_none.mpr fun _ => name?_eq_none.mpr (by decide)
  · exact ifExpected_eq_none.mpr fun _ => int?_eq_none.mpr (by decide)
  · exact ifExpected_eq_none.mpr fun _ => string?_eq_none (by decide)
  · rw [hfixed]
    rfl

theorem name?_self_cons {l : List Char} (h : name? l = some l) :
    ∃ c cs, l = c :: cs ∧ isNameStart c = true := by
  cases l with
  | nil => cases h
  | cons c cs =>
      rw [name?, Option.ite_none_right_eq_some] at h
      exact ⟨c, cs, rfl, h.1⟩

theorem blankRun_name {l : List Char} (h : name? l = some l) (cs : List Char) :
    blankRun false (l ++ cs) = [] := by
  obtain ⟨c, l, rfl, hc⟩ := name?_self_cons h
  refine blankRun_eq_nil.mpr ⟨?_, ?_⟩
  · simp only [isBlank, Bool.or_eq_false_iff, decide_eq_false_iff_not]
    refine ⟨⟨⟨⟨?_, ?_⟩, ?_⟩, ?_⟩, ?_⟩ <;>
      · rintro rfl
        exact absurd hc (by decide)
  · rintro ⟨rfl, -⟩
    exact absurd hc (by decide)

end Lexer

end ChainLint
