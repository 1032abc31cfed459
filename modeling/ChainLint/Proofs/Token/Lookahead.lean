import ChainLint.Token.Lexer

namespace ChainLint.Lexer

/-- No token that starts before the character holds it, strings apart. -/
def isBreak (c : Char) : Bool :=
  isBlank c || c = ';' || c = ',' || c = '(' || c = ')' || c = '[' || c = ']' || c = '\x7b' ||
    c = '\x7d'

def Breaks (cs : List Char) : Prop := ∀ c ∈ cs.head?, isBreak c = true

/-- No token, strings apart, holds the end of the one text and the start of the other. A point is
never followed by a letter. -/
def Apart (x y : List Char) : Prop :=
  Breaks y ∨ (∃ x', x = x' ++ ['.']) ∧ ∃ c ∈ y.head?, isNameStart c = true

def Follows (a b : List Char) : Prop := ∃ x y, b = x ++ y ∧ x <+: a ∧ Apart x y

def unbroken : List Char → Bool
  | [] => true
  | [c] => !isBreak c
  | c :: d :: cs => !isBreak c && !(c = '.' && isNameStart d) && unbroken (d :: cs)

theorem unbroken_at {u v : List Char} {c : Char} (h : unbroken (u ++ c :: v) = true) :
    isBreak c = false ∧ ∀ u', u = u' ++ ['.'] → isNameStart c = false := by
  induction u with
  | nil =>
      refine ⟨?_, fun u' hu => absurd hu.symm (List.append_ne_nil_of_right_ne_nil _ (by simp))⟩
      cases v with
      | nil => simpa [unbroken] using h
      | cons d v =>
          simp only [List.nil_append, unbroken, Bool.and_eq_true, Bool.not_eq_true'] at h
          exact h.1.1
  | cons d u ih =>
      cases u with
      | nil =>
          simp only [List.cons_append, List.nil_append, unbroken, Bool.and_eq_true,
            Bool.not_eq_true', Bool.and_eq_false_iff, decide_eq_false_iff_not] at h
          refine ⟨(ih h.2).1, fun u' hu => ?_⟩
          have hd : d = '.' := by
            have := congrArg List.getLast? hu
            simpa using this
          exact h.1.2.resolve_left (not_not_intro hd)
      | cons e u =>
          simp only [List.cons_append, unbroken, Bool.and_eq_true] at h
          obtain ⟨hbreak, hdot⟩ := ih h.2
          refine ⟨hbreak, fun u' hu => ?_⟩
          cases u' with
          | nil => simp at hu
          | cons d' u' => exact hdot u' (List.cons.inj hu).2

namespace Follows

variable {a b : List Char}

theorem refl (a : List Char) : Follows a a :=
  ⟨a, [], by simp, List.prefix_rfl, .inl (by simp [Breaks])⟩

theorem of_breaks (h : Breaks b) : Follows a b := ⟨[], b, rfl, List.nil_prefix, .inl h⟩

theorem append (h : Follows a b) (t : List Char) : Follows (t ++ a) (t ++ b) := by
  obtain ⟨x, y, rfl, hx, hy⟩ := h
  refine ⟨t ++ x, y, by simp, (List.prefix_append_right_inj t).mpr hx, hy.imp_right ?_⟩
  rintro ⟨⟨x', rfl⟩, hc⟩
  exact ⟨⟨t ++ x', by simp⟩, hc⟩

theorem head (h : Follows a b) {c : Char} (hb : b.head? = some c) (hc : isBreak c = false) :
    a.head? = some c := by
  obtain ⟨x, y, rfl, ⟨z, rfl⟩, hy⟩ := h
  cases x with
  | nil =>
      rcases hy with hy | ⟨⟨x', hx⟩, -⟩
      · have := hy c hb
        rw [hc] at this
        cases this
      · simp at hx
  | cons d x =>
      cases hb
      rfl

theorem isPrefix (h : Follows a b) {l : List Char} (hl : l <+: b) (hl' : unbroken l = true) :
    l <+: a := by
  obtain ⟨x, y, rfl, hx, hy⟩ := h
  rcases List.prefix_or_prefix_of_prefix hl (List.prefix_append x y) with h | ⟨l', rfl⟩
  · exact h.trans hx
  · cases l' with
    | nil => simpa using hx
    | cons c l' =>
        obtain ⟨hbreak, hdot⟩ := unbroken_at hl'
        have hc : y.head? = some c := by
          obtain ⟨z, hz⟩ := (List.prefix_append_right_inj x).mp hl
          rw [← hz]
          rfl
        rcases hy with hy | ⟨⟨x', rfl⟩, d, hd, hstart⟩
        · rw [hy c hc] at hbreak
          cases hbreak
        · rw [hc, Option.mem_some_iff] at hd
          subst hd
          rw [hdot x' rfl] at hstart
          cases hstart

end Follows

theorem isBreak_of_isNamePart {c : Char} (h : isNamePart c = true) : isBreak c = false := by
  simp only [isBreak, isBlank, Bool.or_eq_false_iff, decide_eq_false_iff_not]
  refine ⟨⟨⟨⟨⟨⟨⟨⟨⟨⟨⟨⟨?_, ?_⟩, ?_⟩, ?_⟩, ?_⟩, ?_⟩, ?_⟩, ?_⟩, ?_⟩, ?_⟩, ?_⟩, ?_⟩, ?_⟩ <;>
    · rintro rfl
      exact absurd h (by decide)

theorem isBreak_of_isNumberPart {c : Char} (h : isNumberPart c = true) : isBreak c = false := by
  refine isBreak_of_isNamePart ?_
  simp only [isNumberPart, isNamePart, Char.isAlphanum, Bool.or_eq_true] at h ⊢
  rcases h with h | h
  · exact .inl (.inr h)
  · exact .inr h

theorem takeWhile_append_eq {p : Char → Bool} {w a : List Char} :
    (w ++ a).takeWhile p = w ↔ (∀ c ∈ w, p c = true) ∧ ∀ c ∈ a.head?, p c = false := by
  constructor
  · intro h
    have hw : ∀ c ∈ w, p c = true := by
      intro c hc
      rw [← h] at hc
      exact List.all_eq_true.mp List.all_takeWhile c hc
    refine ⟨hw, fun c hc => ?_⟩
    rw [List.takeWhile_append_of_pos hw, List.append_right_eq_self] at h
    cases a with
    | nil => cases hc
    | cons d a =>
        cases hc
        by_cases hp : p c = true
        · rw [List.takeWhile_cons_of_pos hp] at h
          cases h
        · simpa using hp
  · rintro ⟨hw, ha⟩
    rw [List.takeWhile_append_of_pos hw]
    cases a with
    | nil => simp
    | cons d a =>
        rw [List.takeWhile_cons_of_neg (by simp [ha d rfl])]
        simp

theorem Follows.takeWhile {p : Char → Bool} (hp : ∀ c, p c = true → isBreak c = false)
    {w a b : List Char} (h : Follows a b) (hw : (w ++ a).takeWhile p = w) :
    (w ++ b).takeWhile p = w := by
  obtain ⟨hall, ha⟩ := takeWhile_append_eq.mp hw
  refine takeWhile_append_eq.mpr ⟨hall, fun c hc => ?_⟩
  cases hpc : p c with
  | false => rfl
  | true =>
      have := ha c (h.head hc (hp c hpc))
      rw [hpc] at this
      cases this

variable {a b t : List Char}

theorem name?_follows (h : Follows a b) (ht : name? (t ++ a) = some t) :
    name? (t ++ b) = some t := by
  cases t with
  | nil => exact absurd rfl (name?_isPrefix ht).1
  | cons c w =>
      simp only [List.cons_append, name?, Option.ite_none_right_eq_some, Option.some.injEq,
        List.cons.injEq, true_and] at ht ⊢
      exact ⟨ht.1, h.takeWhile (fun _ => isBreak_of_isNamePart) ht.2⟩

theorem digits?_follows (h : Follows a b) (ht : digits? (t ++ a) = some t) :
    digits? (t ++ b) = some t := by
  cases t with
  | nil => exact absurd rfl (digits?_isPrefix ht).1
  | cons c w =>
      simp only [List.cons_append, digits?, Option.ite_none_right_eq_some, Option.some.injEq,
        List.cons.injEq, true_and] at ht ⊢
      exact ⟨ht.1, h.takeWhile (fun _ => isBreak_of_isNumberPart) ht.2⟩

theorem suffixOf_follows {suffixes : List (List Char)}
    (hs : ∀ s ∈ suffixes, unbroken s = true) (h : Follows a b)
    (ht : suffixOf suffixes (t ++ a) = t) : suffixOf suffixes (t ++ b) = t := by
  have hless : ∀ s ∈ suffixes, s.isPrefixOf (t ++ b) = true → s.isPrefixOf (t ++ a) = true := by
    intro s hs' hp
    rw [List.isPrefixOf_iff_prefix] at hp ⊢
    exact (h.append t).isPrefix hp (hs s hs')
  unfold suffixOf at ht ⊢
  cases hfind : suffixes.find? (·.isPrefixOf (t ++ a)) with
  | none =>
      rw [hfind] at ht
      have hnone : suffixes.find? (·.isPrefixOf (t ++ b)) = none := by
        rw [List.find?_eq_none] at hfind ⊢
        exact fun s hs' hp => hfind s hs' (hless s hs' hp)
      rw [hnone]
      exact ht
  | some s =>
      rw [hfind] at ht
      obtain rfl : s = t := ht
      obtain ⟨hp, as, bs, heq, hbefore⟩ := List.find?_eq_some_iff_append.mp hfind
      have hsome : suffixes.find? (·.isPrefixOf (s ++ b)) = some s := by
        refine List.find?_eq_some_iff_append.mpr ⟨?_, as, bs, heq, fun u hu => ?_⟩
        · exact List.isPrefixOf_iff_prefix.mpr (List.prefix_append s b)
        · have hmem : u ∈ suffixes := by
            rw [heq]
            exact List.mem_append_left _ hu
          have hu' := hbefore u hu
          simp only [Bool.not_eq_true'] at hu' ⊢
          cases hub : u.isPrefixOf (s ++ b) with
          | false => rfl
          | true =>
              rw [hless u hmem hub] at hu'
              cases hu'
      rw [hsome]
      rfl

theorem intSuffixes_unbroken : ∀ s ∈ intSuffixes, unbroken s = true := by
  decide

theorem floatSuffixes_unbroken : ∀ s ∈ floatSuffixes, unbroken s = true := by
  decide

theorem int?_follows (h : Follows a b) (ht : int? (t ++ a) = some t) :
    int? (t ++ b) = some t := by
  obtain ⟨whole, hw, heq⟩ := Option.map_eq_some_iff.mp ht
  generalize hsuffix : suffixOf intSuffixes ((t ++ a).drop whole.length) = suffix at heq
  subst heq
  rw [List.append_assoc] at hw hsuffix
  rw [List.drop_left] at hsuffix
  refine Option.map_eq_some_iff.mpr ⟨whole, ?_, ?_⟩
  · rw [List.append_assoc]
    exact digits?_follows (h.append suffix) hw
  · rw [List.append_assoc, List.drop_left, suffixOf_follows intSuffixes_unbroken h hsuffix]

theorem float?_eq_some {cs : List Char} :
    float? cs = some t ↔ ∃ whole part suffix rest, cs = t ++ rest ∧
      t = whole ++ '.' :: (part ++ suffix) ∧ digits? cs = some whole ∧
        digits? (part ++ (suffix ++ rest)) = some part ∧
          suffixOf floatSuffixes (suffix ++ rest) = suffix := by
  constructor
  · intro h
    obtain ⟨rest, hrest⟩ := (float?_isPrefix h).2
    unfold float? at h
    split at h
    · cases h
    · next whole hw =>
        obtain ⟨z, hz⟩ := (digits?_isPrefix hw).2
        rw [← hz, List.drop_left] at h
        split at h
        · next y =>
            obtain ⟨part, hpart, heq⟩ := Option.map_eq_some_iff.mp h
            generalize hsuffix : suffixOf floatSuffixes (y.drop part.length) = suffix at heq
            obtain ⟨u, hu⟩ := (digits?_isPrefix hpart).2
            have htext : whole ++ '.' :: (part ++ u) = t ++ rest := by rw [hu, hz, hrest]
            rw [← heq, List.append_assoc, List.append_assoc] at htext
            have hu' : u = suffix ++ rest := by simpa using htext
            subst hu'
            refine ⟨whole, part, suffix, rest, hrest.symm, ?_, hw, ?_, ?_⟩
            · rw [← heq]
              simp
            · rw [hu]
              exact hpart
            · rw [← hu, List.drop_left] at hsuffix
              exact hsuffix
        · cases h
  · rintro ⟨whole, part, suffix, rest, hcs, rfl, hw, hpart, hsuffix⟩
    unfold float?
    rw [hw, hcs]
    simp only [List.append_assoc, List.drop_left, List.cons_append]
    refine Option.map_eq_some_iff.mpr ⟨part, hpart, ?_⟩
    rw [List.drop_left, hsuffix]

theorem float?_follows (h : Follows a b) (ht : float? (t ++ a) = some t) :
    float? (t ++ b) = some t := by
  obtain ⟨whole, part, suffix, rest, hcs, heq, hw, hpart, hsuffix⟩ := float?_eq_some.mp ht
  obtain rfl := List.append_cancel_left hcs
  refine float?_eq_some.mpr ⟨whole, part, suffix, b, rfl, heq, ?_, ?_, ?_⟩
  · subst heq
    rw [List.append_assoc] at hw ⊢
    exact digits?_follows (h.append _) hw
  · exact digits?_follows (h.append suffix) hpart
  · exact suffixOf_follows floatSuffixes_unbroken h hsuffix

theorem stringBody_append (ht : stringBody (t ++ a) = some t) (b : List Char) :
    stringBody (t ++ b) = some t := by
  generalize hcs : t ++ a = cs at ht
  fun_induction stringBody cs generalizing t with
  | case1 => cases ht
  | case2 cs =>
      cases ht
      rfl
  | case3 => cases ht
  | case4 => cases ht
  | case5 c cs hc ih =>
      obtain ⟨r, hr, rfl⟩ := Option.map_eq_some_iff.mp ht
      simp only [List.cons_append, List.cons.injEq, true_and] at hcs
      rw [List.cons_append, List.cons_append, stringBody, if_neg hc, ih hcs hr]
      rfl
  | case6 c cs hquote hend hescape ih =>
      obtain ⟨r, hr, rfl⟩ := Option.map_eq_some_iff.mp ht
      simp only [List.cons_append, List.cons.injEq, true_and] at hcs
      have hc : c ≠ '\\' := by
        rintro rfl
        cases cs with
        | nil => exact hend rfl rfl
        | cons d cs => exact hescape d cs rfl rfl
      rw [List.cons_append, stringBody, ih hcs hr]
      · rfl
      · exact hquote
      · exact fun h _ => hc h
      · exact fun _ _ h _ => hc h

theorem string?_append (ht : string? (t ++ a) = some t) (b : List Char) :
    string? (t ++ b) = some t := by
  cases t with
  | nil => exact absurd rfl (string?_isPrefix ht).1
  | cons c w =>
      rw [List.cons_append] at ht ⊢
      unfold string? at ht
      split at ht
      · next cs heq =>
          cases heq
          obtain ⟨r, hr, hcons⟩ := Option.map_eq_some_iff.mp ht
          obtain rfl := (List.cons.inj hcons).2
          simp [string?, stringBody_append hr b]
      · cases ht

theorem float?_ne_none {cs : List Char} : float? cs ≠ none ↔ ∃ c w d, c.isDigit = true ∧
    (∀ x ∈ w, isNumberPart x = true) ∧ d.isDigit = true ∧ c :: (w ++ ['.', d]) <+: cs := by
  constructor
  · intro h
    obtain ⟨t, ht⟩ := Option.ne_none_iff_exists'.mp h
    obtain ⟨whole, part, suffix, rest, rfl, rfl, hw, hpart, -⟩ := float?_eq_some.mp ht
    cases whole with
    | nil => exact absurd rfl (digits?_isPrefix hw).1
    | cons c w =>
        cases part with
        | nil => exact absurd rfl (digits?_isPrefix hpart).1
        | cons d p =>
            simp only [List.cons_append, digits?, Option.ite_none_right_eq_some, Option.some.injEq,
              List.cons.injEq, true_and] at hw hpart
            refine ⟨c, w, d, hw.1, fun x hx => ?_, hpart.1, ?_⟩
            · rw [← hw.2] at hx
              exact List.all_eq_true.mp List.all_takeWhile x hx
            · exact ⟨p ++ (suffix ++ rest), by simp⟩
  · rintro ⟨c, w, d, hc, hw, hd, rest, rfl⟩
    have hwhole : digits? (c :: (w ++ ['.', d]) ++ rest) = some (c :: w) := by
      simp only [List.cons_append, List.append_assoc, digits?, hc, if_true, Option.some.injEq,
        List.cons.injEq, true_and]
      exact takeWhile_append_eq.mpr ⟨hw, fun x hx => by cases hx; rfl⟩
    unfold float?
    rw [hwhole]
    simp [digits?, hd]

theorem isNameStart_of_isDigit {d : Char} (h : d.isDigit = true) : isNameStart d = false := by
  cases hs : isNameStart d with
  | false => rfl
  | true =>
      simp only [Char.isDigit, Bool.and_eq_true, decide_eq_true_eq] at h
      delta isNameStart Char.isAlpha Char.isUpper Char.isLower at hs
      simp only [Bool.or_eq_true, Bool.and_eq_true, decide_eq_true_eq] at hs
      rcases hs with (hs | hs) | rfl
      · exact absurd (UInt32.le_trans hs.1 h.2) (by decide)
      · exact absurd (UInt32.le_trans hs.1 h.2) (by decide)
      · exact absurd h.2 (by decide)

theorem unbroken_decimal {l : List Char} {d : Char} (hl : ∀ c ∈ l, isNumberPart c = true)
    (hd : d.isDigit = true) : unbroken (l ++ ['.', d]) = true := by
  induction l with
  | nil =>
      have hbreak : isBreak d = false := isBreak_of_isNumberPart (by simp [isNumberPart, hd])
      have hdot : isBreak '.' = false := by decide
      simp [unbroken, hbreak, hdot, isNameStart_of_isDigit hd]
  | cons c l ih =>
      have hl' := ih fun e he => hl e (List.mem_cons_of_mem c he)
      have hc := hl c List.mem_cons_self
      have hbreak := isBreak_of_isNumberPart hc
      have hdot : c ≠ '.' := by
        rintro rfl
        exact absurd hc (by decide)
      cases l with
      | nil => simp [unbroken, hbreak, hdot] at hl' ⊢; exact hl'
      | cons e l => simp [unbroken, hbreak, hdot] at hl' ⊢; exact hl'

theorem float?_none_follows (h : Follows a b) (ht : float? (t ++ a) = none) :
    float? (t ++ b) = none := by
  by_cases hb : float? (t ++ b) = none
  · exact hb
  · obtain ⟨c, w, d, hc, hw, hd, hp⟩ := float?_ne_none.mp hb
    refine absurd ht (float?_ne_none.mpr ⟨c, w, d, hc, hw, hd, (h.append t).isPrefix hp ?_⟩)
    refine unbroken_decimal (l := c :: w) (fun x hx => ?_) hd
    rcases List.mem_cons.mp hx with rfl | hx
    · simp [isNumberPart, hc]
    · exact hw x hx

theorem name?_eq_none {c : Char} {cs : List Char} :
    name? (c :: cs) = none ↔ isNameStart c = false := by
  simp [name?]

theorem int?_eq_none {c : Char} {cs : List Char} : int? (c :: cs) = none ↔ c.isDigit = false := by
  simp [int?, digits?]

theorem string?_eq_none {c : Char} {cs : List Char} (h : c ≠ '"') : string? (c :: cs) = none := by
  unfold string?
  split
  · next heq =>
      cases heq
      exact absurd rfl h
  · rfl

theorem longest_max {ts : List Terminal} {t u : Terminal} (h : longest ts = some t)
    (hu : u ∈ ts) : u.spelling.length ≤ t.spelling.length := by
  induction ts generalizing t with
  | nil => cases h
  | cons v vs ih =>
      unfold longest at h
      split at h
      · next hnone =>
          cases h
          cases vs with
          | nil =>
              obtain rfl := List.mem_singleton.mp hu
              exact Nat.le_refl _
          | cons x xs =>
              unfold longest at hnone
              split at hnone
              · cases hnone
              · split at hnone <;> cases hnone
      · next x hx =>
          split at h
          · next hle =>
              cases h
              rcases List.mem_cons.mp hu with rfl | hu
              · exact Nat.le_refl _
              · exact Nat.le_trans (ih hx hu) hle
          · next hlt =>
              cases h
              rcases List.mem_cons.mp hu with rfl | hu
              · omega
              · exact ih hx hu

theorem spelling_unbroken (t : Terminal) : unbroken t.spelling.tail = true := by
  cases t <;> decide

theorem spelling_ne_quote (t : Terminal) : '"' ∉ t.spelling := by
  cases t <;> decide

theorem fixed?_follows {expected : List Terminal} {u : Terminal} (h : Follows a b)
    (hu : fixed? expected (u.spelling ++ a) = some u) :
    fixed? expected (u.spelling ++ b) = some u := by
  obtain ⟨hmem, hne, -⟩ := fixed?_isPrefix hu
  rw [← hu]
  unfold fixed?
  congr 1
  refine List.filter_congr fun v hv => ?_
  cases hempty : v.spelling.isEmpty with
  | true => rfl
  | false =>
      have hlength : v.spelling.isPrefixOf (u.spelling ++ a) = true →
          v.spelling.length ≤ u.spelling.length := fun hp =>
        longest_max hu (List.mem_filter.mpr ⟨hv, by simp [hempty, hp]⟩)
      have hcut {cs : List Char} (hl : v.spelling.length ≤ u.spelling.length) :
          v.spelling <+: u.spelling ++ cs ↔ v.spelling <+: u.spelling :=
        ⟨fun hp => List.prefix_of_prefix_length_le hp (List.prefix_append _ _) hl,
          fun hp => hp.trans (List.prefix_append _ _)⟩
      have hiff : v.spelling <+: u.spelling ++ b ↔ v.spelling <+: u.spelling ++ a := by
        constructor
        · intro hp
          obtain ⟨c, s, hs⟩ := List.exists_cons_of_ne_nil hne
          cases hv' : v.spelling with
          | nil => exact List.nil_prefix
          | cons d r =>
              rw [hv', hs, List.cons_append] at hp
              obtain ⟨rfl, htail⟩ := List.cons_prefix_cons.mp hp
              rw [hs, List.cons_append]
              refine List.cons_prefix_cons.mpr ⟨rfl, (h.append s).isPrefix htail ?_⟩
              have := spelling_unbroken v
              rwa [hv'] at this
        · intro hp
          have hl := hlength (List.isPrefixOf_iff_prefix.mpr hp)
          exact (hcut hl).mpr ((hcut hl).mp hp)
      have hbool : v.spelling.isPrefixOf (u.spelling ++ b) = v.spelling.isPrefixOf (u.spelling ++ a) := by
        rw [Bool.eq_iff_iff, List.isPrefixOf_iff_prefix, List.isPrefixOf_iff_prefix]
        exact hiff
      rw [hbool]

theorem ifExpected_eq_none {expected : List Terminal} {u : Terminal} {o : Option (List Char)} :
    ifExpected expected u o = none ↔ u ∈ expected → o = none := by
  unfold ifExpected
  split
  · next h =>
      have hmem : u ∈ expected := by simpa using h
      simp [hmem]
  · next h =>
      have hmem : u ∉ expected := by simpa using h
      simp [hmem]

theorem ifExpected_some {expected : List Terminal} {u : Terminal} {o : Option (List Char)}
    {lexeme : List Char} (hu : u ∈ expected) (ho : o = some lexeme) :
    ifExpected expected u o = some (u, lexeme) := by
  have : expected.contains u = true := by simpa using hu
  rw [ifExpected, if_pos this, ho]
  rfl

theorem scan_follows {expected : List Terminal} {u : Terminal} (h : Follows a b)
    (hs : scan expected (t ++ a) = some (u, t)) : scan expected (t ++ b) = some (u, t) := by
  obtain ⟨hne, -⟩ := scan_isPrefix hs
  obtain ⟨c, w, rfl⟩ := List.exists_cons_of_ne_nil hne
  have float_none (hf : ifExpected expected .float (float? (c :: w ++ a)) = none) :
      ifExpected expected .float (float? (c :: w ++ b)) = none :=
    ifExpected_eq_none.mpr fun hm => float?_none_follows h (ifExpected_eq_none.mp hf hm)
  have name_none (hf : (ifExpected expected .name (name? (c :: w ++ a))).map
        (fun m => (classify expected m.2, m.2)) = none) :
      (ifExpected expected .name (name? (c :: w ++ b))).map
        (fun m => (classify expected m.2, m.2)) = none := by
    rw [Option.map_eq_none_iff, ifExpected_eq_none] at hf ⊢
    exact fun hm => name?_eq_none.mpr (name?_eq_none.mp (hf hm))
  have int_none (hf : ifExpected expected .int (int? (c :: w ++ a)) = none) :
      ifExpected expected .int (int? (c :: w ++ b)) = none :=
    ifExpected_eq_none.mpr fun hm => int?_eq_none.mpr (int?_eq_none.mp (ifExpected_eq_none.mp hf hm))
  simp only [scan, Option.orElse_eq_orElse, Option.orElse_eq_or, Option.or_eq_some_iff] at hs ⊢
  rcases hs with hs | ⟨hf, hs | ⟨hn, hs | ⟨hi, hs | ⟨hstr, hs⟩⟩⟩⟩
  · obtain ⟨hm, rfl, ho⟩ := ifExpected_eq_some hs
    exact .inl (ifExpected_some hm (float?_follows h ho))
  · obtain ⟨⟨v, l⟩, hl, he⟩ := Option.map_eq_some_iff.mp hs
    cases he
    obtain ⟨hm, rfl, ho⟩ := ifExpected_eq_some hl
    refine .inr ⟨float_none hf, .inl (Option.map_eq_some_iff.mpr ⟨_, ?_, rfl⟩)⟩
    exact ifExpected_some hm (name?_follows h ho)
  · obtain ⟨hm, rfl, ho⟩ := ifExpected_eq_some hs
    refine .inr ⟨float_none hf, .inr ⟨name_none hn, .inl ?_⟩⟩
    exact ifExpected_some hm (int?_follows h ho)
  · obtain ⟨hm, rfl, ho⟩ := ifExpected_eq_some hs
    refine .inr ⟨float_none hf, .inr ⟨name_none hn, .inr ⟨int_none hi, .inl ?_⟩⟩⟩
    exact ifExpected_some hm (string?_append ho b)
  · obtain ⟨v, hv, he⟩ := Option.map_eq_some_iff.mp hs
    obtain ⟨rfl, hspell⟩ := Prod.mk.inj he
    have hquote : c ≠ '"' := by
      rintro rfl
      refine spelling_ne_quote v ?_
      rw [hspell]
      exact List.mem_cons_self
    refine .inr ⟨float_none hf, .inr ⟨name_none hn, .inr ⟨int_none hi, .inr ⟨?_, ?_⟩⟩⟩⟩
    · exact ifExpected_eq_none.mpr fun _ => string?_eq_none hquote
    · rw [← hspell] at hv
      refine Option.map_eq_some_iff.mpr ⟨v, ?_, he⟩
      rw [← hspell]
      exact fixed?_follows h hv

theorem blankRun_eq_nil {c : Char} {cs : List Char} : blankRun false (c :: cs) = [] ↔
    isBlank c = false ∧ ¬(c = '/' ∧ cs.head? = some '/') := by
  unfold blankRun
  split
  · next h => simp [h]
  · next h =>
      split
      · next hs => simp [hs]
      · next hs => simp [h, hs]

theorem blankRun_follows (h : Follows a b) (ht : t ≠ []) (hs : blankRun false (t ++ a) = []) :
    blankRun false (t ++ b) = [] := by
  obtain ⟨c, w, rfl⟩ := List.exists_cons_of_ne_nil ht
  obtain ⟨hblank, hslash⟩ := blankRun_eq_nil.mp hs
  refine blankRun_eq_nil.mpr ⟨hblank, fun ⟨hc, hb⟩ => hslash ⟨hc, ?_⟩⟩
  cases w with
  | nil => exact h.head hb rfl
  | cons d w => exact hb

end ChainLint.Lexer
