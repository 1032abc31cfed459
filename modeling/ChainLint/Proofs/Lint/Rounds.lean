import ChainLint.Proofs.Lint.Layout

namespace ChainLint

namespace ReadError

theorem diagnostic?_plain {file : Option String} {e : ReadError} {d : Diagnostic}
    (h : e.diagnostic? file = some d) : d.code = none ∧ d.suggestions = [] := by
  cases e with
  | grammar cause =>
      cases h
      exact ⟨rfl, rfl⟩
  | build cause =>
      cases cause with
      | missingSemicolon span =>
          cases h
          exact ⟨rfl, rfl⟩
      | badString cause => cases h
      | longInteger => cases h

end ReadError

namespace MapUnwrapOr

open Tree

variable {file : Option String} {text : List Char} {levels : LintLevels} {ds : List Diagnostic}

theorem lintText_report (h : lintText file levels text = .ok ds) {d : Diagnostic} (hd : d ∈ ds) :
    (d.code = none ∧ d.suggestions = []) ∨
      ∃ c : Chain, c.Laid file text.length ∧
        d.suggestions = [⟨(c.merge text).help, c.edits text, .machineApplicable⟩] := by
  cases hm : (Module.ofText file text .empty).1 with
  | error e => exact .inl (ReadError.diagnostic?_plain (diagnostic_of_error hm h d hd))
  | ok m =>
      right
      obtain ⟨-, -, rfl⟩ := (lintText_eq_run_iff hm).mp h
      cases hl : (levels.get code).severity? with
      | none =>
          rw [run_of_allow _ _ hl] at hd
          cases hd
      | some severity =>
          rw [run_eq hm _ hl] at hd
          obtain ⟨c, hc, rfl⟩ := List.mem_map.mp hd
          obtain ⟨hmem, hr⟩ := List.mem_filter.mp hc
          refine ⟨c, Chain.laid hm hmem, ?_⟩
          rw [Chain.report, Reportable.suggestion_eq hm hmem (by simpa using hr)]

theorem suggestion_laid (h : lintText file levels text = .ok ds) {s : Suggestion}
    (hs : s ∈ ds.flatMap Diagnostic.suggestions) : ∃ c : Chain, c.Laid file text.length ∧
      s = ⟨(c.merge text).help, c.edits text, .machineApplicable⟩ := by
  obtain ⟨d, hd, hs⟩ := List.mem_flatMap.mp hs
  rcases lintText_report h hd with ⟨-, hnone⟩ | ⟨c, hc, hone⟩
  · rw [hnone] at hs
    cases hs
  · rw [hone] at hs
    exact ⟨c, hc, List.mem_singleton.mp hs⟩

theorem Chain.edits_ne_nil (text : List Char) (c : Chain) : c.edits text ≠ [] := by
  unfold edits
  split <;> exact List.cons_ne_nil _ _

theorem length_round (h : lintText file {} text = .ok ds) :
    (Suggestion.applyAll text (ds.flatMap Diagnostic.suggestions)).1.length +
      7 * (Suggestion.applyAll text (ds.flatMap Diagnostic.suggestions)).2 ≤ text.length := by
  refine Suggestion.length_applyAll_add_le (fun s hs => ?_) fun s hs => ?_
  · obtain ⟨c, hc, rfl⟩ := suggestion_laid h hs
    exact hc.edits_within
  · obtain ⟨c, hc, rfl⟩ := suggestion_laid h hs
    exact hc.edits_shorten

theorem round_pos (h : lintText file {} text = .ok ds) {d : Diagnostic} (hd : d ∈ ds)
    (hcode : d.code = some code) :
    0 < (Suggestion.applyAll text (ds.flatMap Diagnostic.suggestions)).2 := by
  rcases lintText_report h hd with ⟨hnone, -⟩ | ⟨c, hc, hone⟩
  · rw [hnone] at hcode
    cases hcode
  · refine Suggestion.applyAll_pos (List.mem_flatMap.mpr ⟨d, hd, hone ▸ List.mem_singleton_self _⟩)
      fun s hs => ?_
    obtain ⟨c, hc, rfl⟩ := suggestion_laid h hs
    exact ⟨c.edits_ne_nil text, rfl, hc.edits_apart⟩

def fixRound (file : Option String) (text : List Char) : Except LintError (List Char × Nat) :=
  (lintText file {} text).map fun ds =>
    Suggestion.applyAll text (ds.flatMap Diagnostic.suggestions)

def rounds (file : Option String) (text : List Char) : Nat → Except LintError (List Char × Nat)
  | 0 => fixRound file text
  | k + 1 => (rounds file text k).bind fun r => fixRound file r.1

theorem fixRound_of_lintText (h : lintText file {} text = .ok ds) : fixRound file text =
    .ok (Suggestion.applyAll text (ds.flatMap Diagnostic.suggestions)) := by
  rw [fixRound, h]
  rfl

theorem fixRound_eq_ok {r : List Char × Nat} (h : fixRound file text = .ok r) :
    r.1.length + 7 * r.2 ≤ text.length := by
  cases hds : lintText file {} text with
  | error e =>
      rw [fixRound, hds] at h
      cases h
  | ok ds =>
      rw [fixRound_of_lintText hds] at h
      cases h
      exact length_round hds

theorem length_rounds {k : Nat} (hlong : ∀ j ≤ k, ∃ r, rounds file text j = .ok r ∧ r.2 ≠ 0) :
    ∃ r, rounds file text k = .ok r ∧ r.1.length + 7 * (k + 1) ≤ text.length := by
  induction k with
  | zero =>
      obtain ⟨r, hr, hne⟩ := hlong 0 (Nat.le_refl 0)
      have := fixRound_eq_ok hr
      exact ⟨r, hr, by omega⟩
  | succ k ih =>
      obtain ⟨r, hr, hlength⟩ := ih fun j hj => hlong j (Nat.le_succ_of_le hj)
      obtain ⟨r', hr', hne⟩ := hlong (k + 1) (Nat.le_refl _)
      have hround := hr'
      rw [rounds, hr, Except.bind] at hround
      have := fixRound_eq_ok hround
      exact ⟨r', hr', by omega⟩

/-- A round makes what all the diagnostics suggest and leaves the text seven characters shorter for each
suggestion made; where it makes none no chain was reported; and one of the first rounds, at most one for seven
characters and one more, makes none, unless one of them gives no result. -/
theorem rounds_end (file : Option String) (text : List Char) :
    (∀ text' ds, lintText file {} text' = .ok ds →
      let r := Suggestion.applyAll text' (ds.flatMap Diagnostic.suggestions)
      fixRound file text' = .ok r ∧ r.1.length + 7 * r.2 ≤ text'.length ∧
        (r.2 = 0 → ∀ d ∈ ds, d.code ≠ some code)) ∧
    ∃ k < text.length / 7 + 1,
      (∃ e, rounds file text k = .error e) ∨ ∃ fixed, rounds file text k = .ok (fixed, 0) := by
  refine ⟨fun text' ds hds => ⟨fixRound_of_lintText hds, length_round hds,
    fun hzero d hd hcode => ?_⟩, ?_⟩
  · have := round_pos hds hd hcode
    omega
  · by_contra hnone
    have hlong : ∀ j ≤ text.length / 7, ∃ r, rounds file text j = .ok r ∧ r.2 ≠ 0 := by
      intro j hj
      cases hr : rounds file text j with
      | error e => exact absurd ⟨j, by omega, .inl ⟨e, hr⟩⟩ hnone
      | ok r => exact ⟨r, rfl, fun hzero => hnone ⟨j, by omega, .inr ⟨r.1, by rw [hr, ← hzero]⟩⟩⟩
    obtain ⟨r, -, hlength⟩ := length_rounds hlong
    omega

theorem rounds_end_two :
    let text := "fn f(o: Option<i32>) { o.map(g).unwrap_or(1); o.map(h).unwrap_or(2); }".toList
    (∃ ds, lintText none {} text = .ok ds ∧ ds.length = 2 ∧
      let r := Suggestion.applyAll text (ds.flatMap Diagnostic.suggestions)
      fixRound none text = .ok r ∧ r.1.length + 7 * r.2 ≤ text.length ∧
        (r.2 = 0 → ∀ d ∈ ds, d.code ≠ some code)) ∧
    ∃ k < text.length / 7 + 1,
      (∃ e, rounds none text k = .error e) ∨ ∃ fixed, rounds none text k = .ok (fixed, 0) := by
  intro text
  obtain ⟨ds, hds, hlength⟩ : ∃ ds, lintText none {} text = .ok ds ∧ ds.length = 2 := by
    have hlint : (lintText none {} text).toOption.map List.length = some 2 := by decide +kernel
    obtain ⟨ds, hds, hlength⟩ := Option.map_eq_some_iff.mp hlint
    exact ⟨ds, ok_of_toOption hds, hlength⟩
  exact ⟨⟨ds, hds, hlength, (rounds_end none text).1 text ds hds⟩, (rounds_end none text).2⟩

end MapUnwrapOr

end ChainLint
