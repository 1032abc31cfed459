import ChainLint.Proofs.Lint.Gist

namespace ChainLint

namespace MapUnwrapOr

open Tree

variable {file : Option String} {text : List Char} {m : Tree.Module} {levels : LintLevels}
  {ds : List Diagnostic} {d : Diagnostic}

theorem exists_reportable_of_mem (h : (Module.ofText file text .empty).1 = .ok m)
    (hds : lintText file levels text = .ok ds) (hd : d ∈ ds) :
    ∃ c ∈ chains (Analysis.ofModule m), Reportable (Analysis.ofModule m) c ∧
      ∃ severity, d = c.report (Sources.empty.add file text) severity := by
  classical
  obtain ⟨-, -, rfl⟩ := (lintText_eq_run_iff h).mp hds
  cases hl : (levels.get code).severity? with
  | none =>
      rw [run_of_allow _ _ hl] at hd
      cases hd
  | some severity =>
      rw [run_eq h _ hl] at hd
      obtain ⟨c, hc, rfl⟩ := List.mem_map.mp hd
      obtain ⟨hc, hr⟩ := List.mem_filter.mp hc
      exact ⟨c, hc, of_decide_eq_true hr, severity, rfl⟩

theorem exists_of_checked (text : List Char) (p : List Diagnostic → Prop) [DecidablePred p]
    (h : ((Module.ofText none text .empty).1.toOption.bind fun _ =>
      (lintText none {} text).toOption.map fun ds => decide (p ds)) = some true) :
    ∃ m ds, (Module.ofText none text .empty).1 = .ok m ∧ lintText none {} text = .ok ds ∧ p ds := by
  obtain ⟨m, hm, h⟩ := Option.bind_eq_some_iff.mp h
  obtain ⟨ds, hds, h⟩ := Option.map_eq_some_iff.mp h
  exact ⟨m, ds, ok_of_toOption hm, ok_of_toOption hds, of_decide_eq_true h⟩

theorem namesNone_or_local {n : Node} (h : fallsToNone n = true) :
    namesNone n = true ∨ ∃ i b, n = .expr (.var i "None" (some b)) := by
  cases n with
  | expr e =>
      cases e with
      | var i name binding =>
          have hname : name = "None" := of_decide_eq_true h
          subst hname
          cases binding with
          | none => exact .inl rfl
          | some b => exact .inr ⟨i, b, rfl⟩
      | _ => cases h
  | _ => cases h

/-- A suggestion names `and_then` for the path `None`, where mapping gives an option of an option, and
`map_or` with the text of the fallback for all other fallbacks, except that a local called `None` is
treated as the path without a look at what mapping gives. -/
theorem parts_of_mem_lintText (h : (Module.ofText file text .empty).1 = .ok m)
    (hds : lintText file levels text = .ok ds) (hd : d ∈ ds) :
    ∃ c ∈ chains (Analysis.ofModule m), d.span = c.whole.span ∧ ∃ s, d.suggestions = [s] ∧
      ((s.parts = [⟨c.nameSpan, "and_then".toList⟩, c.remove] ∧
          (namesNone c.fallback = true ∧
              (∃ t, (Analysis.ofModule m).typeOf c.mapCall = .option (.option t)) ∨
            ∃ i b, c.fallback = .expr (.var i "None" (some b)))) ∨
        (s.parts = [⟨c.nameSpan, "map_or".toList⟩, c.remove,
            ⟨c.mapper.span.atStart, c.quoted text ++ ", ".toList⟩] ∧
          fallsToNone c.fallback = false)) := by
  obtain ⟨c, hc, hr, severity, rfl⟩ := exists_reportable_of_mem h hds hd
  refine ⟨c, hc, rfl, _, rfl, ?_⟩
  rw [hr.suggestion_eq h hc]
  have hmerge := merge_eq h hc
  rw [Chain.merges] at hmerge
  cases hfalls : fallsToNone c.fallback with
  | true =>
      rw [hfalls, if_pos rfl] at hmerge
      refine .inl ⟨?_, (namesNone_or_local hfalls).imp_left fun hnone => ⟨hnone, hr.fallback hnone⟩⟩
      simp only [Chain.edits, Chain.rename, hmerge]
      rfl
  | false =>
      rw [hfalls, if_neg Bool.false_ne_true] at hmerge
      refine .inr ⟨?_, rfl⟩
      simp only [Chain.edits, Chain.rename, hmerge]
      rfl

theorem exists_parts_of_each_merge :
    let text :=
      "fn f(o: Option<Option<i32>>) \x7b o.map(|v| v).unwrap_or(None); o.map(g).unwrap_or(1); \x7d".toList
    ∃ m ds, (Module.ofText none text .empty).1 = .ok m ∧ lintText none {} text = .ok ds ∧
      ds.map (fun d => d.suggestions.map Suggestion.message) =
        [[Merge.andThen.help], [Merge.mapOr.help]] ∧
      ∀ d ∈ ds, ∃ c ∈ chains (Analysis.ofModule m), d.span = c.whole.span ∧
        ∃ s, d.suggestions = [s] ∧
          ((s.parts = [⟨c.nameSpan, "and_then".toList⟩, c.remove] ∧
              (namesNone c.fallback = true ∧
                  (∃ t, (Analysis.ofModule m).typeOf c.mapCall = .option (.option t)) ∨
                ∃ i b, c.fallback = .expr (.var i "None" (some b)))) ∨
            (s.parts = [⟨c.nameSpan, "map_or".toList⟩, c.remove,
                ⟨c.mapper.span.atStart, c.quoted text ++ ", ".toList⟩] ∧
              fallsToNone c.fallback = false)) := by
  intro text
  obtain ⟨m, ds, hm, hds, hmessages⟩ := exists_of_checked text (fun ds =>
    ds.map (fun d => d.suggestions.map Suggestion.message) =
      [[Merge.andThen.help], [Merge.mapOr.help]]) (by decide +kernel)
  exact ⟨m, ds, hm, hds, hmessages, fun d hd => parts_of_mem_lintText hm hds hd⟩

example :
    ((lintText none {} "fn f(o: Option<i32>, None: i32) \x7b o.map(g).unwrap_or(None); \x7d".toList).toOption.map
      (List.map fun d => d.suggestions.map Suggestion.message)) = some [[Merge.andThen.help]] := by
  decide +kernel

end MapUnwrapOr

end ChainLint
