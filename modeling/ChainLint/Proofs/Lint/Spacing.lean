import ChainLint.Proofs.Grammar.Spacing
import ChainLint.Proofs.Lint.Gist

namespace ChainLint

open Tree Surface Build

namespace Tree.Module

variable {file : Option String} {text first : List Char} {gap : Token → List Char}
  {x : Expansions} {sm : Surface.Module} {tokens : List Token} {m : Module}

theorem ofText_spaced (hparse : Surface.parse text = .ok (sm, tokens))
    (h : (ofText file text x).1 = .ok m) (hfirst : Blank first) (hgap : ∀ t, Blank (gap t)) :
    ∃ m', (ofText file (spaced text tokens first gap) x).1 = .ok m' ∧
      m'.erase unplaced = m.erase unplaced := by
  obtain ⟨g, tokens', hspaced⟩ := parse_spaced hparse hfirst hgap
  obtain ⟨sm', tokens'', x', hparse', hgives⟩ := ofText_eq_ok.mp h
  obtain ⟨rfl, rfl⟩ := Prod.mk.inj (Except.ok.inj (hparse.symm.trans hparse'))
  obtain ⟨ts, hts, rfl⟩ := gives_module.mp hgives
  obtain ⟨hbuilds, hfunctions⟩ := (meets_functions file sm.functions _).2 _ _ hts
  have hbuilds' : ((sm.functions.map (Surface.Function.place g)).all
      fun f => Builds.block f.body) = true := by
    rw [List.all_map, ← hbuilds]
    exact List.all_congr rfl fun f => Builds.block_place g f.body
  obtain ⟨m', hm', hfile, hfunctions'⟩ := ofText_of_parse hspaced hbuilds' x
  refine ⟨m', hm', ?_⟩
  have hplaced : (m'.functions.map (Function.erase Span.inRoot)).map (Function.erase unplaced) =
      (ts.map (Function.erase Span.inRoot)).map (Function.erase unplaced) := by
    rw [hfunctions', hfunctions, List.map_map, List.map_map, List.map_map]
    exact List.map_congr_left fun f _ => Plain.function_place (respans_unplaced file g) f
  calc m'.erase unplaced
    _ = (m'.erase Span.inRoot).erase unplaced := (erase_erase Span.inRoot unplaced m').symm
    _ = (Module.erase Span.inRoot ⟨_, file, ts⟩).erase unplaced :=
        congrArg₂ (Module.mk ⟨0, unplaced {}⟩) hfile hplaced
    _ = Module.erase unplaced ⟨_, file, ts⟩ := erase_erase Span.inRoot unplaced _

end Tree.Module

namespace MapUnwrapOr

/-- A text with any blanks after its tokens and before the first of them is read as the same tree
but for its spans, with the same numbers and bindings, and the lint says the same of it: the same
reports in the same order, each with the same message, code, severity and applicability. -/
theorem lint_spaced {file : Option String} {text first : List Char} {gap : Token → List Char}
    {sm : Surface.Module} {tokens : List Token} {m : Tree.Module}
    (hparse : Surface.parse text = .ok (sm, tokens)) (h : (Module.ofText file text .empty).1 = .ok m)
    (hfirst : Blank first) (hgap : ∀ t, Blank (gap t)) :
    ∃ m', (Module.ofText file (spaced text tokens first gap) .empty).1 = .ok m' ∧
      m'.erase unplaced = m.erase unplaced ∧
      (Analysis.ofModule m').module.relabel (.following unplaced id) =
        (Analysis.ofModule m).module.relabel (.following unplaced id) ∧
      ∀ levels, (lintText file levels (spaced text tokens first gap)).map (List.map Diagnostic.gist) =
        (lintText file levels text).map (List.map Diagnostic.gist) := by
  obtain ⟨m', hm', heq⟩ := Module.ofText_spaced hparse h hfirst hgap
  refine ⟨m', hm', heq, ?_, gists_eq_of_erase_eq h hm' heq⟩
  rw [← Analysis.module_erase, ← Analysis.module_erase, heq]

theorem exists_lint_spaced :
    let text := "fn f(o: Option<i32>) \x7b o.map(|x|x..1).unwrap_or(1..2) \x7d".toList
    ∃ (sm : Surface.Module) (tokens : List Token) (m m' : Tree.Module),
      Surface.parse text = .ok (sm, tokens) ∧ (Module.ofText none text .empty).1 = .ok m ∧
      (Module.ofText none (spaced text tokens "\n".toList fun _ => " \t\x0c\r\n".toList) .empty).1 =
        .ok m' ∧ m'.erase unplaced = m.erase unplaced ∧
      (lintText none {} (spaced text tokens "\n".toList fun _ => " \t\x0c\r\n".toList)).map
        (List.map Diagnostic.gist) =
          .ok [⟨Merge.mapOr.message, some code, .warning, [.machineApplicable]⟩] := by
  intro text
  have hparse : (Surface.parse text).isOk = true := by decide +kernel
  have hread : (Module.ofText none text .empty).1.isOk = true := by decide +kernel
  have hlint : (lintText none {} text).toOption.map (List.map Diagnostic.gist) =
      some [⟨Merge.mapOr.message, some code, .warning, [.machineApplicable]⟩] := by decide +kernel
  cases hp : Surface.parse text with
  | error e =>
      rw [hp] at hparse
      cases hparse
  | ok r =>
      cases h : (Module.ofText none text .empty).1 with
      | error e =>
          rw [h] at hread
          cases hread
      | ok m =>
          obtain ⟨ds, hds, hgists⟩ := Option.map_eq_some_iff.mp hlint
          obtain ⟨m', hm', heq, -, hsame⟩ := @lint_spaced none text "\n".toList
            (fun _ => " \t\x0c\r\n".toList) r.1 r.2 m hp h (by decide) fun _ => by decide
          refine ⟨r.1, r.2, m, m', rfl, rfl, hm', heq, ?_⟩
          rw [hsame, ok_of_toOption hds, ← hgists]
          rfl

end MapUnwrapOr

end ChainLint
