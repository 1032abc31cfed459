import ChainLint.Proofs.Lint.Made
import ChainLint.Proofs.Lint.Relabelled
import ChainLint.Proofs.Ty.Mirroring

namespace ChainLint

open Tree

structure Gist where
  message : String
  code : Option String
  severity : Severity
  applicabilities : List Applicability
  deriving DecidableEq, Repr

def Diagnostic.gist (d : Diagnostic) : Gist :=
  ⟨d.message, d.code, d.severity, d.suggestions.map Suggestion.applicability⟩

namespace Analysis

variable (f : Span → Span) (m : Module)

theorem module_erase : (ofModule (m.erase f)).module =
    (ofModule m).module.relabel (.following f id) :=
  m.analysis_erase f

theorem alike_erase : Infer.Alike id (fun _ => True) (fun _ => True) True
    (ofModule m).typing (ofModule (m.erase f)).typing := by
  have halike := Typing.alike_relabel f Function.injective_id (ofModule m).module
  rw [← module_erase] at halike
  exact halike

theorem typeOf_erase (n : Node) :
    (ofModule (m.erase f)).typeOf (n.relabel (.following f id)) = (ofModule m).typeOf n := by
  rw [typeOf, typeOf, Node.id_relabel]
  exact congrArg (Option.getD · .unknown) ((alike_erase f m).exprs n.id trivial)

end Analysis

namespace MapUnwrapOr

open Surface Build

theorem chains_erase (f : Span → Span) (m : Tree.Module) : chains (Analysis.ofModule (m.erase f)) =
    (chains (Analysis.ofModule m)).map (Chain.relabel (.following f id)) := by
  have hroot : Node.module (Analysis.ofModule (m.erase f)).module =
      (Node.module (Analysis.ofModule m).module).relabel (.following f id) :=
    congrArg Node.module (Analysis.module_erase f m)
  change (Node.module _).chains = (Node.module _).chains.map _
  rw [hroot, Chain.chains_relabel]

theorem reportable_erase {f : Span → Span} {m : Tree.Module} {c : Chain}
    (hc : c ∈ chains (Analysis.ofModule m)) :
    Reportable (Analysis.ofModule (m.erase f)) (c.relabel (.following f id)) ↔
      Reportable (Analysis.ofModule m) c := by
  obtain ⟨n, hn, hof⟩ := List.mem_filterMap.mp hc
  have hat := Chain.ofNode?_eq_some_iff.mp hof
  refine reportable_relabel hat (fun v _ => Analysis.typeOf_erase f m v) ?_
  rw [Analysis.module_erase]
  exact movable_relabel Function.injective_id.injOn (Analysis.ordered_module m) hn hat

def fallsToNone : Node → Bool
  | .expr e => isNonePath e
  | _ => false

def Chain.merges (c : Chain) : Merge := if fallsToNone c.fallback then .andThen else .mapOr

theorem Chain.merges_relabel (r : Relabelling) (c : Chain) : (c.relabel r).merges = c.merges := by
  have hfalls : fallsToNone (c.fallback.relabel r) = fallsToNone c.fallback := by
    cases c.fallback with
    | expr e => cases e <;> rfl
    | _ => rfl
  rw [merges, merges]
  exact if_congr (by rw [← hfalls]; rfl) rfl rfl

variable {file : Option String} {text : List Char} {m : Tree.Module}

theorem quoted_eq_none_iff {x : Expansions} (h : (Module.ofText file text x).1 = .ok m) {c : Chain}
    (hc : c ∈ chains (Analysis.ofModule m)) :
    c.quoted text = "None".toList ↔ fallsToNone c.fallback = true := by
  obtain ⟨fs, ws, hreads⟩ := Module.exists_reads h
  obtain ⟨s, hcuts, -⟩ := hreads.cuts
  have hbuilt : c.erase Span.inRoot ∈ builtChains file (fs.flatMap fun f => f.body.calls) := by
    rw [← hreads.chains]
    exact List.mem_map_of_mem hc
  obtain ⟨e, he, hof⟩ := List.mem_filterMap.mp hbuilt
  obtain ⟨receiver, name, args, x, we, rfl, hin, hspells⟩ := hreads.spells.calls e he
  obtain ⟨n, n', hn, hcutsn⟩ := @Pending.Cuts.within text _ _ _ _ hcuts ⟨[], rfl, rfl⟩ hin
  obtain ⟨i, j, r, ns, f, s, a, hplain, hchain⟩ := ofExpr?_eq_some hof
  obtain ⟨rfl, hr, hname, rfl, hargs⟩ := Expr.methodCall.inj hplain
  obtain ⟨fallback, rfl, rfl⟩ := Plain.exprs_singleton hargs
  have hfallback : c.fallback.erase Span.inRoot = .expr (Plain.expr file fallback) :=
    congrArg Chain.fallback hchain
  have hfalls : fallsToNone c.fallback = isNonePath (Plain.expr file fallback) := by
    cases hn : c.fallback with
    | expr e =>
        rw [hn] at hfallback
        rw [← Node.expr.inj hfallback, isNonePath_erase]
        rfl
    | _ =>
        rw [hn] at hfallback
        cases hfallback
  have hquoted : c.quoted text = textOf text (Plain.expr file fallback) := by
    rw [← Chain.quoted_inRoot, Chain.quoted]
    change slice text (c.fallback.erase Span.inRoot).span.lo.toNat
      (c.fallback.erase Span.inRoot).span.hi.toNat = _
    rw [hfallback]
    rfl
  rw [hquoted, hfalls]
  cases hspells with
  | @methodCall dot _ opening _ _ stop wr wargs hs hrank hedge hd hn' ho hargs =>
      obtain ⟨wa, commas, closing, rfl, ha, hcl, rfl, -⟩ := hargs.argument
      obtain ⟨k, k', hk, hcutsa⟩ := @Pending.Cuts.within text
        (⟨opening, .expressionOrParen⟩ :: wa) _ _ _ hcutsn hn
        ⟨wr ++ [⟨dot, .memberName⟩, ⟨name, .afterOperand⟩],
          commas ++ [⟨closing, .afterOperand⟩], by simp⟩
      have hiff := @fallsToNone_iff file _ _ _ _ ⟨receiver, name, fallback, fallback⟩ _ ha
        (show Expectation.expressionOrParen ∈ Expectation.expressions by decide) hk hcutsa
      rw [← hiff, fallsToNone_eq file]

theorem merge_eq {x : Expansions} (h : (Module.ofText file text x).1 = .ok m) {c : Chain}
    (hc : c ∈ chains (Analysis.ofModule m)) : c.merge text = c.merges :=
  if_congr (quoted_eq_none_iff h hc) rfl rfl

def Chain.gist (severity : Severity) (c : Chain) : Gist :=
  ⟨c.merges.message, some code, severity, [.machineApplicable]⟩

theorem gist_report {x : Expansions} (h : (Module.ofText file text x).1 = .ok m) {c : Chain}
    (hc : c ∈ chains (Analysis.ofModule m)) (hr : Reportable (Analysis.ofModule m) c)
    (severity : Severity) :
    (c.report (Sources.empty.add file text) severity).gist = c.gist severity := by
  rw [Chain.report, hr.suggestion_eq h hc, Diagnostic.gist, Chain.gist, merge_eq h hc]
  rfl

open Classical in
noncomputable def gists (levels : LintLevels) (m : Tree.Module) : List Gist :=
  ((levels.get code).severity?.toList).flatMap fun severity =>
    ((chains (Analysis.ofModule m)).filter fun c =>
      decide (Reportable (Analysis.ofModule m) c)).map (Chain.gist severity)

theorem gists_erase (levels : LintLevels) (f : Span → Span) (m : Tree.Module) :
    gists levels (m.erase f) = gists levels m := by
  classical
  refine List.flatMap_congr fun severity _ => ?_
  rw [chains_erase, List.filter_map, List.map_map]
  have hgist : Chain.gist severity ∘ Chain.relabel (.following f id) = Chain.gist severity :=
    funext fun c => by simp only [Function.comp_apply, Chain.gist, Chain.merges_relabel]
  rw [hgist]
  refine congrArg _ (List.filter_congr fun c hc => ?_)
  exact decide_eq_decide.mpr (reportable_erase hc)

theorem run_gists (h : (Module.ofText file text .empty).1 = .ok m) (levels : LintLevels) :
    (run (Analysis.ofModule m) (Sources.empty.add file text) levels).map Diagnostic.gist =
      gists levels m := by
  classical
  cases hl : (levels.get code).severity? with
  | none =>
      rw [run_of_allow _ _ hl, gists, hl]
      rfl
  | some severity =>
      rw [run_eq h _ hl, gists, hl, List.map_map, Option.toList_some, List.flatMap_singleton]
      refine List.map_congr_left fun c hc => ?_
      obtain ⟨hmem, hr⟩ := List.mem_filter.mp hc
      exact gist_report h hmem (of_decide_eq_true hr) severity

theorem lintText_gists (h : (Module.ofText file text .empty).1 = .ok m) (levels : LintLevels) :
    (lintText file levels text).map (List.map Diagnostic.gist) =
      let tree := m.erase unplaced
      if maxDepth < tree.depth then .error .tooDeep
      else if (Analysis.ofModule tree).typing.longField then .error .longInteger
      else .ok (gists levels tree) := by
  have hlong := (Analysis.alike_erase unplaced m).longField trivial
  simp only [lintText, h, Module.depth_erase, hlong, gists_erase]
  split
  · rfl
  · split
    · rfl
    · exact congrArg Except.ok (run_gists h levels)

theorem gists_eq_of_erase_eq {file' : Option String} {text' : List Char} {m' : Tree.Module}
    (h : (Module.ofText file text .empty).1 = .ok m)
    (h' : (Module.ofText file' text' .empty).1 = .ok m') (heq : m'.erase unplaced = m.erase unplaced)
    (levels : LintLevels) : (lintText file' levels text').map (List.map Diagnostic.gist) =
      (lintText file levels text).map (List.map Diagnostic.gist) := by
  rw [lintText_gists h, lintText_gists h', heq]

end MapUnwrapOr

end ChainLint
