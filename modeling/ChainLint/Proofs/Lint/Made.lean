import ChainLint.Proofs.Lint.Calls
import ChainLint.Proofs.Lint.Uncut
import Mathlib.Data.List.Nodup
import Mathlib.Data.List.Pairwise

namespace ChainLint

open MapUnwrapOr

namespace Suggestion

def made (suggestions : List Suggestion) : List Suggestion := accept [] (candidates true suggestions)

theorem made_subperm (suggestions : List Suggestion) : (made suggestions).Subperm suggestions :=
  (accept_sublist _ _).subperm.trans
    ((sortStable_perm _ _).subperm.trans List.filter_sublist.subperm)

theorem made_nodup {suggestions : List Suggestion} (h : suggestions.Nodup) :
    (made suggestions).Nodup := by
  refine (accept_sublist _ _).nodup ?_
  exact (sortStable_perm _ _).nodup_iff.mpr (h.filter _)

end Suggestion

namespace MapUnwrapOr

open Tree

def Chain.isMade (file : Option String) (text : List Char) (ds : List Diagnostic) (c : Chain) :
    Bool :=
  (Suggestion.made (ds.flatMap Diagnostic.suggestions)).contains
    (suggestion (Sources.empty.add file text) c).2

def isMadeAt (file : Option String) (text : List Char) (m : Module) (ds : List Diagnostic)
    (lo : Int) : Bool :=
  (chains (Analysis.ofModule m)).any fun c => c.isMade file text ds && c.nameSpan.lo == lo

theorem suggestion_name (sources : Sources) (c : Chain) :
    ∃ l es, (suggestion sources c).2.parts = ⟨c.nameSpan, l⟩ :: es := by
  unfold suggestion
  split
  simp only
  split <;> exact ⟨_, _, rfl⟩

theorem nameSpan_of_suggestion {sources : Sources} {c d : Chain}
    (h : (suggestion sources c).2 = (suggestion sources d).2) : c.nameSpan = d.nameSpan := by
  obtain ⟨l, es, hc⟩ := suggestion_name sources c
  obtain ⟨l', es', hd⟩ := suggestion_name sources d
  rw [h, hd] at hc
  exact (Edit.mk.inj (List.cons.inj hc).1).1.symm

section

variable {file : Option String} {text : List Char} {m : Module} {levels : LintLevels}
  {ds : List Diagnostic}

theorem exists_reported (h : (Module.ofText file text .empty).1 = .ok m)
    (hds : lintText file levels text = .ok ds) :
    ∃ cs : List Chain, cs.Sublist (chains (Analysis.ofModule m)) ∧
      (∀ c ∈ cs, Reportable (Analysis.ofModule m) c) ∧
      ds.flatMap Diagnostic.suggestions =
        cs.map fun c => (suggestion (Sources.empty.add file text) c).2 := by
  classical
  cases hl : (levels.get code).severity? with
  | some severity =>
      obtain ⟨-, -, rfl⟩ := (lintText_eq_run_iff h).mp hds
      rw [run_eq h _ hl]
      refine ⟨(chains (Analysis.ofModule m)).filter fun c =>
        decide (Reportable (Analysis.ofModule m) c), List.filter_sublist,
          fun c hc => of_decide_eq_true (List.mem_filter.mp hc).2, ?_⟩
      rw [List.flatMap_map, List.map_eq_flatMap]
      rfl
  | none =>
      refine ⟨[], List.nil_sublist _, fun c hc => absurd hc List.not_mem_nil, ?_⟩
      obtain ⟨-, -, rfl⟩ := (lintText_eq_run_iff h).mp hds
      rw [run_of_allow _ _ hl]
      rfl

theorem nameSpans_nodup (h : (Module.ofText file text .empty).1 = .ok m) :
    ((chains (Analysis.ofModule m)).map fun c => c.nameSpan.lo).Nodup := by
  obtain ⟨b, hfits⟩ := Analysis.fits_module h
  have hchains : chains (Analysis.ofModule m) =
      ((Analysis.ofModule m).module.functions.map Node.function).flatMap Node.chains :=
    Node.chains_of_none rfl
  rw [hchains]
  exact List.pairwise_map.mpr hfits.names_ne

theorem eq_of_nameSpan (h : (Module.ofText file text .empty).1 = .ok m) {c d : Chain}
    (hc : c ∈ chains (Analysis.ofModule m)) (hd : d ∈ chains (Analysis.ofModule m))
    (hlo : c.nameSpan.lo = d.nameSpan.lo) : c = d :=
  List.inj_on_of_nodup_map (nameSpans_nodup h) hc hd hlo

theorem reportable_of_isMade (h : (Module.ofText file text .empty).1 = .ok m)
    (hds : lintText file levels text = .ok ds) {c : Chain} (hc : c ∈ chains (Analysis.ofModule m))
    (hmade : c.isMade file text ds = true) :
    Reportable (Analysis.ofModule m) c := by
  obtain ⟨cs, hsub, hr, hsuggestions⟩ := exists_reported h hds
  rw [Chain.isMade, List.contains_iff_mem, Suggestion.made] at hmade
  have hmem := Suggestion.mem_of_mem_accept hmade
  rw [hsuggestions] at hmem
  obtain ⟨d, hd, hsame⟩ := List.mem_map.mp hmem
  have := eq_of_nameSpan h hc (hsub.mem hd) (congrArg Span.lo (nameSpan_of_suggestion hsame.symm))
  exact this ▸ hr d hd

theorem isMadeAt_nameSpan (h : (Module.ofText file text .empty).1 = .ok m) {c : Chain}
    (hc : c ∈ chains (Analysis.ofModule m)) :
    isMadeAt file text m ds c.nameSpan.lo = c.isMade file text ds := by
  rw [Bool.eq_iff_iff, isMadeAt, List.any_eq_true]
  constructor
  · rintro ⟨d, hd, hmade⟩
    rw [Bool.and_eq_true, beq_iff_eq] at hmade
    exact eq_of_nameSpan h hc hd hmade.2.symm ▸ hmade.1
  · intro hmade
    exact ⟨c, hc, by rw [hmade, beq_self_eq_true, Bool.and_self]⟩

theorem nodup_of_chains (h : (Module.ofText file text .empty).1 = .ok m) {cs : List Chain}
    (hcs : cs.Sublist (chains (Analysis.ofModule m))) :
    (cs.map fun c => (suggestion (Sources.empty.add file text) c).2).Nodup :=
  List.pairwise_map.mpr (((List.pairwise_map.mp (nameSpans_nodup h)).sublist hcs).imp fun hne heq =>
    hne (congrArg Span.lo (nameSpan_of_suggestion heq)))

theorem suggestions_nodup (h : (Module.ofText file text .empty).1 = .ok m)
    (hds : lintText file levels text = .ok ds) : (ds.flatMap Diagnostic.suggestions).Nodup := by
  obtain ⟨cs, hsub, -, hsuggestions⟩ := exists_reported h hds
  exact hsuggestions ▸ nodup_of_chains h hsub

theorem made_parts (h : (Module.ofText file text .empty).1 = .ok m)
    (hds : lintText file levels text = .ok ds) :
    ((Suggestion.made (ds.flatMap Diagnostic.suggestions)).flatMap Suggestion.parts).Perm
      (((chains (Analysis.ofModule m)).filter (Chain.isMade file text ds)).flatMap
        (Chain.edits text)) := by
  obtain ⟨cs, hsub, -, hsuggestions⟩ := exists_reported h hds
  have hperm : (Suggestion.made (ds.flatMap Diagnostic.suggestions)).Perm
      (((chains (Analysis.ofModule m)).filter (Chain.isMade file text ds)).map
        fun c => (suggestion (Sources.empty.add file text) c).2) := by
    refine (List.perm_ext_iff_of_nodup (Suggestion.made_nodup (suggestions_nodup h hds))
      (nodup_of_chains h List.filter_sublist)).mpr fun s => ?_
    constructor
    · intro hs
      have hmem := Suggestion.mem_of_mem_accept hs
      rw [hsuggestions] at hmem
      obtain ⟨c, hc, rfl⟩ := List.mem_map.mp hmem
      refine List.mem_map.mpr ⟨c, List.mem_filter.mpr ⟨hsub.mem hc, ?_⟩, rfl⟩
      exact List.contains_iff_mem.mpr hs
    · intro hs
      obtain ⟨c, hc, rfl⟩ := List.mem_map.mp hs
      exact List.contains_iff_mem.mp (List.mem_filter.mp hc).2
  refine (hperm.flatMap_right _).trans (List.Perm.of_eq ?_)
  rw [List.flatMap_map]
  refine List.flatMap_congr fun c hc => ?_
  obtain ⟨hmem, hmade⟩ := List.mem_filter.mp hc
  rw [Reportable.suggestion_eq h hmem (reportable_of_isMade h hds hmem hmade)]

theorem isMade_of_reportable (h : (Module.ofText file text .empty).1 = .ok m)
    (hds : lintText file levels text = .ok ds) {severity : Severity}
    (hl : (levels.get code).severity? = some severity)
    (hall : (Suggestion.applyAll text (ds.flatMap Diagnostic.suggestions)).2 = ds.length) {c : Chain}
    (hc : c ∈ chains (Analysis.ofModule m)) (hr : Reportable (Analysis.ofModule m) c) :
    c.isMade file text ds = true := by
  classical
  let sources := Sources.empty.add file text
  let reported := (chains (Analysis.ofModule m)).filter fun c =>
    decide (Reportable (Analysis.ofModule m) c)
  have hreports : ds = reported.map (Chain.report sources severity) := by
    obtain ⟨-, -, hrun⟩ := (lintText_eq_run_iff h).mp hds
    rw [hrun, run_eq h _ hl]
  have hsuggestions : ds.flatMap Diagnostic.suggestions =
      reported.map fun c => (suggestion sources c).2 := by
    rw [hreports, List.flatMap_map, List.map_eq_flatMap]
    rfl
  have hlength : (ds.flatMap Diagnostic.suggestions).length = ds.length := by
    rw [hsuggestions, hreports, List.length_map, List.length_map]
  have hperm : (Suggestion.made (ds.flatMap Diagnostic.suggestions)).Perm
      (ds.flatMap Diagnostic.suggestions) :=
    (Suggestion.made_subperm _).perm_of_length_le (by rw [hlength, ← hall]; exact Nat.le_refl _)
  rw [Chain.isMade, List.contains_iff_mem, hperm.mem_iff, hsuggestions]
  exact List.mem_map_of_mem (List.mem_filter.mpr ⟨hc, decide_eq_true hr⟩)

theorem apart_of_isMade (h : (Module.ofText file text .empty).1 = .ok m)
    (hds : lintText file levels text = .ok ds) {c d : Chain}
    (hc : c ∈ chains (Analysis.ofModule m)) (hd : d ∈ chains (Analysis.ofModule m))
    (hmade : c.isMade file text ds = true)
    (hmade' : d.isMade file text ds = true) (hne : c ≠ d) :
    ∀ e ∈ c.edits text, ∀ f ∈ d.edits text, e.Apart f := by
  have happart : ((Suggestion.made (ds.flatMap Diagnostic.suggestions)).flatMap
      Suggestion.parts).Pairwise Edit.Apart := by
    have := Suggestion.accept_apart .nil
      (Suggestion.candidates true (ds.flatMap Diagnostic.suggestions))
    rwa [List.nil_append] at this
  have hall := (made_parts h hds).pairwise happart Edit.Apart.symm
  obtain ⟨-, hpairs⟩ := List.pairwise_flatMap.mp hall
  have : Std.Symm fun c d : Chain => ∀ e ∈ c.edits text, ∀ f ∈ d.edits text, e.Apart f :=
    ⟨fun c d hcd e he f hf => (hcd f hf e he).symm⟩
  exact hpairs.forall (List.mem_filter.mpr ⟨hc, hmade⟩) (List.mem_filter.mpr ⟨hd, hmade'⟩) hne

end

theorem lo_inRoot (n : Node) : (n.erase Span.inRoot).span.lo = n.span.lo := by
  rw [Node.span_erase]
  rfl

theorem hi_inRoot (n : Node) : (n.erase Span.inRoot).span.hi = n.span.hi := by
  rw [Node.span_erase]
  rfl

namespace Chain

theorem quoted_inRoot (text : List Char) (c : Chain) :
    (c.erase Span.inRoot).quoted text = c.quoted text := by
  simp only [quoted, erase, lo_inRoot, hi_inRoot]

theorem merge_inRoot (text : List Char) (c : Chain) :
    (c.erase Span.inRoot).merge text = c.merge text := by
  rw [merge, merge, quoted_inRoot]

theorem rename_inRoot (text : List Char) (c : Chain) :
    ((c.erase Span.inRoot).rename text).change = (c.rename text).change := by
  rw [rename, rename, merge_inRoot]
  rfl

theorem remove_inRoot (c : Chain) : (c.erase Span.inRoot).remove.change = c.remove.change := by
  simp only [remove, Edit.change, Span.startingAt, erase, hi_inRoot]

theorem insert_inRoot (text : List Char) (c : Chain) :
    ((c.erase Span.inRoot).insert text).change = (c.insert text).change := by
  rw [insert, insert, quoted_inRoot]
  simp only [Edit.change, Span.atStart, erase, lo_inRoot]

theorem edits_inRoot (text : List Char) (c : Chain) :
    ((c.erase Span.inRoot).edits text).map Edit.change = (c.edits text).map Edit.change := by
  rw [edits, edits, merge_inRoot]
  cases c.merge text <;>
    simp only [List.map_cons, List.map_nil, rename_inRoot, remove_inRoot, insert_inRoot]

theorem Uncut.inRoot {text : List Char} {c : Chain} (h : c.Uncut text) :
    (c.erase Span.inRoot).Uncut text where
  mapCall := by
    simp only [erase, lo_inRoot]
    exact h.mapCall
  mapper hmap := by
    rw [merge_inRoot] at hmap
    simp only [erase, lo_inRoot]
    exact h.mapper hmap
  fallback hmap := by
    rw [merge_inRoot] at hmap
    rw [quoted_inRoot]
    exact h.fallback hmap

end Chain

end MapUnwrapOr

end ChainLint
