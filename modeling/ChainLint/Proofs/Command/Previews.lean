import ChainLint.Command.Report
import ChainLint.Proofs.Lint.Choosing
import ChainLint.Proofs.Lint.Nested
import ChainLint.Proofs.Lint.Rounds

namespace ChainLint

namespace Merges

variable {text out : List Char} {cs : List Change} {lo hi : Nat}

theorem of_stretch (hlohi : lo ≤ hi) (hlength : hi ≤ text.length)
    (h : Merges lo ((text.take hi).drop lo) cs out) :
    Merges 0 text cs (text.take lo ++ (out ++ text.drop hi)) := by
  have hfront : lo = 0 + (text.take lo).length := by
    rw [List.length_take]
    omega
  have htext : text = text.take lo ++ ((text.take hi).drop lo ++ text.drop hi) := by
    have htake : text.take lo = (text.take hi).take lo := by
      rw [List.take_take, Nat.min_eq_left hlohi]
    rw [← List.append_assoc, htake, List.take_append_drop, List.take_append_drop]
  have hall := h.before_rest (text.drop hi)
  rw [hfront] at hall
  have hkept := hall.keep
  rw [← hfront, ← htext] at hkept
  exact hkept

end Merges

namespace Edit

theorem exists_applyAll {text : List Char} {edits : List Edit} {lo hi : Nat} (hlohi : lo ≤ hi)
    (hlength : hi ≤ text.length)
    (hin : ∀ e ∈ edits, lo ≤ e.span.lo ∧ e.span.lo ≤ e.span.hi ∧ e.span.hi ≤ hi)
    (h : edits.Pairwise Apart) :
    ∃ r, applyAll text edits = text.take lo ++ (r ++ text.drop hi) := by
  have hwithin : ∀ e ∈ edits, e.Within hi := by
    intro e he
    obtain ⟨h₁, h₂, h₃⟩ := hin e he
    exact ⟨by omega, h₂, h₃⟩
  have hperm := sortStable_perm earlierFirst edits
  have hordered := ordered_earlierFirst hwithin h
  have hbounds : ∀ c ∈ (sortStable earlierFirst edits).map change,
      lo ≤ c.lo ∧ c.lo ≤ c.hi ∧ c.hi ≤ lo + ((text.take hi).drop lo).length := by
    intro c hc
    obtain ⟨e, he, rfl⟩ := List.mem_map.mp hc
    obtain ⟨h₁, h₂, h₃⟩ := hin e (hperm.mem_iff.mp he)
    simp only [change, List.length_drop, List.length_take]
    omega
  obtain ⟨r, hr⟩ := Merges.exists_of_ordered (List.pairwise_map.mpr (hordered.imp And.left)) hbounds
  refine ⟨r, applyAll_eq (fun e he => ?_) (hperm.symm.map change)
    (List.pairwise_map.mpr (hordered.imp And.right)) (hr.of_stretch hlohi hlength)⟩
  obtain ⟨h₁, h₂, h₃⟩ := hin e he
  constructor <;> omega

end Edit

theorem Suggestion.applyAll_singleton (text : List Char) {s : Suggestion} {onlyMachine : Bool}
    (hparts : s.parts ≠ []) (hself : s.parts.Pairwise Edit.Apart)
    (hm : onlyMachine = true → s.applicability = .machineApplicable) :
    applyAll text [s] onlyMachine = (Edit.applyAll text s.parts, 1) := by
  have hcandidates : candidates onlyMachine [s] = [s] := by
    have hpick : (!s.parts.isEmpty &&
        (!onlyMachine || decide (s.applicability = .machineApplicable))) = true := by
      cases onlyMachine with
      | false => simpa using hparts
      | true => simpa [hm rfl] using hparts
    rw [candidates, List.filter_singleton, hpick]
    rfl
  have hnone : s.conflictsWith [] = false :=
    conflictsWith_eq_false.mpr fun _ _ _ he => absurd he List.not_mem_nil
  simp [applyAll, hcandidates, accept, hnone, selfConflicting_eq_false.mpr hself]

theorem exists_preview {text : List Char} {d : Diagnostic} {s : Suggestion}
    (hlo : 0 ≤ d.span.lo) (hlt : d.span.lo < d.span.hi) (hhi : d.span.hi ≤ text.length)
    (hparts : s.parts ≠ []) (hself : s.parts.Pairwise Edit.Apart)
    (hin : ∀ e ∈ s.parts,
      d.span.lo ≤ e.span.lo ∧ e.span.lo ≤ e.span.hi ∧ e.span.hi ≤ d.span.hi) :
    ∃ r, preview text d s = some r ∧
      text.take d.span.lo.toNat ++ (r ++ text.drop d.span.hi.toNat) =
        Edit.applyAll text s.parts := by
  have hplace : d.span.isNowhere = false := by
    have : (d.span.hi == 0) = false := beq_eq_false_iff_ne.mpr (by omega)
    simp [Span.isNowhere, this]
  obtain ⟨r, hr⟩ := @Edit.exists_applyAll text s.parts d.span.lo.toNat
    d.span.hi.toNat (by omega) (by omega) (fun e he => by
      obtain ⟨h₁, h₂, h₃⟩ := hin e he
      exact ⟨by omega, h₂, by omega⟩) hself
  refine ⟨r, ?_, hr.symm⟩
  have hfixed : Suggestion.applyAll text [s] false = (Edit.applyAll text s.parts, 1) :=
    Suggestion.applyAll_singleton text hparts hself fun h => absurd h Bool.false_ne_true
  have hfront : (text.take d.span.lo.toNat).length = d.span.lo.toNat := by
    rw [List.length_take]
    omega
  have hend : (d.span.hi + (((Edit.applyAll text s.parts).length : Int) - text.length)).toNat =
      d.span.lo.toNat + r.length := by
    simp only [hr, List.length_append, List.length_drop, hfront]
    omega
  have hcut : ((Edit.applyAll text s.parts).take (d.span.lo.toNat + r.length)).drop
      d.span.lo.toNat = r := by
    rw [hr, List.take_append, hfront, List.take_of_length_le (by omega), Nat.add_sub_cancel_left,
      List.take_left, List.drop_left' hfront]
  simp only [preview, hfixed, hplace, hend, hcut]
  simp

namespace MapUnwrapOr

open Tree

variable {file : Option String} {text : List Char} {m : Module} {levels : LintLevels}
  {ds : List Diagnostic} {d : Diagnostic}

/-- What a suggestion is shown with is the reported part of the text as it reads when the suggestion,
and no other, is made. -/
theorem preview_eq_reported (hm : (Module.ofText file text .empty).1 = .ok m)
    (hds : lintText file levels text = .ok ds) (hd : d ∈ ds) :
    ∃ s r, d.suggestions = [s] ∧ preview text d s = some r ∧
      0 ≤ d.span.lo ∧ d.span.lo ≤ d.span.hi ∧ d.span.hi ≤ text.length ∧
      text.take d.span.lo.toNat ++ r ++ text.drop d.span.hi.toNat =
        (Suggestion.applyAll text [s]).1 := by
  obtain ⟨c, hc, hr, severity, rfl⟩ := exists_reportable_of_mem hm hds hd
  have hlaid := Chain.laid hm hc
  have hspread := Chain.spread hm hc
  obtain ⟨b, hfits⟩ := Analysis.fits_module hm
  have hstart : 0 ≤ c.whole.span.lo := (hfits.forall_preorder c.whole (Chain.mem_functions hc)).1
  have hends : c.nameSpan.lo < c.whole.span.hi := by
    obtain ⟨h₁, h₂, h₃, h₄, h₅, h₆, h₇, h₈, -⟩ := hlaid
    omega
  let s : Suggestion := ⟨(c.merge text).help, c.edits text, .machineApplicable⟩
  have hfront := hspread.front
  have hin : ∀ e ∈ s.parts,
      c.whole.span.lo ≤ e.span.lo ∧ e.span.lo ≤ e.span.hi ∧ e.span.hi ≤ c.whole.span.hi := by
    intro e he
    obtain ⟨h₁, h₂, h₃, -⟩ := hlaid.edits_between e he
    exact ⟨by omega, h₂, h₃⟩
  obtain ⟨r, hpreview, htext⟩ := exists_preview
    (d := c.report (Sources.empty.add file text) severity) (s := s) hstart
    (Int.lt_trans hfront hends) hlaid.stop (c.edits_ne_nil text) hlaid.edits_apart hin
  refine ⟨s, r, ?_, hpreview, hstart, ?_, hlaid.stop, ?_⟩
  · rw [Chain.report, hr.suggestion_eq hm hc]
  · exact Int.le_of_lt (Int.lt_trans hfront hends)
  · rw [List.append_assoc, htext,
      Suggestion.applyAll_singleton (s := s) text (c.edits_ne_nil text) hlaid.edits_apart
        fun _ => rfl]

theorem preview_eq_reported_call :
    let text := "fn f(o: Option<i32>) { o . map (g) . unwrap_or( (1) ) ; }".toList
    ∃ m ds d s, (Module.ofText none text .empty).1 = .ok m ∧ lintText none {} text = .ok ds ∧
      ds = [d] ∧ d.suggestions = [s] ∧ preview text d s = some "o . map_or (1, g)".toList ∧
      text.take d.span.lo.toNat ++ "o . map_or (1, g)".toList ++ text.drop d.span.hi.toNat =
        (Suggestion.applyAll text [s]).1 := by
  intro text
  obtain ⟨m, ds, hm, hds, hlength, hshown⟩ := exists_of_checked text (fun ds => ds.length = 1 ∧
    ∀ d ∈ ds, ∀ s ∈ d.suggestions, preview text d s = some "o . map_or (1, g)".toList)
    (by decide +kernel)
  obtain ⟨d, rfl⟩ := List.length_eq_one_iff.mp hlength
  obtain ⟨s, r, hs, hpreview, -, -, -, hsame⟩ :=
    preview_eq_reported hm hds (List.mem_singleton_self d)
  have hr := hshown d (List.mem_singleton_self d) s (hs ▸ List.mem_singleton_self s)
  cases hpreview.symm.trans hr
  exact ⟨m, [d], d, s, hm, hds, rfl, hs, hr, hsame⟩

end MapUnwrapOr

end ChainLint
