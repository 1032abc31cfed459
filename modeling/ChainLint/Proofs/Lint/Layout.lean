import ChainLint.Proofs.Lint.Reports
import ChainLint.Proofs.Report.Applying
import ChainLint.Proofs.Tree.Covering
import ChainLint.Proofs.Tree.Origins

namespace ChainLint

namespace MapUnwrapOr

open Tree

namespace Chain

structure Laid (file : Option String) (n : Nat) (c : Chain) : Prop where
  start : 0 ≤ c.nameSpan.lo
  name : c.nameSpan.hi = c.nameSpan.lo + 3
  mapper : c.nameSpan.hi < c.mapper.span.lo
  mapCall : c.mapper.span.lo < c.mapCall.span.hi
  method : c.mapCall.span.hi + 11 ≤ c.fallback.span.lo
  fallback : c.fallback.span.lo < c.fallback.span.hi
  closing : c.fallback.span.hi < c.whole.span.hi
  stop : c.whole.span.hi ≤ n
  file : c.fallback.span.file = file

theorem laid {file : Option String} {text : List Char} {x : Expansions} {m : Module}
    (h : (Module.ofText file text x).1 = .ok m) {c : Chain}
    (hc : c ∈ chains (Analysis.ofModule m)) : c.Laid file text.length := by
  obtain ⟨n, hn, hof⟩ := List.mem_filterMap.mp hc
  obtain ⟨i, j, receiver, mapper, fallback, s, hparts, rfl⟩ := ofNode?_eq_some_iff.mp hof
  obtain ⟨fs, ws, hreads⟩ := Module.exists_reads h
  obtain ⟨s', hcuts, -⟩ := hreads.cuts
  have hnode {t : Expr} (ht : .expr t ∈ (Node.module (Analysis.ofModule m).module).preorder) :
      ∃ e we, we <:+: ws ∧ Surface.Spells (.expr e) we ∧ Plain.expr file e = t.erase Span.inRoot :=
    (hreads.analysis.arises ht).exists_spells
  have hplaced {i : Info} {r : Expr} {name : String} {s : Span} {arg : Expr}
      (ht : .expr (.methodCall i r name s [arg]) ∈
        (Node.module (Analysis.ofModule m).module).preorder) :
      PlacedCall 0 s'.place.offset i.span r.span s name.toList.length arg.span := by
    obtain ⟨e, we, hin, he, hplain⟩ := hnode ht
    have h := placedCall he ((Surface.placed_of_cuts hcuts).isInfix hin)
      (fun w hw => hcuts.stop_offset w (hin.mem hw)) hplain
    rw [Expr.span_erase, Expr.span_erase] at h
    exact h.of_inRoot
  have hpart {n : Node} (h : n ∈ c.whole.children) :
      n ∈ (Node.module (Analysis.ofModule m).module).preorder := by
    rw [hparts] at h
    exact Node.mem_preorder_trans (Node.mem_preorder_of_child h (Node.mem_preorder_self _)) hn
  obtain ⟨consumed, htext, hoffset⟩ := hcuts.text
  have hlength : text.length = consumed.length + s'.text.length := by
    rw [← List.length_append, ← htext]
  have hoffset : s'.place.offset = 0 + consumed.length := hoffset
  have hwhole := hplaced hn
  have hmap : PlacedCall 0 s'.place.offset j.span receiver.span c.nameSpan "map".toList.length
      mapper.span := hplaced (hpart (by rw [hparts]; exact List.mem_cons_self))
  have hfile : fallback.span.file = file := by
    obtain ⟨e, we, hin, he, hplain⟩ :=
      hnode (hpart (n := .expr fallback) (by rw [hparts]; exact List.mem_cons_of_mem _ List.mem_cons_self))
    obtain ⟨pre, mid, post, hcovers⟩ := exists_covers file e he
    have hspan := hcovers.span
    rw [hplain, Expr.span_erase] at hspan
    exact congrArg Span.file hspan
  obtain ⟨-, -, hdot, hname, hopening, hin, hclosing, hstop⟩ := hwhole
  obtain ⟨hstart', hbefore', hdot', hname', hopening', hin', hclosing', -⟩ := hmap
  have hunwrap : "unwrap_or".toList.length = 9 := by decide
  have hmap : "map".toList.length = 3 := by decide
  have hdot : j.span.hi + 1 ≤ s.lo := hdot
  rw [hparts]
  exact {
    start := (by omega : 0 ≤ c.nameSpan.lo)
    name := (by omega : c.nameSpan.hi = c.nameSpan.lo + 3)
    mapper := (by omega : c.nameSpan.hi < mapper.span.lo)
    mapCall := (by omega : mapper.span.lo < j.span.hi)
    method := (by omega : j.span.hi + 11 ≤ fallback.span.lo)
    fallback := hin
    closing := (by omega : fallback.span.hi < i.span.hi)
    stop := (by omega : i.span.hi ≤ text.length)
    file := hfile }

def quoted (text : List Char) (c : Chain) : List Char :=
  (text.take c.fallback.span.hi.toNat).drop c.fallback.span.lo.toNat

def merge (text : List Char) (c : Chain) : Merge :=
  if c.quoted text = "None".toList then .andThen else .mapOr

def rename (text : List Char) (c : Chain) : Edit := ⟨c.nameSpan, (c.merge text).methodName.toList⟩

def remove (c : Chain) : Edit := ⟨c.whole.span.startingAt c.mapCall.span.hi, []⟩

def insert (text : List Char) (c : Chain) : Edit := ⟨c.mapper.span.atStart, c.quoted text ++ ", ".toList⟩

def edits (text : List Char) (c : Chain) : List Edit :=
  match c.merge text with
  | .andThen => [c.rename text, c.remove]
  | .mapOr => [c.rename text, c.remove, c.insert text]

namespace Laid

variable {file : Option String} {text : List Char} {c : Chain}

theorem length_quoted (h : c.Laid file text.length) :
    ((c.quoted text).length : Int) = c.fallback.span.hi - c.fallback.span.lo := by
  obtain ⟨h₁, h₂, h₃, h₄, h₅, h₆, h₇, h₈, -⟩ := h
  rw [quoted, List.length_drop, List.length_take]
  omega

theorem suggestion_eq (h : c.Laid file text.length) (hroot : c.fallback.span.context = rootContext) :
    suggestion (Sources.empty.add file text) c =
      (c.merge text, ⟨(c.merge text).help, c.edits text, .machineApplicable⟩) := by
  have hquote : (Sources.empty.add file text).quote c.fallback.span "..".toList .machineApplicable =
      (c.quoted text, .machineApplicable) := by
    obtain ⟨h₁, h₂, h₃, h₄, h₅, h₆, h₇, h₈, hfile⟩ := h
    have hexpanded : c.fallback.span.isExpanded = false := by simp [Span.isExpanded, hroot]
    have hnowhere : c.fallback.span.isNowhere = false := by
      have : (c.fallback.span.hi == 0) = false := by
        rw [beq_eq_false_iff_ne]
        omega
      rw [Span.isNowhere, this, Bool.and_false, Bool.false_and]
    have htext : (Sources.empty.add file text).textAt c.fallback.span = some (c.quoted text) := by
      rw [Sources.textAt, hfile, Sources.get?_add]
      exact if_neg (by omega)
    simp [Sources.quote, hexpanded, hnowhere, htext]
  rw [suggestion, hquote]
  rfl

theorem edits_within (h : c.Laid file text.length) : ∀ e ∈ c.edits text, e.Within text.length := by
  obtain ⟨h₁, h₂, h₃, h₄, h₅, h₆, h₇, h₈, -⟩ := h
  have hrename : (c.rename text).Within text.length := by
    simp only [rename, Edit.Within]
    omega
  have hremove : c.remove.Within text.length := by
    simp only [remove, Edit.Within, Span.startingAt]
    omega
  have hinsert : (c.insert text).Within text.length := by
    simp only [insert, Edit.Within, Span.atStart]
    omega
  unfold edits
  split <;> simp [hrename, hremove, hinsert]

theorem edits_apart (h : c.Laid file text.length) : (c.edits text).Pairwise Edit.Apart := by
  obtain ⟨h₁, h₂, h₃, h₄, h₅, h₆, h₇, h₈, -⟩ := h
  have hremove : (c.rename text).Apart c.remove :=
    .of_le (by simp only [rename, remove, Span.startingAt]; omega)
      (by simp only [rename, remove, Span.startingAt]; omega)
  have hinsert : (c.rename text).Apart (c.insert text) :=
    .of_le (by simp only [rename, insert, Span.atStart]; omega)
      (by simp only [rename, insert, Span.atStart]; omega)
  have hboth : c.remove.Apart (c.insert text) :=
    .symm (.of_le (by simp only [remove, insert, Span.startingAt, Span.atStart]; omega)
      (by simp only [remove, insert, Span.startingAt, Span.atStart]; omega))
  unfold edits
  split <;> simp [hremove, hinsert, hboth]

theorem edits_shorten (h : c.Laid file text.length) :
    ((c.edits text).map fun e => e.snippet.length).sum + 7 ≤ ((c.edits text).map Edit.removed).sum := by
  have hquoted := h.length_quoted
  obtain ⟨h₁, h₂, h₃, h₄, h₅, h₆, h₇, h₈, -⟩ := h
  have hrename : (c.rename text).removed = 3 := by
    simp only [rename, Edit.removed, Edit.change]
    omega
  have hremove : 12 + (c.quoted text).length ≤ c.remove.removed := by
    simp only [remove, Edit.removed, Edit.change, Span.startingAt]
    omega
  unfold edits
  split
  · next hmerge =>
      have hname : (c.rename text).snippet.length = 8 := by rw [rename, hmerge]; rfl
      have hnone : c.remove.snippet.length = 0 := rfl
      simp only [List.map_cons, List.map_nil, List.sum_cons, List.sum_nil]
      omega
  · next hmerge =>
      have hname : (c.rename text).snippet.length = 6 := by rw [rename, hmerge]; rfl
      have hnone : c.remove.snippet.length = 0 := rfl
      have hquote : (c.insert text).snippet.length = (c.quoted text).length + 2 := by
        rw [insert, List.length_append]
        rfl
      simp only [List.map_cons, List.map_nil, List.sum_cons, List.sum_nil]
      omega

end Laid

end Chain

theorem Reportable.suggestion_eq {file : Option String} {text : List Char} {x : Expansions} {m : Module}
    (h : (Module.ofText file text x).1 = .ok m) {c : Chain}
    (hc : c ∈ chains (Analysis.ofModule m)) (hr : Reportable (Analysis.ofModule m) c) :
    suggestion (Sources.empty.add file text) c =
      (c.merge text, ⟨(c.merge text).help, c.edits text, .machineApplicable⟩) := by
  refine (Chain.laid h hc).suggestion_eq ?_
  obtain ⟨n, hn, hof⟩ := List.mem_filterMap.mp hc
  have hfallback := (Chain.ofNode?_eq_some_iff.mp hof).fallback
  have hmem := Node.mem_preorder_trans (Node.mem_preorder_of_child hfallback (Node.mem_preorder_self _)) hn
  exact (context_eq_root_iff (places_of_ofText h hmem (Node.not_isModule_of_child hfallback)).1).mpr
    hr.written

end MapUnwrapOr

end ChainLint
