import ChainLint.Proofs.Lint.Made
import ChainLint.Proofs.Lint.Relabelled
import ChainLint.Proofs.Tree.Shifting
import ChainLint.Proofs.Ty.Alone

namespace ChainLint

open Tree

namespace Shift

variable (d : Shift)

def edit (e : Edit) : Edit := { e with span := d.span e.span }

def suggestion (s : Suggestion) : Suggestion := { s with parts := s.parts.map d.edit }

def diagnostic (r : Diagnostic) : Diagnostic :=
  { r with span := d.span r.span, suggestions := r.suggestions.map d.suggestion }

end Shift

def Analysis.knowing (known : List (String × Ty)) (m : Module) : Analysis :=
  { Analysis.ofModule m with
    typing := ((Infer.functions (Analysis.ofModule m).module.functions).run
      { functions := known }).2 }

def Diagnostic.IsIn (r : Diagnostic) (f : Function) : Prop :=
  f.info.span.lo ≤ r.span.lo ∧ r.span.hi ≤ f.info.span.hi

instance (r : Diagnostic) (f : Function) : Decidable (r.IsIn f) :=
  inferInstanceAs (Decidable (_ ∧ _))

/-- The type of the last function of a name, which is the one that counts. -/
def Tree.Module.typeNamed? (m : Module) (name : String) : Option Ty :=
  ((m.functions.filter fun h => h.name = name).getLast?).map Function.type

theorem slice_slice {text : List Char} {a b lo hi : Nat} (h : a + hi ≤ b) :
    slice (slice text a b) lo hi = slice text (a + lo) (a + hi) := by
  rw [slice, slice, slice, List.take_drop, List.take_take, Nat.min_eq_left h, List.drop_drop]

theorem Tree.Fits.split {a b : Int} {ns ms : List Node} (h : Fits a b (ns ++ ms)) :
    ∃ k, Fits a k ns ∧ Fits k b ms := by
  induction ns generalizing a with
  | nil => exact ⟨a, .nil (Int.le_refl a), h⟩
  | cons n ns ih =>
      cases h with
      | cons hlo hlt hn hparts hns =>
          obtain ⟨k, hk, hms⟩ := ih hns
          exact ⟨k, .cons hlo hlt hn hparts hk, hms⟩

namespace MapUnwrapOr.Chain

theorem of_mem {n : Node} {c : Chain} (h : c ∈ n.chains) :
    c.whole ∈ n.preorder ∧ c.IsAt c.whole := by
  obtain ⟨v, hv, hof⟩ := List.mem_filterMap.mp h
  have hat := Chain.ofNode?_eq_some_iff.mp hof
  rw [hat.whole]
  exact ⟨hv, hat⟩

end MapUnwrapOr.Chain

theorem Tree.Fits.chain {a b : Int} {ns : List Node} (h : Fits a b ns) {c : MapUnwrapOr.Chain}
    (hc : c ∈ ns.flatMap Node.chains) {v : Node} (hv : v ∈ c.whole.preorder) :
    a ≤ v.span.lo ∧ v.span.lo < v.span.hi ∧ v.span.hi ≤ b := by
  obtain ⟨n, hn, hc⟩ := List.mem_flatMap.mp hc
  have hmem := Node.mem_preorder_trans hv (MapUnwrapOr.Chain.of_mem hc).1
  obtain ⟨hlo, hlt, hhi, -⟩ := h.forall_preorder v (List.mem_flatMap.mpr ⟨n, hn, hmem⟩)
  exact ⟨hlo, hlt, hhi⟩

namespace MapUnwrapOr

def Chain.reportOn (text : List Char) (severity : Severity) (c : Chain) : Diagnostic where
  message := (c.merge text).message
  code := some code
  phase := .lint
  severity := severity
  span := c.whole.span
  suggestions := [⟨(c.merge text).help, c.edits text, .machineApplicable⟩]

section

variable {file : Option String} {text : List Char} {m : Module} {severity : Severity}

theorem report_eq (h : (Module.ofText file text .empty).1 = .ok m) {c : Chain}
    (hc : c ∈ chains (Analysis.ofModule m)) (hr : Reportable (Analysis.ofModule m) c) :
    c.report (Sources.empty.add file text) severity = c.reportOn text severity := by
  rw [Chain.report, hr.suggestion_eq h hc]
  rfl

end

section

variable (d : Shift) {text : List Char} {b : Nat} {c : Chain}
  (hlo : 0 ≤ c.fallback.span.lo) (hhi : 0 ≤ c.fallback.span.hi)
  (hin : d.place.offset + c.fallback.span.hi.toNat ≤ b)

include hlo hhi hin

theorem quoted_shift : (c.relabel d.relabelling).quoted text =
    c.quoted (slice text d.place.offset b) := by
  have hspan : (c.relabel d.relabelling).fallback.span = d.span c.fallback.span :=
    congrArg Info.span (Node.info_relabel d.relabelling c.fallback)
  rw [Chain.quoted, Chain.quoted, hspan]
  change slice text (d.place.offset + c.fallback.span.lo).toNat
    (d.place.offset + c.fallback.span.hi).toNat = slice (slice text _ _) _ _
  rw [slice_slice hin, Int.toNat_add (Int.natCast_nonneg _) hlo,
    Int.toNat_add (Int.natCast_nonneg _) hhi, Int.toNat_natCast]

theorem reportOn_shift (severity : Severity) :
    (c.relabel d.relabelling).reportOn text severity =
      d.diagnostic (c.reportOn (slice text d.place.offset b) severity) := by
  have hspan (n : Node) : (n.relabel d.relabelling).span = d.span n.span :=
    congrArg Info.span (n.info_relabel d.relabelling)
  have hmerge : (c.relabel d.relabelling).merge text =
      c.merge (slice text d.place.offset b) := by
    rw [Chain.merge, Chain.merge, quoted_shift d hlo hhi hin]
  have hrename : (c.relabel d.relabelling).rename text =
      d.edit (c.rename (slice text d.place.offset b)) := by
    rw [Chain.rename, hmerge]
    rfl
  have hremove : (c.relabel d.relabelling).remove = d.edit c.remove := by
    change Edit.mk ((c.whole.relabel d.relabelling).span.startingAt
      (c.mapCall.relabel d.relabelling).span.hi) [] = _
    rw [hspan, hspan]
    rfl
  have hinsert : (c.relabel d.relabelling).insert text =
      d.edit (c.insert (slice text d.place.offset b)) := by
    rw [Chain.insert, quoted_shift d hlo hhi hin]
    change Edit.mk (c.mapper.relabel d.relabelling).span.atStart _ = _
    rw [hspan]
    rfl
  have hedits : (c.relabel d.relabelling).edits text =
      (c.edits (slice text d.place.offset b)).map d.edit := by
    rw [Chain.edits, Chain.edits, hmerge, hrename, hremove, hinsert]
    cases c.merge (slice text d.place.offset b) <;> rfl
  have hwhole : (c.relabel d.relabelling).whole.span = d.span c.whole.span := hspan c.whole
  rw [Chain.reportOn, Chain.reportOn, hmerge, hedits, hwhole]
  rfl

end

theorem movable_function {m : Module} (hordered : (Node.module m).Ordered) {f : Function}
    (hf : f ∈ m.functions) {c : Chain} (hc : c.whole ∈ (Node.function f).preorder) :
    c.Movable (.module m) ↔ c.Movable (.function f) := by
  have hchild : Node.function f ∈ (Node.module m).children := List.mem_map_of_mem hf
  constructor
  · intro h body hbody
    exact h body (Node.mem_preorder_of_child hchild hbody)
  · intro h body hbody howns hin
    refine h body ?_ howns hin
    rcases Node.mem_preorder_iff.mp hbody with rfl | ⟨g, hg, hbody⟩
    · cases howns
    · have hwhole := Node.mem_preorder_trans hin.mem_and_lt.1 hbody
      rwa [hordered.eq_of_mem hchild hg hc hwhole]

section

variable {a b : Int} {before after : List Function} {f : Function}
  (hfits : Fits a b ((before ++ f :: after).map Node.function))

include hfits

theorem filter_isIn (p : Chain → Bool) {report : Chain → Diagnostic}
    (hspan : ∀ c, (report c).span = c.whole.span) :
    ((((((before ++ f :: after).map Node.function).flatMap Node.chains).filter p).map report).filter
      fun r => r.IsIn f) = ((Node.function f).chains.filter p).map report := by
  rw [List.map_append, List.map_cons] at hfits
  obtain ⟨k, hbefore, hrest⟩ := hfits.split
  cases hrest with
  | cons hlo hlt _ hparts hafter =>
      rw [List.filter_map, List.filter_comm, List.map_append, List.map_cons, List.flatMap_append,
        List.flatMap_cons]
      have hiff (c : Chain) : ((fun r : Diagnostic => decide (r.IsIn f)) ∘ report) c = true ↔
          (Node.function f).span.lo ≤ c.whole.span.lo ∧
            c.whole.span.hi ≤ (Node.function f).span.hi := by
        rw [Function.comp_apply, decide_eq_true_iff, Diagnostic.IsIn, hspan]
        rfl
      have hearlier : ((before.map Node.function).flatMap Node.chains).filter
          ((fun r : Diagnostic => decide (r.IsIn f)) ∘ report) = [] := by
        refine List.filter_eq_nil_iff.mpr fun c hc hin => ?_
        have := hbefore.chain hc (Node.mem_preorder_self _)
        have := (hiff c).mp hin
        omega
      have hlater : ((after.map Node.function).flatMap Node.chains).filter
          ((fun r : Diagnostic => decide (r.IsIn f)) ∘ report) = [] := by
        refine List.filter_eq_nil_iff.mpr fun c hc hin => ?_
        have := hafter.chain hc (Node.mem_preorder_self _)
        have := (hiff c).mp hin
        omega
      have hinside : (Node.function f).chains.filter
          ((fun r : Diagnostic => decide (r.IsIn f)) ∘ report) = (Node.function f).chains := by
        refine List.filter_eq_self.mpr fun c hc => (hiff c).mpr ?_
        rw [Node.chains_of_none rfl] at hc
        have := hparts.chain hc (Node.mem_preorder_self _)
        exact ⟨this.1, this.2.2⟩
      have hall : (((before.map Node.function).flatMap Node.chains) ++ ((Node.function f).chains ++
          (after.map Node.function).flatMap Node.chains)).filter
            ((fun r : Diagnostic => decide (r.IsIn f)) ∘ report) = (Node.function f).chains := by
        rw [List.filter_append, List.filter_append, hearlier, hinside, hlater, List.nil_append,
          List.append_nil]
      rw [hall]

end

theorem fallback_within {a b : Int} {ns : List Node} (hfits : Fits a b ns) {f₀ : Function} {d : Shift}
    (hf : .function (f₀.relabel d.relabelling) ∈ ns) (hlo : f₀.info.span.lo = 0) {c : Chain}
    (hc : c ∈ (Node.function f₀).chains) : 0 ≤ c.fallback.span.lo ∧ 0 ≤ c.fallback.span.hi ∧
      d.place.offset + c.fallback.span.hi.toNat ≤
        (f₀.relabel d.relabelling).info.span.hi.toNat := by
  obtain ⟨-, -, -, -, hparts⟩ := hfits.forall_preorder _
    (List.mem_flatMap.mpr ⟨_, hf, Node.mem_preorder_self _⟩)
  have hmem : c.relabel d.relabelling ∈
      (Node.function (f₀.relabel d.relabelling)).children.flatMap Node.chains := by
    rw [← Node.chains_of_none rfl]
    change _ ∈ ((Node.function f₀).relabel d.relabelling).chains
    rw [Chain.chains_relabel]
    exact List.mem_map_of_mem hc
  have hfallback : (c.relabel d.relabelling).fallback ∈ (c.relabel d.relabelling).whole.preorder :=
    Node.mem_preorder_of_child (Chain.of_mem hc).2.relabel.fallback (Node.mem_preorder_self _)
  have hspan : (c.relabel d.relabelling).fallback.span = d.span c.fallback.span :=
    congrArg Info.span (Node.info_relabel d.relabelling c.fallback)
  have hbounds := hparts.chain hmem hfallback
  rw [hspan] at hbounds
  change (d.place.offset : Int) + f₀.info.span.lo ≤ d.place.offset + c.fallback.span.lo ∧
    (d.place.offset : Int) + c.fallback.span.lo < d.place.offset + c.fallback.span.hi ∧
      (d.place.offset : Int) + c.fallback.span.hi ≤
        (f₀.relabel d.relabelling).info.span.hi at hbounds
  omega

section

variable {file : Option String} {text : List Char} {m m₀ : Module} {f₀ : Function} {d : Shift}
  {known : List (String × Ty)}
  (h : (Module.ofText file text .empty).1 = .ok m)
  (halone : (Analysis.ofModule m₀).module.functions = [f₀])
  (hf : f₀.relabel d.relabelling ∈ (Analysis.ofModule m).module.functions)
  (hnames : ∀ name ∈ (Node.function f₀).unresolved,
    (Typing.declaring (Analysis.ofModule m).module.functions).functionType? name =
      known.lookup name)

include halone hf hnames

theorem alike_knowing : Infer.Alike d.node (· ∈ (Node.function f₀).ids)
    (· ∈ (Node.function f₀).unresolved) False (Analysis.knowing known m₀).typing
      (Analysis.ofModule m).typing := by
  obtain ⟨before, after, hsplit⟩ := List.append_of_mem hf
  rw [Analysis.knowing, halone]
  refine Typing.alike_alone d.node_injective hsplit (Analysis.ordered_module m) ⟨rfl, rfl⟩ ?_ hnames
  exact Function.asks (halone ▸ List.mem_singleton_self f₀)

theorem reportable_knowing {c : Chain} (hc : c ∈ (Node.function f₀).chains) :
    Reportable (Analysis.ofModule m) (c.relabel d.relabelling) ↔
      Reportable (Analysis.knowing known m₀) c := by
  obtain ⟨hwhole, hat⟩ := Chain.of_mem hc
  refine reportable_relabel hat (fun v hv => ?_) ?_
  · rw [Analysis.typeOf, Analysis.typeOf, Node.id_relabel]
    refine congrArg (Option.getD · .unknown) ((alike_knowing halone hf hnames).exprs v.id ?_)
    exact List.mem_map_of_mem (Node.mem_preorder_trans hv hwhole)
  · have hmem : f₀ ∈ (Analysis.ofModule m₀).module.functions := halone ▸ List.mem_singleton_self f₀
    have hin : (c.relabel d.relabelling).whole ∈
        (Node.function (f₀.relabel d.relabelling)).preorder := by
      change _ ∈ ((Node.function f₀).relabel d.relabelling).preorder
      rw [Node.preorder_relabel]
      exact List.mem_map_of_mem hwhole
    have hordered := (Analysis.ordered_module m₀).child (List.mem_map_of_mem hmem)
    calc (c.relabel d.relabelling).Movable (.module (Analysis.ofModule m).module)
      _ ↔ (c.relabel d.relabelling).Movable (.function (f₀.relabel d.relabelling)) :=
        movable_function (Analysis.ordered_module m) hf hin
      _ ↔ c.Movable (.function f₀) := movable_relabel d.node_injective.injOn hordered hwhole hat
      _ ↔ c.Movable (.module (Analysis.ofModule m₀).module) :=
        (movable_function (Analysis.ordered_module m₀) hmem hwhole).symm

open Classical in
noncomputable def reportsOn (a : Analysis) (text : List Char) (levels : LintLevels)
    (f : Function) : List Diagnostic :=
  ((levels.get code).severity?.toList).flatMap fun severity =>
    ((Node.function f).chains.filter fun c => decide (Reportable a c)).map
      (Chain.reportOn text severity)

include h in
theorem run_filter (hlo : f₀.info.span.lo = 0) (levels : LintLevels) :
    (run (Analysis.ofModule m) (Sources.empty.add file text) levels).filter
        (fun r => r.IsIn (f₀.relabel d.relabelling)) =
      (reportsOn (Analysis.knowing known m₀)
        (slice text d.place.offset (f₀.relabel d.relabelling).info.span.hi.toNat) levels f₀).map
          d.diagnostic := by
  classical
  cases hl : (levels.get code).severity? with
  | none =>
      rw [run_of_allow _ _ hl, reportsOn, hl]
      rfl
  | some severity =>
      obtain ⟨b, hfits⟩ := Analysis.fits_module h
      obtain ⟨before, after, hsplit⟩ := List.append_of_mem hf
      have hchains : chains (Analysis.ofModule m) =
          ((before ++ f₀.relabel d.relabelling :: after).map Node.function).flatMap Node.chains := by
        rw [← hsplit]
        exact Node.chains_of_none rfl
      have hreports : (run (Analysis.ofModule m) (Sources.empty.add file text) levels) =
          ((chains (Analysis.ofModule m)).filter fun c =>
            decide (Reportable (Analysis.ofModule m) c)).map (Chain.reportOn text severity) := by
        rw [run_eq h _ hl]
        refine List.map_congr_left fun c hc => ?_
        obtain ⟨hmem, hr⟩ := List.mem_filter.mp hc
        exact report_eq h hmem (of_decide_eq_true hr)
      have hfunction : (Node.function (f₀.relabel d.relabelling)).chains =
          (Node.function f₀).chains.map (Chain.relabel d.relabelling) :=
        Chain.chains_relabel d.relabelling (.function f₀)
      rw [hreports, hchains]
      rw [hsplit] at hfits
      rw [filter_isIn hfits _ fun _ => rfl, hfunction, List.filter_map, List.map_map, reportsOn, hl,
        Option.toList_some, List.flatMap_singleton, List.map_map]
      have hsame : ∀ c ∈ (Node.function f₀).chains,
          decide (Reportable (Analysis.ofModule m) (c.relabel d.relabelling)) =
            decide (Reportable (Analysis.knowing known m₀) c) :=
        fun c hc => decide_eq_decide.mpr (reportable_knowing halone hf hnames hc)
      rw [← List.filter_congr hsame]
      refine List.map_congr_left fun c hc => ?_
      obtain ⟨hlo', hhi, hin⟩ := fallback_within hfits
        (List.mem_map_of_mem (List.mem_append_right _ List.mem_cons_self)) hlo
          (List.mem_filter.mp hc).1
      exact reportOn_shift d hlo' hhi hin severity

end

/-- A function is read, typed and reported on by its own text and by the types of the functions that
it names. Where another text has the same function, and names mean functions of the same types there,
both are one function shifted, corresponding nodes have the same types or none, and the reports in
both are the same reports shifted. -/
theorem lint_amid {file : Option String} {text₁ text₂ : List Char} {m₁ m₂ : Module}
    (h₁ : (Module.ofText file text₁ .empty).1 = .ok m₁)
    (h₂ : (Module.ofText file text₂ .empty).1 = .ok m₂) {f₁ f₂ : Function}
    (hf₁ : f₁ ∈ (Analysis.ofModule m₁).module.functions)
    (hf₂ : f₂ ∈ (Analysis.ofModule m₂).module.functions)
    (htext : slice text₁ f₁.info.span.lo.toNat f₁.info.span.hi.toNat =
      slice text₂ f₂.info.span.lo.toNat f₂.info.span.hi.toNat)
    (hnames : ∀ name ∈ (Node.function f₁).unresolved,
      (Analysis.ofModule m₁).module.typeNamed? name =
        (Analysis.ofModule m₂).module.typeNamed? name) :
    ∃ (f : Function) (d₁ d₂ : Shift), f₁ = f.relabel d₁.relabelling ∧
      f₂ = f.relabel d₂.relabelling ∧
      (∀ n ∈ (Node.function f).preorder,
        (Analysis.ofModule m₁).typing.exprType? (d₁.node n.id) =
            (Analysis.ofModule m₂).typing.exprType? (d₂.node n.id) ∧
          (Analysis.ofModule m₁).typing.bindingType? (d₁.node n.id) =
            (Analysis.ofModule m₂).typing.bindingType? (d₂.node n.id)) ∧
      ∀ levels, ∃ ds : List Diagnostic,
        (m₁.depth ≤ maxDepth → (Analysis.ofModule m₁).typing.longField = false →
          ∃ ds₁, lintText file levels text₁ = .ok ds₁ ∧
            (ds₁.filter fun r => r.IsIn f₁) = ds.map d₁.diagnostic) ∧
        (m₂.depth ≤ maxDepth → (Analysis.ofModule m₂).typing.longField = false →
          ∃ ds₂, lintText file levels text₂ = .ok ds₂ ∧
            (ds₂.filter fun r => r.IsIn f₂) = ds.map d₂.diagnostic) := by
  obtain ⟨m₀, f, d₁, h₀, halone, rfl, hlo⟩ := Module.ofText_excerpt h₁ hf₁
  obtain ⟨m₀', f', d₂, h₀', halone', rfl, -⟩ := Module.ofText_excerpt h₂ hf₂
  rw [← htext, h₀] at h₀'
  obtain rfl := Except.ok.inj h₀'
  obtain rfl : f = f' := (List.cons.inj (halone.symm.trans halone')).1
  let known := (Typing.declaring (Analysis.ofModule m₁).module.functions).functions
  have hknown₁ : ∀ name ∈ (Node.function f).unresolved,
      (Typing.declaring (Analysis.ofModule m₁).module.functions).functionType? name =
        known.lookup name := fun _ _ => rfl
  have hknown₂ : ∀ name ∈ (Node.function f).unresolved,
      (Typing.declaring (Analysis.ofModule m₂).module.functions).functionType? name =
        known.lookup name := by
    intro name hname
    have hasked : name ∈ (Node.function (f.relabel d₁.relabelling)).unresolved := by
      change name ∈ ((Node.function f).relabel (.following d₁.span d₁.node)).unresolved
      rwa [Node.unresolved_relabel]
    have hsame := hnames name hasked
    rw [Module.typeNamed?, Module.typeNamed?, ← Typing.functionType?_declaring,
      ← Typing.functionType?_declaring] at hsame
    exact hsame.symm
  have halike₁ := alike_knowing halone hf₁ hknown₁
  have halike₂ := alike_knowing halone hf₂ hknown₂
  refine ⟨f, d₁, d₂, rfl, rfl, fun n hn => ⟨?_, ?_⟩, fun levels => ?_⟩
  · have hid := List.mem_map_of_mem (f := Node.id) hn
    exact (halike₁.exprs n.id hid).trans (halike₂.exprs n.id hid).symm
  · have hid := List.mem_map_of_mem (f := Node.id) hn
    exact (halike₁.bindings n.id hid).trans (halike₂.bindings n.id hid).symm
  · have hfilter₁ := run_filter h₁ halone hf₁ hknown₁ hlo levels
    have hfilter₂ := run_filter h₂ halone hf₂ hknown₂ hlo levels
    have hplace {d : Shift} : (f.relabel d.relabelling).info.span.lo.toNat = d.place.offset := by
      change ((d.place.offset : Int) + f.info.span.lo).toNat = _
      rw [hlo, Int.add_zero, Int.toNat_natCast]
    rw [hplace, hplace] at htext
    refine ⟨_, fun hdepth hlong => ⟨_, (lintText_eq_run_iff h₁).mpr ⟨hdepth, hlong, rfl⟩, hfilter₁⟩,
      fun hdepth hlong => ⟨_, (lintText_eq_run_iff h₂).mpr ⟨hdepth, hlong, rfl⟩, ?_⟩⟩
    rw [hfilter₂, htext]

theorem exists_lint_amid :
    let text₁ := "fn f(o: Option<i32>) \x7b o.map(g).unwrap_or(1); \x7d".toList
    let text₂ := "fn k() \x7b v!(); \x7d\n  fn f(o: Option<i32>) \x7b o.map(g).unwrap_or(1); \x7d".toList
    ∃ (m₁ m₂ : Module) (f₁ f₂ : Function), (Module.ofText none text₁ .empty).1 = .ok m₁ ∧
      (Module.ofText none text₂ .empty).1 = .ok m₂ ∧
      f₁ ∈ (Analysis.ofModule m₁).module.functions ∧
      f₂ ∈ (Analysis.ofModule m₂).module.functions ∧
      slice text₁ f₁.info.span.lo.toNat f₁.info.span.hi.toNat =
        slice text₂ f₂.info.span.lo.toNat f₂.info.span.hi.toNat ∧
      (∀ name ∈ (Node.function f₁).unresolved, (Analysis.ofModule m₁).module.typeNamed? name =
        (Analysis.ofModule m₂).module.typeNamed? name) ∧
      ∃ (d₁ d₂ : Shift) (ds ds₁ ds₂ : List Diagnostic), lintText none {} text₁ = .ok ds₁ ∧
        lintText none {} text₂ = .ok ds₂ ∧ (ds₁.filter fun r => r.IsIn f₁) = ds.map d₁.diagnostic ∧
        (ds₂.filter fun r => r.IsIn f₂) = ds.map d₂.diagnostic ∧ ds₂.length = 1 := by
  intro text₁ text₂
  have hcheck : (do
      let m₁ ← (Module.ofText none text₁ .empty).1.toOption
      let m₂ ← (Module.ofText none text₂ .empty).1.toOption
      let f₁ ← (Analysis.ofModule m₁).module.functions.head?
      let f₂ ← (Analysis.ofModule m₂).module.functions.getLast?
      return decide (slice text₁ f₁.info.span.lo.toNat f₁.info.span.hi.toNat =
          slice text₂ f₂.info.span.lo.toNat f₂.info.span.hi.toNat ∧
        (∀ name ∈ (Node.function f₁).unresolved,
          ((Analysis.ofModule m₁).module.typeNamed? name).isNone = true ∧
            ((Analysis.ofModule m₂).module.typeNamed? name).isNone = true) ∧
        (m₁.depth ≤ maxDepth ∧ (Analysis.ofModule m₁).typing.longField = false) ∧
        m₂.depth ≤ maxDepth ∧ (Analysis.ofModule m₂).typing.longField = false)) = some true := by
    decide +kernel
  have hcount : (lintText none {} text₂).toOption.map List.length = some 1 := by decide +kernel
  obtain ⟨m₁, h₁, hcheck⟩ := Option.bind_eq_some_iff.mp hcheck
  obtain ⟨m₂, h₂, hcheck⟩ := Option.bind_eq_some_iff.mp hcheck
  obtain ⟨f₁, hf₁, hcheck⟩ := Option.bind_eq_some_iff.mp hcheck
  obtain ⟨f₂, hf₂, hcheck⟩ := Option.bind_eq_some_iff.mp hcheck
  obtain ⟨htext, hnone, ⟨hdepth₁, hlong₁⟩, hdepth₂, hlong₂⟩ :=
    of_decide_eq_true (Option.some.inj hcheck)
  have hnames : ∀ name ∈ (Node.function f₁).unresolved,
      (Analysis.ofModule m₁).module.typeNamed? name =
        (Analysis.ofModule m₂).module.typeNamed? name := by
    intro name hname
    obtain ⟨h, h'⟩ := hnone name hname
    rw [Option.isNone_iff_eq_none.mp h, Option.isNone_iff_eq_none.mp h']
  have hf₁ := List.mem_of_head? hf₁
  have hf₂ := List.mem_of_getLast? hf₂
  obtain ⟨f, d₁, d₂, -, -, -, hreports⟩ := lint_amid (ok_of_toOption h₁) (ok_of_toOption h₂) hf₁ hf₂
    htext hnames
  obtain ⟨ds, hds₁, hds₂⟩ := hreports {}
  obtain ⟨ds₁, hlint₁, hfilter₁⟩ := hds₁ hdepth₁ hlong₁
  obtain ⟨ds₂, hlint₂, hfilter₂⟩ := hds₂ hdepth₂ hlong₂
  rw [hlint₂] at hcount
  exact ⟨m₁, m₂, f₁, f₂, ok_of_toOption h₁, ok_of_toOption h₂, hf₁, hf₂, htext, hnames, d₁, d₂, ds,
    ds₁, ds₂, hlint₁, hlint₂, hfilter₁, hfilter₂, Option.some.inj hcount⟩

end MapUnwrapOr

end ChainLint
