import ChainLint.Proofs.Tree.Order

namespace ChainLint.Tree

structure Node.HoldsParts (n : Node) : Prop where
  proper : ∀ c ∈ n.children, c.span.lo ≤ c.span.hi
  within : ∀ c ∈ n.children, n.span.lo ≤ c.span.lo ∧ c.span.hi ≤ n.span.hi
  ordered : n.children.IsChain fun c d => c.span.hi ≤ d.span.lo
  named : ∀ i receiver name nameSpan args, n = .expr (.methodCall i receiver name nameSpan args) →
    i.span.lo ≤ nameSpan.lo ∧ receiver.span.hi ≤ nameSpan.lo ∧ nameSpan.lo ≤ nameSpan.hi ∧
      (∀ e ∈ args, nameSpan.hi ≤ e.span.lo) ∧ nameSpan.hi ≤ i.span.hi

namespace Fits

variable {a b : Int} {n : Node} {ns : List Node}

theorem mem_bounds (h : Fits a b ns) : ∀ c ∈ ns,
    a ≤ c.span.lo ∧ c.span.lo < c.span.hi ∧ c.span.hi ≤ b := by
  induction h with
  | nil => exact fun c hc => absurd hc List.not_mem_nil
  | cons hlo hlt hn hparts hns _ ih =>
      intro c hc
      rcases List.mem_cons.mp hc with rfl | hc
      · exact ⟨hlo, hlt, hns.le⟩
      · obtain ⟨h₁, h₂, h₃⟩ := ih c hc
        exact ⟨by omega, h₂, h₃⟩

theorem isChain (h : Fits a b ns) : ns.IsChain fun c d => c.span.hi ≤ d.span.lo := by
  induction h with
  | nil => exact .nil
  | @cons a b n ns hlo hlt hn hparts hns _ ih =>
      cases ns with
      | nil => exact .singleton n
      | cons m ns => exact .cons_cons (hns.mem_bounds m List.mem_cons_self).1 ih

theorem holdsParts (h : Fits n.span.lo n.span.hi n.children) (hn : n.Spanned) :
    n.HoldsParts where
  proper c hc := Int.le_of_lt (h.mem_bounds c hc).2.1
  within c hc := ⟨(h.mem_bounds c hc).1, (h.mem_bounds c hc).2.2⟩
  ordered := h.isChain
  named i receiver name nameSpan args he := by
    subst he
    obtain ⟨-, -, h₁, h₂, h₃, h₄⟩ := hn
    have hr := h.mem_bounds (.expr receiver) List.mem_cons_self
    have hlo : i.span.lo ≤ receiver.span.lo := hr.1
    have hlt : receiver.span.lo < receiver.span.hi := hr.2.1
    exact ⟨by omega, h₁, by omega, h₄, h₃⟩

theorem tight {first last : Node} (h : Fits a b ns) (hf : first ∈ ns.head?)
    (hl : last ∈ ns.getLast?) : Fits first.span.lo last.span.hi ns := by
  induction h generalizing first with
  | nil => cases hf
  | @cons a b n ns hlo hlt hn hparts hns _ ih =>
      cases hf
      cases ns with
      | nil =>
          cases hl
          exact .cons (Int.le_refl _) hlt hn hparts (.nil (Int.le_refl _))
      | cons m ns =>
          have hrest : Fits m.span.lo last.span.hi (m :: ns) := ih rfl hl
          exact .cons (Int.le_refl _) hlt hn hparts (hrest.mono (hns.mem_bounds m (by simp)).1
            (Int.le_refl _))

end Fits

open Surface Build

theorem info_functions {file : Option String} {fs : List Surface.Function} {x x' : Expansions}
    {ts : List Function} (h : Gives (functions file fs) x ts x') :
    ts.map Function.info = fs.map fun f => infoOf file f.extent := by
  induction fs generalizing x ts with
  | nil =>
      obtain ⟨rfl, rfl⟩ := gives_pure.mp h
      rfl
  | cons f fs ih =>
      rw [Build.functions] at h
      obtain ⟨t, y, h₁, h⟩ := gives_bind.mp h
      obtain ⟨us, z, h₂, h⟩ := gives_bind.mp h
      obtain ⟨rfl, rfl⟩ := gives_pure.mp h
      rw [Build.function] at h₁
      obtain ⟨body, w, h₃, h₁⟩ := gives_bind.mp h₁
      obtain ⟨rfl, rfl⟩ := gives_pure.mp h₁
      rw [List.map_cons, List.map_cons, ih h₂]

namespace Module

theorem fits_span {file : Option String} {text : List Char} {x : Expansions} {m : Module}
    (h : (ofText file text x).1 = .ok m) :
    Fits m.info.span.lo m.info.span.hi (m.functions.map .function) := by
  obtain ⟨b, hfits⟩ := fits_ofText h
  obtain ⟨sm, tokens, x', hparse, hb⟩ := ofText_eq_ok.mp h
  obtain ⟨ts, hts, rfl⟩ := gives_module.mp hb
  have hinfo := info_functions hts
  have hhead := congrArg List.head? hinfo
  have hlast := congrArg List.getLast? hinfo
  simp only [List.head?_map, List.getLast?_map] at hhead hlast
  simp only [moduleSpan]
  cases hf : ts.head? with
  | none =>
      rw [List.head?_eq_none_iff] at hf
      subst hf
      have hnil : sm.functions = [] := by simpa using hinfo.symm
      rw [hnil]
      exact .nil (Int.le_refl _)
  | some first =>
      cases hl : ts.getLast? with
      | none =>
          rw [List.getLast?_eq_none_iff] at hl
          rw [hl] at hf
          cases hf
      | some last =>
          rw [hf] at hhead
          rw [hl] at hlast
          obtain ⟨f, hf', hfi⟩ := Option.map_eq_some_iff.mp hhead.symm
          obtain ⟨l, hl', hli⟩ := Option.map_eq_some_iff.mp hlast.symm
          rw [hf', hl']
          have htight : Fits (Node.function first).span.lo (Node.function last).span.hi _ :=
            hfits.tight (by simp [hf]) (by simp [hl])
          have hlo : (Node.function first).span.lo = f.extent.start.offset := by
            rw [Node.span, Node.info, ← hfi]
            rfl
          have hhi : (Node.function last).span.hi = l.extent.stop.offset := by
            rw [Node.span, Node.info, ← hli]
            rfl
          rw [hlo, hhi] at htight
          exact htight

/-- In the tree of a text every node holds its parts, in order and with the names of methods in
their places, and so the nodes in their order start in the order of the text. -/
theorem holdsParts_and_sorted {file : Option String} {text : List Char} {x : Expansions}
    {m : Module} (h : (ofText file text x).1 = .ok m) :
    (∀ n ∈ (Node.module m).preorder, n.HoldsParts) ∧
      (Node.module m).preorder.Pairwise fun n n' => n.span.lo ≤ n'.span.lo := by
  have hfits := fits_span h
  constructor
  · intro n hn
    rw [Node.preorder_eq, List.mem_cons] at hn
    rcases hn with rfl | hn
    · refine Fits.holdsParts hfits ?_
      obtain ⟨sm, tokens, x', hparse, hb⟩ := ofText_eq_ok.mp h
      obtain ⟨ts, hts, rfl⟩ := gives_module.mp hb
      change (moduleSpan file sm.functions).context = rootContext
      unfold moduleSpan
      split <;> rfl
    · obtain ⟨-, -, -, hspanned, hparts⟩ := hfits.forall_preorder n hn
      exact hparts.holdsParts hspanned
  · exact (Fits.preorder (n := .module m) hfits).imp fun hxy => hxy.1

theorem exists_holdsParts :
    let text := "fn f() { (a.map(|v| (v) + w!(1))).unwrap_or((2) * 3) }".toList
    ∃ m, (ofText none text .empty).1 = .ok m ∧
      (∀ n ∈ (Node.module m).preorder, n.HoldsParts) ∧
        (Node.module m).preorder.Pairwise fun n n' => n.span.lo ≤ n'.span.lo := by
  intro text
  have hparse : (ofText none text .empty).1.isOk = true := by decide +kernel
  cases h : (ofText none text .empty).1 with
  | error e =>
      rw [h] at hparse
      cases hparse
  | ok m => exact ⟨m, rfl, holdsParts_and_sorted h⟩

end Module

end ChainLint.Tree
