import ChainLint.Lint.Text
import ChainLint.Proofs.Tree.Enclosing

namespace ChainLint

open Tree

def LintLevel.severity? : LintLevel → Option Severity
  | .allow => none
  | .warn => some .warning
  | .deny => some .error

namespace MapUnwrapOr

theorem callOf?_eq_some_iff {method : String} {arity : Nat} {e receiver : Expr} {s : Span}
    {args : List Expr} : callOf? method arity e = some (receiver, s, args) ↔
      (∃ i, e = .methodCall i receiver method s args) ∧ args.length = arity := by
  constructor
  · intro h
    unfold callOf? at h
    split at h
    · split at h
      · next hm =>
          obtain ⟨rfl, hlen⟩ := hm
          cases h
          exact ⟨⟨_, rfl⟩, hlen⟩
      · cases h
    · cases h
  · rintro ⟨⟨i, rfl⟩, hlen⟩
    exact if_pos ⟨rfl, hlen⟩

namespace Chain

def IsAt (c : Chain) (n : Node) : Prop :=
  ∃ i j receiver mapper fallback s, c = ⟨n, .expr receiver,
      .expr (.methodCall j receiver "map" c.nameSpan [mapper]), .expr mapper, .expr fallback,
      c.nameSpan⟩ ∧
    n = .expr (.methodCall i (.methodCall j receiver "map" c.nameSpan [mapper]) "unwrap_or" s
      [fallback])

theorem ofNode?_eq_some_iff {n : Node} {c : Chain} : ofNode? n = some c ↔ c.IsAt n := by
  constructor
  · intro h
    unfold ofNode? at h
    split at h
    · unfold ofExpr? at h
      split at h
      · next mapCall s fallback hcall =>
          obtain ⟨⟨i, rfl⟩, -⟩ := callOf?_eq_some_iff.mp hcall
          split at h
          · next receiver nameSpan mapper hmap =>
              obtain ⟨⟨j, rfl⟩, -⟩ := callOf?_eq_some_iff.mp hmap
              cases h
              exact ⟨i, j, receiver, mapper, fallback, s, rfl, rfl⟩
          · cases h
      · cases h
    · cases h
  · rintro ⟨i, j, receiver, mapper, fallback, s, hc, rfl⟩
    rw [hc]
    rfl

theorem IsAt.whole {c : Chain} {n : Node} (h : c.IsAt n) : c.whole = n := by
  obtain ⟨i, j, receiver, mapper, fallback, s, hc, -⟩ := h
  rw [hc]

theorem IsAt.fallback {c : Chain} {n : Node} (h : c.IsAt n) : c.fallback ∈ n.children := by
  obtain ⟨i, j, receiver, mapper, fallback, s, hc, rfl⟩ := h
  rw [hc]
  exact List.mem_cons_of_mem _ (List.mem_singleton_self _)

theorem IsAt.mapCall {c : Chain} {n : Node} (h : c.IsAt n) : c.mapCall ∈ n.children ∧
    ∃ j receiver name args, c.mapCall = .expr (.methodCall j receiver name c.nameSpan args) := by
  obtain ⟨i, j, receiver, mapper, fallback, s, hc, rfl⟩ := h
  rw [hc]
  exact ⟨List.mem_cons_self, j, receiver, "map", [mapper], rfl⟩

def report (sources : Sources) (severity : Severity) (c : Chain) : Diagnostic where
  message := (suggestion sources c).1.message
  code := some code
  phase := .lint
  severity := severity
  span := c.whole.span
  suggestions := [(suggestion sources c).2]

end Chain

def chains (a : Analysis) : List Chain :=
  (Node.module a.module).preorder.filterMap Chain.ofNode?

def UsedBefore (body fallback : Node) : Prop :=
  ∃ before use between after binding,
    body.preorder = before ++ use :: (between ++ fallback :: after) ∧
      Analysis.usedBinding? use = some binding ∧
        ∃ u ∈ fallback.preorder, Analysis.usedBinding? u = some binding

structure Reportable (a : Analysis) (c : Chain) : Prop where
  receiver : ∃ t, a.typeOf c.receiver = .option t
  fallback : namesNone c.fallback = true → ∃ t, a.typeOf c.mapCall = .option (.option t)
  movable : (a.typeOf c.fallback).isCopy = true ∨
    ∀ body ∈ (Node.module a.module).preorder, body.ownsBody = true →
      Node.DirectlyIn body c.whole → ¬ UsedBefore body c.fallback
  written : ∀ i name args, c.fallback ≠ .expr (.macroCall i name args)

theorem check_eq (a : Analysis) (sources : Sources) (levels : LintLevels) (body : Option Node)
    (c : Chain) : check a sources levels body c =
      if applies a body c then (levels.get code).severity?.map (c.report sources) else none := by
  unfold check
  split
  · simp only
    cases levels.get code <;> rfl
  · rfl

theorem run_of_allow (a : Analysis) (sources : Sources) {levels : LintLevels}
    (hl : (levels.get code).severity? = none) : run a sources levels = [] := by
  refine List.filterMap_eq_nil_iff.mpr fun e _ => ?_
  cases Chain.ofNode? e.node with
  | none => rfl
  | some c =>
      rw [Option.bind_some, check_eq, hl]
      exact ite_self none

theorem fallbackFits_iff {a : Analysis} {c : Chain} : fallbackFits a c = true ↔
    (namesNone c.fallback = true → ∃ t, a.typeOf c.mapCall = .option (.option t)) := by
  unfold fallbackFits
  rw [Bool.or_eq_true, Bool.not_eq_true']
  constructor
  · rintro (h | h) hnone
    · rw [h] at hnone
      cases hnone
    · split at h
      · next t ht => exact ⟨t, ht⟩
      · cases h
  · intro h
    by_cases hnone : namesNone c.fallback = true
    · obtain ⟨t, ht⟩ := h hnone
      right
      rw [ht]
    · exact .inl (by simpa using hnone)

theorem isOption_iff {t : Ty} : t.isOption = true ↔ ∃ u, t = .option u := by
  cases t <;> simp [Ty.isOption]

theorem usedBinding?_leaf {n : Node} {b : NodeId} (h : Analysis.usedBinding? n = some b) :
    n.children = [] := by
  unfold Analysis.usedBinding? at h
  split at h
  · rfl
  · cases h

theorem hasUseBefore_iff {body fallback : Node} (hsorted : body.preorder.Pairwise Fits.StartsBefore)
    (hmem : fallback ∈ body.preorder) :
    Analysis.hasUseBefore body (Analysis.usedBindings fallback) fallback.span.lo = true ↔
      UsedBefore body fallback := by
  have hused {b : NodeId} : b ∈ Analysis.usedBindings fallback ↔
      ∃ u ∈ fallback.preorder, Analysis.usedBinding? u = some b := List.mem_filterMap
  simp only [Analysis.hasUseBefore, List.any_eq_true, Bool.and_eq_true, decide_eq_true_eq,
    Option.any_eq_true, List.contains_iff_mem]
  constructor
  · rintro ⟨use, huse, hlo, b, hb, hin⟩
    obtain ⟨front, after, hsplit⟩ := List.append_of_mem hmem
    rw [hsplit] at huse hsorted
    obtain ⟨-, hlater, -⟩ := List.pairwise_append.mp hsorted
    rcases List.mem_append.mp huse with huse | huse
    · obtain ⟨before, between, rfl⟩ := List.append_of_mem huse
      refine ⟨before, use, between, after, b, ?_, hb, hused.mp hin⟩
      rw [hsplit, List.append_assoc, List.cons_append]
    · rcases List.mem_cons.mp huse with rfl | huse
      · exact absurd hlo (Int.lt_irrefl _)
      · have := ((List.pairwise_cons.mp hlater).1 use huse).1
        omega
  · rintro ⟨before, use, between, after, b, hsplit, hb, hin⟩
    have hall := hsorted
    rw [hsplit] at hall
    obtain ⟨-, hall, -⟩ := List.pairwise_append.mp hall
    have hlt := (List.pairwise_cons.mp hall).1 fallback (List.mem_append_right _ List.mem_cons_self)
    exact ⟨use, by simp [hsplit], hlt.2 (usedBinding?_leaf hb), b, hb, hused.mpr hin⟩

theorem context_eq_root_iff {n : Node} (h : n.Spanned) :
    n.span.context = rootContext ↔ ∀ i name args, n ≠ .expr (.macroCall i name args) := by
  constructor
  · rintro hroot i name args rfl
    exact h hroot
  · intro hne
    cases n with
    | expr e =>
        cases e with
        | macroCall i name args => exact absurd rfl (hne i name args)
        | methodCall => exact h.1
        | _ => exact h
    | _ => exact h

theorem places_of_ofText {file : Option String} {text : List Char} {x : Expansions} {m : Module}
    (h : (Module.ofText file text x).1 = .ok m) {n : Node}
    (hn : n ∈ (Node.module (Analysis.ofModule m).module).preorder) (hm : n.isModule = false) :
    n.Spanned ∧ n.preorder.Pairwise Fits.StartsBefore := by
  obtain ⟨b, hfits⟩ := Analysis.fits_module h
  rw [Node.preorder_eq, List.mem_cons] at hn
  rcases hn with rfl | hn
  · cases hm
  · obtain ⟨-, -, -, hspanned, hparts⟩ := hfits.forall_preorder n hn
    exact ⟨hspanned, hparts.preorder⟩

section

variable {file : Option String} {text : List Char} {x : Expansions} {m : Module}

theorem canMoveForward_iff (h : (Module.ofText file text x).1 = .ok m) {e : Entry} {c : Chain}
    (he : e ∈ (Analysis.ofModule m).module.entries) (hc : c.IsAt e.node) :
    canMoveForward (Analysis.ofModule m) ((Analysis.ofModule m).body? e) c = true ↔
      ((Analysis.ofModule m).typeOf c.fallback).isCopy = true ∨
        ∀ body ∈ (Node.module (Analysis.ofModule m).module).preorder, body.ownsBody = true →
          Node.DirectlyIn body c.whole → ¬ UsedBefore body c.fallback := by
  have hbody {b : Node} := Analysis.body?_eq_some_iff (b := b) he
  rw [← hc.whole] at hbody
  rw [canMoveForward, Bool.or_eq_true, Bool.not_eq_true']
  refine or_congr_right ?_
  cases hb : (Analysis.ofModule m).body? e with
  | none =>
      simp only [Option.any_none, true_iff]
      intro b hmem ho hin
      rw [hbody.mpr ⟨hmem, ho, hin⟩] at hb
      cases hb
  | some b =>
      obtain ⟨hmem, ho, hin⟩ := hbody.mp hb
      have hfallback : c.fallback ∈ b.preorder := by
        obtain ⟨d, hd, hwhole⟩ := hin.mem_preorder
        refine Node.mem_preorder_of_child hd (Node.mem_preorder_trans ?_ hwhole)
        rw [hc.whole]
        exact Node.mem_preorder_of_child hc.fallback (Node.mem_preorder_self _)
      have hmodule : b.isModule = false := by
        cases b <;> first | rfl | cases ho
      have hiff := hasUseBefore_iff (places_of_ofText h hmem hmodule).2 hfallback
      rw [Option.any_some, ← Bool.not_eq_true, hiff]
      constructor
      · intro hnot b' hmem' ho' hin'
        have := hbody.mpr ⟨hmem', ho', hin'⟩
        rw [hb] at this
        cases this
        exact hnot
      · intro hall
        exact hall b hmem ho hin

theorem applies_iff (h : (Module.ofText file text x).1 = .ok m) {e : Entry} {c : Chain}
    (he : e ∈ (Analysis.ofModule m).module.entries) (hc : c.IsAt e.node) :
    applies (Analysis.ofModule m) ((Analysis.ofModule m).body? e) c = true ↔
      Reportable (Analysis.ofModule m) c := by
  have hnode : e.node ∈ (Node.module (Analysis.ofModule m).module).preorder :=
    List.mem_map_of_mem he
  have hplace {n : Node} (hn : n ∈ e.node.children) : n.Spanned :=
    (places_of_ofText h (Node.mem_preorder_trans
      (Node.mem_preorder_of_child hn n.mem_preorder_self) hnode)
      (Node.not_isModule_of_child hn)).1
  obtain ⟨hmap, j, receiver, name, args, hcall⟩ := hc.mapCall
  have hroot : c.nameSpan.context = rootContext := by
    have := hplace hmap
    rw [hcall] at this
    exact this.2.1
  have hcontext : (c.fallback.span.context == c.nameSpan.context) = true ↔
      ∀ i name args, c.fallback ≠ .expr (.macroCall i name args) := by
    rw [hroot, beq_iff_eq]
    exact context_eq_root_iff (hplace hc.fallback)
  rw [applies, Bool.and_eq_true, Bool.and_eq_true, Bool.and_eq_true, isOption_iff, fallbackFits_iff,
    canMoveForward_iff h he hc, hcontext]
  constructor
  · rintro ⟨⟨⟨hreceiver, hfallback⟩, hmovable⟩, hwritten⟩
    exact ⟨hreceiver, hfallback, hmovable, hwritten⟩
  · rintro ⟨hreceiver, hfallback, hmovable, hwritten⟩
    exact ⟨⟨⟨hreceiver, hfallback⟩, hmovable⟩, hwritten⟩

open Classical in
theorem run_eq (h : (Module.ofText file text x).1 = .ok m) (sources : Sources)
    {levels : LintLevels} {severity : Severity}
    (hl : (levels.get code).severity? = some severity) :
    run (Analysis.ofModule m) sources levels =
      ((chains (Analysis.ofModule m)).filter fun c =>
        decide (Reportable (Analysis.ofModule m) c)).map (Chain.report sources severity) := by
  have hchains : chains (Analysis.ofModule m) =
      (Analysis.ofModule m).module.entries.filterMap fun e => Chain.ofNode? e.node := by
    rw [chains, Node.preorder]
    exact List.filterMap_map
  rw [hchains, run, List.filter_filterMap, List.map_filterMap]
  refine List.filterMap_congr fun e he => ?_
  cases hof : Chain.ofNode? e.node with
  | none => rfl
  | some c =>
      have hiff := applies_iff h he (Chain.ofNode?_eq_some_iff.mp hof)
      rw [Option.bind_some, check_eq, hl]
      by_cases happ : Reportable (Analysis.ofModule m) c
      · simp [happ, hiff.mpr happ]
      · simp [happ, Bool.eq_false_iff.mpr fun hc => happ (hiff.mp hc)]

theorem diagnostic_of_error {levels : LintLevels} {ds : List Diagnostic} {e : ReadError}
    (h : (Module.ofText file text .empty).1 = .error e) (hds : lintText file levels text = .ok ds) :
    ∀ d ∈ ds, e.diagnostic? file = some d := by
  intro d hd
  unfold lintText at hds
  rw [h] at hds
  cases e with
  | grammar cause =>
      cases hds
      exact Option.mem_toList.mp hd
  | build cause =>
      cases cause with
      | missingSemicolon span =>
          cases hds
          exact Option.mem_toList.mp hd
      | badString cause => cases hds
      | longInteger => cases hds

theorem lintText_eq_run_iff (h : (Module.ofText file text .empty).1 = .ok m) {levels : LintLevels}
    {ds : List Diagnostic} : lintText file levels text = .ok ds ↔
      m.depth ≤ maxDepth ∧ (Analysis.ofModule m).typing.longField = false ∧
        ds = run (Analysis.ofModule m) (Sources.empty.add file text) levels := by
  unfold lintText
  rw [h]
  simp only
  split
  · next hdepth =>
      constructor
      · intro h
        cases h
      · rintro ⟨hle, -⟩
        omega
  · next hdepth =>
      split
      · next hlong =>
          constructor
          · intro h
            cases h
          · rintro ⟨-, hshort, -⟩
            rw [hlong] at hshort
            cases hshort
      · next hlong =>
          constructor
          · intro h
            cases h
            exact ⟨by omega, by simpa using hlong, rfl⟩
          · rintro ⟨-, -, rfl⟩
            rfl

end

open Classical in
/-- On a text that parses the lint gives exactly the reports on the reportable chains, in the order
of the nodes. It gives none at all where expressions stand too deep in each other, or a tuple is
indexed by a number too long to be read. -/
theorem lintText_eq_ok_iff {file : Option String} {text : List Char} {m : Module}
    {levels : LintLevels} {severity : Severity} {ds : List Diagnostic}
    (h : (Module.ofText file text .empty).1 = .ok m)
    (hl : (levels.get code).severity? = some severity) :
    lintText file levels text = .ok ds ↔
      m.depth ≤ maxDepth ∧ (Analysis.ofModule m).typing.longField = false ∧
        ds = ((chains (Analysis.ofModule m)).filter fun c =>
          decide (Reportable (Analysis.ofModule m) c)).map
            (Chain.report (Sources.empty.add file text) severity) := by
  rw [← run_eq h _ hl]
  exact lintText_eq_run_iff h

theorem exists_reportable_chain :
    let text := "fn f(o: Option<i32>) { o.map(g).unwrap_or(1); }".toList
    ∃ m ds, (Module.ofText none text .empty).1 = .ok m ∧ lintText none {} text = .ok ds ∧
      ds.length = 1 ∧ ∃ c ∈ chains (Analysis.ofModule m), Reportable (Analysis.ofModule m) c := by
  intro text
  have hparse : (Module.ofText none text .empty).1.isOk = true := by decide +kernel
  have hlint : (lintText none {} text).toOption.map List.length = some 1 := by decide +kernel
  cases h : (Module.ofText none text .empty).1 with
  | error e =>
      rw [h] at hparse
      cases hparse
  | ok m =>
      cases hds : lintText none {} text with
      | error e =>
          rw [hds] at hlint
          cases hlint
      | ok ds =>
          rw [hds] at hlint
          have hlen : ds.length = 1 := Option.some.inj hlint
          obtain ⟨-, -, heq⟩ := (lintText_eq_ok_iff h (by rfl)).mp hds
          obtain ⟨d, hd⟩ := List.exists_mem_of_length_pos (Nat.lt_of_lt_of_eq Nat.one_pos hlen.symm)
          rw [heq] at hd
          obtain ⟨c, hc, -⟩ := List.mem_map.mp hd
          obtain ⟨hmem, hrep⟩ := List.mem_filter.mp hc
          exact ⟨m, ds, rfl, rfl, hlen, c, hmem, by simpa using hrep⟩

end MapUnwrapOr

end ChainLint
