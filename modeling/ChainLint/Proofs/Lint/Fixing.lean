import ChainLint.Proofs.Grammar.Reparsing
import ChainLint.Proofs.Lint.Made

namespace ChainLint.MapUnwrapOr

open Tree Surface

variable {file : Option String} {text : List Char} {m : Tree.Module} {levels : LintLevels}
  {ds : List Diagnostic} {fs : List Surface.Function} {ws : List Lexeme}

theorem mem_of_pair {e : Surface.Expr} {p : CallPair} (hp : e.pair? = some p)
    (h : Spells (.expr e) ws) : ∃ w ∈ ws, w.token = p.method := by
  obtain ⟨-, name, x, y, -, rfl⟩ := Expr.pair?_eq_some hp
  cases h with
  | methodCall hs =>
      cases hs with
      | methodCall =>
          exact ⟨⟨p.method, .afterOperand⟩, by simp only [List.mem_append, List.mem_cons, true_or,
            or_true], rfl⟩

theorem not_made_in_removed (h : (Module.ofText file text .empty).1 = .ok m)
    (hds : lintText file levels text = .ok ds) {c : Chain} (hc : c ∈ chains (Analysis.ofModule m))
    (hmade : c.isMade file text ds = true) {lo : Int}
    (hlo : c.mapCall.span.hi ≤ lo) (hhi : lo < c.whole.span.hi) :
    isMadeAt file text m ds lo = false := by
  refine Bool.eq_false_iff.mpr fun hat => ?_
  obtain ⟨d, hd, hat⟩ := List.any_eq_true.mp hat
  obtain ⟨hmade', hat⟩ := Bool.and_eq_true_iff.mp hat
  have hat := eq_of_beq hat
  have hcl := Chain.laid h hc
  have hdl := Chain.laid h hd
  have h₁ := hcl.name
  have h₂ := hcl.mapper
  have h₃ := hcl.mapCall
  have h₄ := hdl.name
  have hne : c ≠ d := by
    rintro rfl
    omega
  have hremove : c.remove ∈ c.edits text := by
    unfold Chain.edits
    split <;> simp
  have hrename : d.rename text ∈ d.edits text := by
    unfold Chain.edits
    split <;> simp
  have happart := apart_of_isMade h hds hc hd hmade hmade' hne _ hremove _ hrename
  have hempty : ¬(c.mapCall.span.hi = c.whole.span.hi ∧ d.nameSpan.lo = d.nameSpan.hi) := by omega
  have happart : (c.mapCall.span.hi < d.nameSpan.hi && d.nameSpan.lo < c.whole.span.hi : Bool) = false :=
    (if_neg hempty).symm.trans happart
  simp only [Bool.and_eq_false_iff, decide_eq_false_iff_not] at happart
  omega

theorem call_of_isMade (h : (Module.ofText file text .empty).1 = .ok m)
    (hds : lintText file levels text = .ok ds) (hreads : Reads file text m fs ws)
    {c : Chain} (hc : c ∈ chains (Analysis.ofModule m)) (hu : c.Uncut text)
    (hmade : c.isMade file text ds = true)
    {e : Surface.Expr} (he : e ∈ fs.flatMap fun f => f.body.calls)
    (hof : Chain.ofExpr? (Plain.expr file e) = some (c.erase Span.inRoot)) :
    ∃ p, e.joins? (isMadeAt file text m ds) = some p ∧
      e.changes (isMadeAt file text m ds) text =
        (c.edits text).map Edit.change := by
  obtain ⟨receiver, name, args, x, we, rfl, hin, hspells⟩ := hreads.spells.calls e he
  obtain ⟨s, hcuts, -⟩ := hreads.cuts
  obtain ⟨n, n', hn, hcutsn⟩ := @Pending.Cuts.within text _ _ _ _ hcuts ⟨[], rfl, rfl⟩ hin
  obtain ⟨p, y, wa, rfl, rfl, hmap, hunwrap, hedits, hwa, hplaces⟩ :=
    hu.inRoot.pair hspells hn hcutsn hof
  have hpair : Expr.pair? (.methodCall (.methodCall p.receiver p.method [p.mapper] y) name
      [p.fallback] x) = some p := if_pos ⟨hmap, hunwrap⟩
  obtain ⟨c', hof', hname⟩ := chain_of_pair file hpair
  cases hof.symm.trans hof'
  have hpicked : isMadeAt file text m ds
      p.method.start.offset = true := by
    rw [← hmade, ← isMadeAt_nameSpan h hc]
    exact congrArg _ (congrArg Span.lo hname).symm
  have hnone : ∀ a ∈ p.fallback.calls, a.isPicked
      (isMadeAt file text m ds) = false := by
    intro a ha
    rw [Expr.isPicked]
    cases hq : a.pair? with
    | none => rfl
    | some q =>
        obtain ⟨-, -, -, -, wq, -, hinq, hwq⟩ := hwa.calls a ha
        obtain ⟨w, hw, hmethod⟩ := mem_of_pair hq hwq
        obtain ⟨hlo, hhi⟩ := hplaces w (hinq.mem hw)
        rw [hmethod] at hlo hhi
        exact not_made_in_removed h hds hc hmade (by rwa [← hi_inRoot c.mapCall])
          (by rwa [← hi_inRoot c.whole])
  have hjoins : Expr.joins? (isMadeAt file text m ds)
      (.methodCall (.methodCall p.receiver p.method [p.mapper] y) name [p.fallback] x) =
        some p := by
    rw [Expr.joins?, hpair]
    refine Option.filter_eq_some_iff.mpr ⟨rfl, ?_⟩
    rw [hpicked, Bool.true_and, List.all_eq_true]
    intro a ha
    rw [hnone a ha]
    rfl
  refine ⟨p, hjoins, ?_⟩
  rw [← Chain.edits_inRoot, hedits]
  simp only [Expr.changes, hjoins]
  rfl

theorem exists_chain_of_call (hreads : Reads file text m fs ws) {e : Surface.Expr}
    (he : e ∈ fs.flatMap fun f => f.body.calls) {c' : Chain}
    (hof : Chain.ofExpr? (Plain.expr file e) = some c') :
    ∃ c ∈ chains (Analysis.ofModule m), c.erase Span.inRoot = c' := by
  have hmem : c' ∈ builtChains file (fs.flatMap fun f => f.body.calls) :=
    List.mem_filterMap.mpr ⟨e, he, hof⟩
  rw [← hreads.chains] at hmem
  exact List.mem_map.mp hmem

section

variable (huncut : ∀ c ∈ chains (Analysis.ofModule m),
  c.isMade file text ds = true → c.Uncut text)

include huncut

theorem ready_of_uncut (h : (Module.ofText file text .empty).1 = .ok m)
    (hds : lintText file levels text = .ok ds) (hreads : Reads file text m fs ws) :
    ∀ e ∈ fs.flatMap fun f => f.body.calls,
      Ready (isMadeAt file text m ds) file e := by
  intro e he c' hof hpicked
  obtain ⟨c, hc, rfl⟩ := exists_chain_of_call hreads he hof
  have hmade := (isMadeAt_nameSpan h hc).symm.trans hpicked
  obtain ⟨p, hp, -⟩ := call_of_isMade h hds hreads hc (huncut c hc hmade) hmade he hof
  exact ⟨p, hp⟩

theorem changes_of_call (h : (Module.ofText file text .empty).1 = .ok m)
    (hds : lintText file levels text = .ok ds) (hreads : Reads file text m fs ws)
    {e : Surface.Expr} (he : e ∈ fs.flatMap fun f => f.body.calls) :
    e.changes (isMadeAt file text m ds) text =
      ((Chain.ofExpr? (Plain.expr file e)).toList.filter fun c =>
        isMadeAt file text m ds c.nameSpan.lo).flatMap
          fun c => (c.edits text).map Edit.change := by
  have hunjoined : (∀ c, Chain.ofExpr? (Plain.expr file e) = some c →
      isMadeAt file text m ds c.nameSpan.lo = false) →
      e.changes (isMadeAt file text m ds) text = [] := by
    intro hno
    refine Expr.changes_of_none _ text ?_
    cases hp : e.joins? (isMadeAt file text m ds) with
    | none => rfl
    | some p =>
        obtain ⟨hpair, hpicked, -⟩ := Expr.joins?_eq_some _ hp
        obtain ⟨c, hof, hname⟩ := chain_of_pair file hpair
        have := hno c hof
        rw [hname] at this
        exact absurd (this.symm.trans hpicked) (by decide)
  cases hof : Chain.ofExpr? (Plain.expr file e) with
  | none => exact hunjoined (by rw [hof]; exact fun _ h => nomatch h)
  | some c' =>
      obtain ⟨c, hc, rfl⟩ := exists_chain_of_call hreads he hof
      cases hpicked : isMadeAt file text m ds
          (c.erase Span.inRoot).nameSpan.lo with
      | false =>
          rw [hunjoined (by rw [hof]; rintro _ ⟨⟩; exact hpicked), Option.toList_some,
            List.filter_cons_of_neg (by rw [hpicked]; decide)]
          rfl
      | true =>
          have hmade := (isMadeAt_nameSpan h hc).symm.trans hpicked
          obtain ⟨p, -, hchanges⟩ :=
            call_of_isMade h hds hreads hc (huncut c hc hmade) hmade he hof
          rw [hchanges, Option.toList_some, List.filter_cons_of_pos (by rw [hpicked])]
          simp only [List.filter_nil, List.flatMap_cons, List.flatMap_nil, List.append_nil,
            Chain.edits_inRoot]

theorem made_changes (h : (Module.ofText file text .empty).1 = .ok m)
    (hds : lintText file levels text = .ok ds) (hreads : Reads file text m fs ws) :
    (((Suggestion.made (ds.flatMap Diagnostic.suggestions)).flatMap Suggestion.parts).map
        Edit.change).Perm
      ((fs.flatMap fun f => f.body.calls).flatMap
        (Expr.changes (isMadeAt file text m ds) text)) := by
  refine ((made_parts h hds).map _).trans (List.Perm.of_eq ?_)
  have hpicked : (chains (Analysis.ofModule m)).filter
      (Chain.isMade file text ds) =
      (chains (Analysis.ofModule m)).filter fun c =>
        isMadeAt file text m ds
          (c.erase Span.inRoot).nameSpan.lo :=
    List.filter_congr fun c hc => (isMadeAt_nameSpan h hc).symm
  calc (((chains (Analysis.ofModule m)).filter
          (Chain.isMade file text ds)).flatMap (Chain.edits text)).map Edit.change
    _ = (((chains (Analysis.ofModule m)).map (Chain.erase Span.inRoot)).filter fun c =>
          isMadeAt file text m ds c.nameSpan.lo).flatMap
            fun c => (c.edits text).map Edit.change := by
        rw [hpicked, List.map_flatMap, List.filter_map, List.flatMap_map]
        exact List.flatMap_congr fun c _ => (c.edits_inRoot text).symm
    _ = (fs.flatMap fun f => f.body.calls).flatMap
        (Expr.changes (isMadeAt file text m ds) text) := by
        rw [hreads.chains, builtChains, List.filterMap_eq_flatMap_toList, List.filter_flatMap,
          List.flatMap_assoc]
        exact List.flatMap_congr fun e he => (changes_of_call huncut h hds hreads he).symm

theorem parse_fixed (h : (Module.ofText file text .empty).1 = .ok m)
    (hds : lintText file levels text = .ok ds) (hreads : Reads file text m fs ws) :
    ∃ (g : Placing) (tokens : List Token),
      Surface.parse (Suggestion.applyAll text (ds.flatMap Diagnostic.suggestions)).1 =
        .ok (⟨(fs.map (Function.join (isMadeAt file text m ds))).map (Surface.Function.place g)⟩,
          tokens) := by
  obtain ⟨s, hcuts, hblank⟩ := hreads.cuts
  obtain ⟨vs, hfs, cs, hmoves, hcs⟩ := hreads.spells.join (isMadeAt file text m ds) text
  have hin : ∀ e ∈ (Suggestion.made (ds.flatMap Diagnostic.suggestions)).flatMap Suggestion.parts,
      0 ≤ e.span.lo ∧ 0 ≤ e.span.hi := by
    intro e he
    obtain ⟨c, hc, he⟩ := List.mem_flatMap.mp ((made_parts h hds).mem_iff.mp he)
    have := (Chain.laid h (List.mem_of_mem_filter hc)).edits_within e he
    unfold Edit.Within at this
    omega
  exact hmoves.parse hcuts hblank hin ((made_changes huncut h hds hreads).trans hcs.symm) hfs

end

theorem builds_joined (hreads : Reads file text m fs ws) (picks : Int → Bool) (g : Placing) :
    (((fs.map (Function.join picks)).map (Surface.Function.place g)).all
      fun f => Builds.block f.body) = true := by
  rw [List.map_map, List.all_map, ← hreads.builds]
  refine List.all_congr rfl fun f => ?_
  exact (Builds.block_place g _).trans (builds_joinBlock _ f.body)

theorem erase_of_joined (hreads : Reads file text m fs ws) {picks : Int → Bool}
    (hready : ∀ e ∈ fs.flatMap fun f => f.body.calls, Ready picks file e) {g : Placing}
    {m' : Tree.Module} (hfile : m'.file = file)
    (hfunctions : m'.functions.map (Function.erase Span.inRoot) =
      ((fs.map (Function.join picks)).map (Surface.Function.place g)).map (Plain.function file)) :
    m'.erase unplaced = (m.mergeChains picks).erase unplaced := by
  have hmerged : (m'.functions.map (Function.erase Span.inRoot)).map (Function.erase unplaced) =
      ((m.functions.map (Function.erase Span.inRoot)).map (Function.mergeChains picks)).map
        (Function.erase unplaced) := by
    rw [hfunctions, hreads.functions]
    simp only [List.map_map]
    refine List.map_congr_left fun f hf => ?_
    refine (Plain.function_place (respans_unplaced file g) _).trans ?_
    have hbody := mergeBlock_join picks file f.body fun c hc =>
      hready c (List.mem_flatMap.mpr ⟨f, hf, hc⟩)
    exact congrArg (fun b => Tree.Function.mk _ _ _ b _) hbody
  calc m'.erase unplaced
    _ = (m'.erase Span.inRoot).erase unplaced := (Module.erase_erase Span.inRoot unplaced m').symm
    _ = ((m.erase Span.inRoot).mergeChains picks).erase unplaced :=
        congrArg₂ (fun o gs => Tree.Module.mk _ o gs) (hfile.trans hreads.file.symm) hmerged
    _ = ((m.mergeChains picks).erase Span.inRoot).erase unplaced := by
        rw [Module.erase_mergeChains picks (show ∀ s, (Span.inRoot s).lo = s.lo from fun _ => rfl)]
    _ = (m.mergeChains picks).erase unplaced := Module.erase_erase Span.inRoot unplaced _

/-- The fixed text parses, to the tree in which the chains that were merged are merged, if no edit
cuts parentheses apart. -/
theorem ofText_fixed (h : (Module.ofText file text .empty).1 = .ok m)
    (hds : lintText file levels text = .ok ds)
    (huncut : ∀ c ∈ chains (Analysis.ofModule m),
      c.isMade file text ds = true → c.Uncut text) :
    ∃ m', (Module.ofText file (Suggestion.applyAll text (ds.flatMap Diagnostic.suggestions)).1
        .empty).1 = .ok m' ∧
      m'.erase unplaced = (m.mergeChains (isMadeAt file text m ds)).erase unplaced := by
  obtain ⟨fs, ws, hreads⟩ := Module.exists_reads h
  obtain ⟨g, tokens, hparse⟩ := parse_fixed huncut h hds hreads
  obtain ⟨m', hm', hfile, hfunctions⟩ :=
    Module.ofText_of_parse hparse (builds_joined hreads _ g) .empty
  have hready := ready_of_uncut huncut h hds hreads
  exact ⟨m', hm', erase_of_joined hreads hready hfile hfunctions⟩

theorem exists_ofText_fixed :
    let text := "fn f(o: Option<i32>) { o.map(g).unwrap_or(1); }".toList
    ∃ m ds, (Module.ofText none text .empty).1 = .ok m ∧ lintText none {} text = .ok ds ∧
      (∃ c ∈ chains (Analysis.ofModule m), c.isMade none text ds = true) ∧
      (∀ c ∈ chains (Analysis.ofModule m), c.isMade none text ds = true → c.Uncut text) ∧
      ∃ m', (Module.ofText none (Suggestion.applyAll text (ds.flatMap Diagnostic.suggestions)).1
          .empty).1 = .ok m' ∧
        m'.erase unplaced = (m.mergeChains (isMadeAt none text m ds)).erase unplaced := by
  intro text
  have hchecked : ((Module.ofText none text .empty).1.toOption.bind fun m =>
      (lintText none {} text).toOption.map fun ds =>
        ((chains (Analysis.ofModule m)).any (Chain.isMade none text ds) &&
          decide (∀ c ∈ chains (Analysis.ofModule m), c.Uncut text))) = some true := by
    decide +kernel
  obtain ⟨m, hm, hchecked⟩ := Option.bind_eq_some_iff.mp hchecked
  obtain ⟨ds, hds, hchecked⟩ := Option.map_eq_some_iff.mp hchecked
  obtain ⟨hmade, huncut⟩ := Bool.and_eq_true_iff.mp hchecked
  have hm : (Module.ofText none text .empty).1 = .ok m := ok_of_toOption hm
  have hds : lintText none {} text = .ok ds := ok_of_toOption hds
  have huncut : ∀ c ∈ chains (Analysis.ofModule m), c.isMade none text ds = true → c.Uncut text :=
    fun c hc _ => of_decide_eq_true huncut c hc
  exact ⟨m, ds, hm, hds, List.any_eq_true.mp hmade, huncut, ofText_fixed hm hds huncut⟩

end ChainLint.MapUnwrapOr
