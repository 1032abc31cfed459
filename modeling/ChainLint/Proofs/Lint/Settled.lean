import ChainLint.Proofs.Lint.Fixing
import ChainLint.Proofs.Lint.Merged
import ChainLint.Proofs.Lint.Staying

namespace ChainLint

open Tree

namespace Analysis

theorem exists_mergeChains_injOn (picks : Int → Bool) (m : Module) :
    ∃ g, (ofModule m).module.mergeChains picks =
        (ofModule (m.mergeChains picks)).module.relabel (.following id g) ∧
      Set.InjOn g (Node.module (ofModule (m.mergeChains picks)).module).numbers := by
  obtain ⟨g, hg, htree⟩ := exists_mergeChains picks m
  exact ⟨g, htree, hg.injOn⟩

end Analysis

namespace MapUnwrapOr

structure Chain.TypedAlike (a : Analysis) (c : Chain) (a' : Analysis) (c' : Chain) : Prop where
  receiver : a'.typeOf c'.receiver = a.typeOf c.receiver
  mapCall : a'.typeOf c'.mapCall = a.typeOf c.mapCall
  fallback : a'.typeOf c'.fallback = a.typeOf c.fallback

section

variable {picks : Int → Bool} {m : Module} {c d : Chain}

def FallbacksClear (picks : Int → Bool) (cs : List Chain) : Prop :=
  ∀ c ∈ cs, picks c.nameSpan.lo = true → ∀ d ∈ cs, picks d.nameSpan.lo = false →
    d.whole.id ∉ c.fallback.ids

theorem staysInPlace_whole (hclear : FallbacksClear picks (chains (Analysis.ofModule m)))
    (hd : d ∈ chains (Analysis.ofModule m)) (hpick : picks d.nameSpan.lo = false) :
    StaysInPlace picks (.module (Analysis.ofModule m).module) d.whole := by
  intro c hc hpicked
  refine ⟨?_, fun hin => hclear c hc hpicked d hd hpick (List.mem_map_of_mem hin)⟩
  intro heq
  obtain ⟨i, j, receiver, mapper, fallback, s, hparts, -⟩ := (Chain.of_mem hc).2
  obtain ⟨i', j', receiver', mapper', fallback', s', -, hwhole⟩ := (Chain.of_mem hd).2
  rw [hwhole, hparts] at heq
  injection heq with heq
  injection heq with _ _ hname
  exact absurd hname (by decide)

theorem staysInPlace_fallback (hclear : FallbacksClear picks (chains (Analysis.ofModule m)))
    (hd : d ∈ chains (Analysis.ofModule m)) (hpick : picks d.nameSpan.lo = false) :
    StaysInPlace picks (.module (Analysis.ofModule m).module) d.fallback := by
  have hordered := Analysis.ordered_module m
  obtain ⟨hdmem, hdat⟩ := Chain.of_mem hd
  intro c hc hpicked
  have hc : c ∈ chains (Analysis.ofModule m) := hc
  obtain ⟨hcmem, hcat⟩ := Chain.of_mem hc
  have hne : d.whole ≠ c.whole := by
    intro heq
    have := (heq ▸ hdat).unique hcat
    rw [this, hpicked] at hpick
    cases hpick
  constructor
  · intro heq
    exact hne (hordered.eq_of_child hdmem hcmem hdat.fallback (heq ▸ hcat.mapCall.1))
  · intro hin
    rcases hordered.mem_of_child hdmem hcmem hcat.fallback hin hdat.fallback with heq | hwhole
    · exact hne heq
    · exact hclear c hc hpicked d hd hpick (List.mem_map_of_mem hwhole)

theorem namesNone_mergeChains {n : Node} (h : namesNone n = true) :
    namesNone (n.mergeChains picks) = true := by
  unfold namesNone at h
  split at h
  · exact h
  · cases h

theorem reportable_of_mergeChains (hclear : FallbacksClear picks (chains (Analysis.ofModule m)))
    (hnone : FallsToPath picks (.module (Analysis.ofModule m).module))
    (hd : d ∈ chains (Analysis.ofModule m)) (hpick : picks d.nameSpan.lo = false) {g : NodeId → NodeId}
    (htree : (Analysis.ofModule m).module.mergeChains picks =
      (Analysis.ofModule (m.mergeChains picks)).module.relabel (.following id g))
    (hinj : Set.InjOn g (Node.module (Analysis.ofModule (m.mergeChains picks)).module).numbers)
    {d' : Chain} (hd' : d' ∈ chains (Analysis.ofModule (m.mergeChains picks)))
    (heq : d'.relabel (.following id g) = d.mergeChains picks)
    (htypes : d.TypedAlike (Analysis.ofModule m) (Analysis.ofModule (m.mergeChains picks)) d')
    (hr : Reportable (Analysis.ofModule (m.mergeChains picks)) d') :
    Reportable (Analysis.ofModule m) d := by
  have hfallback : d'.fallback.relabel (.following id g) = d.fallback.mergeChains picks :=
    congrArg Chain.fallback heq
  refine ⟨htypes.receiver ▸ hr.receiver, fun hnames => ?_, ?_, ?_⟩
  · refine htypes.mapCall ▸ hr.fallback ?_
    rw [← namesNone_relabel (f := id) (g := g), hfallback]
    exact namesNone_mergeChains hnames
  · refine htypes.fallback ▸ hr.movable.imp_right fun hmovable => ?_
    obtain ⟨hmem, hat⟩ := Chain.of_mem hd'
    have hroot : (Node.module (Analysis.ofModule (m.mergeChains picks)).module).relabel
        (.following id g) = (Node.module (Analysis.ofModule m).module).mergeChains picks :=
      congrArg Node.module htree.symm
    have hmerged := (movable_relabel (f := id) hinj (Analysis.ordered_module _) hmem hat).mpr hmovable
    rw [heq, hroot] at hmerged
    exact hmerged.of_mergeChains (staysInPlace_whole hclear hd hpick)
      (staysInPlace_fallback hclear hd hpick) hnone
  · intro i name args hcall
    rw [hcall] at hfallback
    cases hf : d'.fallback with
    | expr e =>
        rw [hf] at hfallback
        cases e with
        | macroCall i' name' args' => exact hr.written i' name' args' hf
        | _ => cases hfallback
    | _ =>
        rw [hf] at hfallback
        cases hfallback

theorem exists_of_map_eq {α β γ : Type} {f : α → γ} {f' : β → γ} {l : List α} {l' : List β}
    (h : l.map f = l'.map f') {k : Nat} {x : α} (hx : l[k]? = some x) :
    ∃ y, l'[k]? = some y ∧ f x = f' y := by
  have hk := congrArg (·[k]?) h
  simp only [List.getElem?_map, hx, Option.map_some] at hk
  obtain ⟨y, hy, heq⟩ := Option.map_eq_some_iff.mp hk.symm
  exact ⟨y, hy, heq.symm⟩

theorem chains_relabelled (hclear : FallbacksClear picks (chains (Analysis.ofModule m)))
    {g : NodeId → NodeId} (htree : (Analysis.ofModule m).module.mergeChains picks =
      (Analysis.ofModule (m.mergeChains picks)).module.relabel (.following id g)) :
    (chains (Analysis.ofModule (m.mergeChains picks))).map (Chain.relabel (.following id g)) =
      ((chains (Analysis.ofModule m)).filter fun c => !picks c.nameSpan.lo).map
        (Chain.mergeChains picks) := by
  have hroot : (Node.module (Analysis.ofModule (m.mergeChains picks)).module).relabel
      (.following id g) = (Node.module (Analysis.ofModule m).module).mergeChains picks :=
    congrArg Node.module htree.symm
  have hpicked : ∀ c ∈ chains (Analysis.ofModule m), picks c.nameSpan.lo = true →
      ∀ d ∈ c.fallback.chains, picks d.nameSpan.lo = true := by
    intro c hc hpick d hd
    rw [← Bool.not_eq_false]
    intro hleft
    obtain ⟨hcmem, hat⟩ := Chain.of_mem hc
    have hin := Node.mem_preorder_trans (Node.mem_preorder_of_child hat.fallback
      (Node.mem_preorder_self _)) hcmem
    exact hclear c hc hpick d (Node.chains_sub hin hd) hleft (List.mem_map_of_mem (Chain.of_mem hd).1)
  have hchains := chains_mergeChains (.module (Analysis.ofModule m).module) hpicked
  rw [← hroot, Chain.chains_relabel] at hchains
  exact hchains

theorem not_reportable_of_merged (hclear : FallbacksClear picks (chains (Analysis.ofModule m)))
    (hnone : FallsToPath picks (.module (Analysis.ofModule m).module))
    (hall : ∀ c ∈ chains (Analysis.ofModule m), Reportable (Analysis.ofModule m) c →
      picks c.nameSpan.lo = true) {m' : Module}
    (herase : m'.erase unplaced = (m.mergeChains picks).erase unplaced)
    (htypes : ∀ p ∈ ((chains (Analysis.ofModule m)).filter fun c => !picks c.nameSpan.lo).zip
      (chains (Analysis.ofModule m')),
      p.1.TypedAlike (Analysis.ofModule m) (Analysis.ofModule m') p.2) :
    ∀ c' ∈ chains (Analysis.ofModule m'), ¬ Reportable (Analysis.ofModule m') c' := by
  intro c' hc' hr
  obtain ⟨g, htree, hinj⟩ := Analysis.exists_mergeChains_injOn picks m
  have hchains : (chains (Analysis.ofModule m')).map (Chain.relabel (.following unplaced id)) =
      (chains (Analysis.ofModule (m.mergeChains picks))).map
        (Chain.relabel (.following unplaced id)) := by
    rw [← chains_erase, ← chains_erase, herase]
  obtain ⟨k, hk⟩ := List.getElem?_of_mem hc'
  obtain ⟨c, hc, hplace⟩ := exists_of_map_eq hchains hk
  obtain ⟨d, hd, hnumber⟩ := exists_of_map_eq (chains_relabelled hclear htree) hc
  have hcmem := List.mem_of_getElem? hc
  obtain ⟨hdmem, hleft⟩ := List.mem_filter.mp (List.mem_of_getElem? hd)
  have htyped := htypes (d, c') (List.mem_of_getElem? (List.getElem?_zip_eq_some.mpr ⟨hd, hk⟩))
  have hpick : picks d.nameSpan.lo = false := by simpa using hleft
  have hsame {v v' : Node} (hv : v'.relabel (.following unplaced id) =
      v.relabel (.following unplaced id)) : (Analysis.ofModule (m.mergeChains picks)).typeOf v =
        (Analysis.ofModule m').typeOf v' := by
    rw [← Analysis.typeOf_erase unplaced (m.mergeChains picks), ← Analysis.typeOf_erase unplaced m',
      herase, hv]
  have hmerged : Reportable (Analysis.ofModule (m.mergeChains picks)) c := by
    rw [← reportable_erase hc', hplace, herase, reportable_erase hcmem] at hr
    exact hr
  have hbefore := reportable_of_mergeChains hclear hnone hdmem hpick htree hinj hcmem hnumber
    ⟨(hsame (congrArg Chain.receiver hplace)).trans htyped.receiver,
      (hsame (congrArg Chain.mapCall hplace)).trans htyped.mapCall,
      (hsame (congrArg Chain.fallback hplace)).trans htyped.fallback⟩ hmerged
  rw [hall d hdmem hbefore] at hpick
  cases hpick

end

/-- After all that was suggested is made, the lint reports nothing more, if no edit cuts parentheses
apart and the chains that it declined are left as they were: they have the types that they had, none of
them stands in the fallback of a chain that is merged, and no such fallback is a local called `None`. -/
theorem lintText_of_all_made {file : Option String} {text : List Char} {m : Module}
    {levels : LintLevels} {ds : List Diagnostic} (h : (Module.ofText file text .empty).1 = .ok m)
    (hds : lintText file levels text = .ok ds)
    (hall : (Suggestion.applyAll text (ds.flatMap Diagnostic.suggestions)).2 = ds.length)
    (huncut : ∀ c ∈ chains (Analysis.ofModule m), c.isMade file text ds = true → c.Uncut text)
    (hfallbacks : ∀ c ∈ chains (Analysis.ofModule m), c.isMade file text ds = true →
      (fallsToNone c.fallback = true → namesNone c.fallback = true) ∧
        ∀ d ∈ chains (Analysis.ofModule m), d.isMade file text ds = false →
          d.whole.id ∉ c.fallback.ids) :
    let fixed := (Suggestion.applyAll text (ds.flatMap Diagnostic.suggestions)).1
    let declined := (chains (Analysis.ofModule m)).filter fun c => !c.isMade file text ds
    ∃ m', (Module.ofText file fixed .empty).1 = .ok m' ∧
      (chains (Analysis.ofModule m')).length = declined.length ∧
      ((∀ p ∈ declined.zip (chains (Analysis.ofModule m')),
          p.1.TypedAlike (Analysis.ofModule m) (Analysis.ofModule m') p.2) →
        lintText file levels fixed =
          if (Analysis.ofModule m').typing.longField then .error .longInteger else .ok []) := by
  intro fixed declined
  obtain ⟨fs, ws, hreads⟩ := Module.exists_reads h
  obtain ⟨g, tokens, hparse⟩ := parse_fixed huncut h hds hreads
  obtain ⟨m', hm', hfile, hfunctions⟩ :=
    Module.ofText_of_parse hparse (builds_joined hreads _ g) .empty
  have herase := erase_of_joined hreads (ready_of_uncut huncut h hds hreads) hfile hfunctions
  have hpicks (c : Chain) (hc : c ∈ chains (Analysis.ofModule m)) :
      isMadeAt file text m ds c.nameSpan.lo = c.isMade file text ds := isMadeAt_nameSpan h hc
  have hdeclined : declined = (chains (Analysis.ofModule m)).filter fun c =>
      !isMadeAt file text m ds c.nameSpan.lo :=
    List.filter_congr fun c hc => by rw [hpicks c hc]
  have hclear : FallbacksClear (isMadeAt file text m ds) (chains (Analysis.ofModule m)) := by
    intro c hc hpick d hd hleft
    rw [hpicks c hc] at hpick
    rw [hpicks d hd] at hleft
    exact (hfallbacks c hc hpick).2 d hd hleft
  have hnone : FallsToPath (isMadeAt file text m ds) (.module (Analysis.ofModule m).module) := by
    intro c hc hpick
    have hc : c ∈ chains (Analysis.ofModule m) := hc
    exact (hfallbacks c hc (hpicks c hc ▸ hpick)).1
  refine ⟨m', hm', ?_, fun htypes => ?_⟩
  · obtain ⟨g, htree, -⟩ := Analysis.exists_mergeChains_injOn (isMadeAt file text m ds) m
    have hlength := congrArg List.length (chains_relabelled hclear htree)
    rw [List.length_map, List.length_map] at hlength
    have hchains := congrArg List.length (chains_erase unplaced m')
    rw [herase, chains_erase, List.length_map, List.length_map] at hchains
    rw [hdeclined, ← hlength, ← hchains]
  · have hsilent : run (Analysis.ofModule m') (Sources.empty.add file fixed) levels = [] := by
      classical
      cases hl : (levels.get code).severity? with
      | none => exact run_of_allow _ _ hl
      | some severity =>
          have hreported (c : Chain) (hc : c ∈ chains (Analysis.ofModule m))
              (hr : Reportable (Analysis.ofModule m) c) :
              isMadeAt file text m ds c.nameSpan.lo = true :=
            (hpicks c hc).trans (isMade_of_reportable h hds hl hall hc hr)
          have hnot := not_reportable_of_merged hclear hnone hreported herase (hdeclined ▸ htypes)
          rw [run_eq hm' _ hl, List.map_eq_nil_iff, List.filter_eq_nil_iff]
          exact fun c hc => by simpa using hnot c hc
    have hdepth : m'.depth ≤ maxDepth := by
      calc m'.depth
        _ = ((m.mergeChains (isMadeAt file text m ds)).erase unplaced).depth := by
            rw [← herase, Module.depth_erase]
        _ = (m.mergeChains (isMadeAt file text m ds)).depth := Module.depth_erase _ _
        _ ≤ m.depth := m.depth_mergeChains _
        _ ≤ maxDepth := ((lintText_eq_run_iff h).mp hds).1
    have hread : (Module.ofText file fixed .empty).1 = .ok m' := hm'
    simp only [lintText, hread, hsilent, if_neg (Nat.not_lt.mpr hdepth)]

theorem exists_lintText_of_all_made :
    let text := "fn f(o: Option<i32>) \x7b o.map(g).unwrap_or(1); v.map(g).unwrap_or(w); \x7d".toList
    ∃ m ds m', (Module.ofText none text .empty).1 = .ok m ∧ lintText none {} text = .ok ds ∧
      (Suggestion.applyAll text (ds.flatMap Diagnostic.suggestions)).2 = ds.length ∧ ds.length = 1 ∧
      (Module.ofText none (Suggestion.applyAll text (ds.flatMap Diagnostic.suggestions)).1
        .empty).1 = .ok m' ∧ (chains (Analysis.ofModule m')).length = 1 ∧
      lintText none {} (Suggestion.applyAll text (ds.flatMap Diagnostic.suggestions)).1 =
        .ok [] := by
  intro text
  let untyped (a : Analysis) (n : Node) : Bool := match a.typeOf n with
    | .unknown => true
    | _ => false
  have hunknown {a a' : Analysis} {n n' : Node} (h : untyped a n = true) (h' : untyped a' n' = true) :
      a'.typeOf n' = a.typeOf n := by
    have hone {a : Analysis} {n : Node} (h : untyped a n = true) : a.typeOf n = .unknown := by
      simp only [untyped] at h
      split at h
      · assumption
      · cases h
    rw [hone h, hone h']
  have hcheck : (do
      let m ← (Module.ofText none text .empty).1.toOption
      let ds ← (lintText none {} text).toOption
      let fixed := Suggestion.applyAll text (ds.flatMap Diagnostic.suggestions)
      let m' ← (Module.ofText none fixed.1 .empty).1.toOption
      let a := Analysis.ofModule m
      let a' := Analysis.ofModule m'
      return decide ((fixed.2 = ds.length ∧ ds.length = 1 ∧ (chains a').length = 1) ∧
        (∀ c ∈ chains a, c.Uncut text) ∧
        (∀ c ∈ chains a, c.isMade none text ds = true → fallsToNone c.fallback = false ∧
          ∀ d ∈ chains a, d.isMade none text ds = false → d.whole.id ∉ c.fallback.ids) ∧
        (∀ p ∈ ((chains a).filter fun c : Chain => !c.isMade none text ds).zip (chains a'),
          (untyped a p.1.receiver = true ∧ untyped a' p.2.receiver = true) ∧
            (untyped a p.1.mapCall = true ∧ untyped a' p.2.mapCall = true) ∧
            untyped a p.1.fallback = true ∧ untyped a' p.2.fallback = true) ∧
        a'.typing.longField = false)) = some true := by
    decide +kernel
  obtain ⟨m, hm, hcheck⟩ := Option.bind_eq_some_iff.mp hcheck
  obtain ⟨ds, hds, hcheck⟩ := Option.bind_eq_some_iff.mp hcheck
  obtain ⟨m', hm', hcheck⟩ := Option.bind_eq_some_iff.mp hcheck
  obtain ⟨⟨hall, hone, hleft⟩, huncut, hfallbacks, htypes, hlong⟩ :=
    of_decide_eq_true (Option.some.inj hcheck)
  have hm : (Module.ofText none text .empty).1 = .ok m := ok_of_toOption hm
  have hds : lintText none {} text = .ok ds := ok_of_toOption hds
  have hm' := ok_of_toOption hm'
  obtain ⟨m'', hm'', -, hsilent⟩ := lintText_of_all_made hm hds hall (fun c hc _ => huncut c hc)
    fun c hc hmade => ⟨fun hfalls => absurd hfalls (by simp [(hfallbacks c hc hmade).1]),
      (hfallbacks c hc hmade).2⟩
  have hsame : m'' = m' := Except.ok.inj (hm''.symm.trans hm')
  rw [hsame] at hsilent
  have hsilent := hsilent fun p hp => by
    obtain ⟨⟨hr, hr'⟩, ⟨hm, hm'⟩, hf, hf'⟩ := htypes p hp
    exact ⟨hunknown hr hr', hunknown hm hm', hunknown hf hf'⟩
  rw [hlong] at hsilent
  exact ⟨m, ds, m', hm, hds, hall, hone, hm', hleft, hsilent⟩

end MapUnwrapOr

end ChainLint
