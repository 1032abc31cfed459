import ChainLint.Proofs.Lint.Choosing
import ChainLint.Proofs.Lint.Forking
import ChainLint.Proofs.Lint.Merged
import ChainLint.Proofs.Lint.Staying
import ChainLint.Proofs.Ty.Skipped

namespace ChainLint

open Tree

namespace MapUnwrapOr

open Infer

section

variable {m : Tree.Module} {i j : Info} {receiver mapper fallback : Expr} {ns s : Span}

theorem uses_fallback (h : .expr (.methodCall i (.methodCall j receiver "map" ns [mapper]) "unwrap_or" s
      [fallback]) ∈ (Node.module (Analysis.ofModule m).module).preorder) :
    Uses (· ∉ (Node.expr mapper).ids) (.expr fallback) := by
  let n : Node := .expr (.methodCall i (.methodCall j receiver "map" ns [mapper]) "unwrap_or" s [fallback])
  let mapCall : Node := .expr (.methodCall j receiver "map" ns [mapper])
  have hroot := Analysis.ordered_module m
  have hfallback : .expr fallback ∈ n.children := List.mem_cons_of_mem _ List.mem_cons_self
  have hmapper : Node.expr mapper ∈ mapCall.children := List.mem_cons_of_mem _ List.mem_cons_self
  have hne : mapCall ≠ .expr fallback :=
    (List.pairwise_cons.mp (hroot.of_mem h).children_nodup).1 _ List.mem_cons_self
  refine ⟨fun _ _ => trivial, fun i' name binding hv => ?_⟩
  cases binding with
  | none => trivial
  | some b =>
      intro hb
      have hin := Node.mem_preorder_trans (Node.mem_preorder_of_child hfallback hv) h
      obtain ⟨τ, hr, hfind⟩ := Node.reaches_of_mem_resolve (n := .module (m.number 1).1) (σ := [])
        (fun _ => rfl) hin
      refine hr.apart hroot h (fun _ _ hs => ?_) hfallback hv List.mem_cons_self hne
        (Scope.mem_of_find? hfind.symm) ?_
      · cases hs
        rfl
      · rw [Node.ids_eq]
        exact List.mem_cons_of_mem _ ((Node.ids_sublist_idsOf hmapper).subset hb)

end

section

variable {i j : Info} {receiver mapper fallback : Expr} {ns s : Span} {name : String}
  {args : List Expr} {x : Expected} {σ σ' τ τ' : Typing} {t : Ty}

theorem extends_receiver (i : Info) (name : String) (s : Span) (args : List Expr) (x : Expected) :
    Extends ((expr receiver .nothing).run σ).2
      ((expr (.methodCall i receiver name s args) x).run σ).2 :=
  (extends_exprs args _ _ _).trans (extends_record (.methodCall i receiver name s args) _ _)

theorem run_method {rule : CallRule} (hreceiver : (expr receiver .nothing).run σ = (.option t, σ'))
    (hrule : CallRule.ofMethod (.option t) name args.length = rule) :
    let parts := (exprs args rule.first rule.others).run σ'
    (expr (.methodCall i receiver name s args) x).run σ =
      (rule.result parts.1, parts.2.setExpr i.id (rule.result parts.1)) := by
  intro parts
  rw [expr]
  change (let rule := CallRule.ofMethod ((expr receiver .nothing).run σ).1.peel name args.length
    let parts := (exprs args rule.first rule.others).run ((expr receiver .nothing).run σ).2
    (rule.result parts.1, parts.2.setExpr i.id (rule.result parts.1))) = _
  rw [hreceiver]
  change (let rule := CallRule.ofMethod (.option t) name args.length
    let parts := (exprs args rule.first rule.others).run σ'
    (rule.result parts.1, parts.2.setExpr i.id (rule.result parts.1))) = _
  rw [hrule]

theorem shares_mapper (mapper : Expr) (x : Expected) (σ : Typing) (i : NodeId) (ty : Ty) :
    Shares (· ∉ (Node.expr mapper).ids) (((expr mapper x).run σ).2.setExpr i ty) σ := by
  have hasks : (Node.expr mapper).Asks (· ∈ (Node.expr mapper).ids) (fun _ => True) fun _ => True := by
    refine ⟨fun _ hi => hi, fun _ _ binding _ => ?_⟩
    cases binding <;> trivial
  have hkeeps := relates_expr (framing (f := id) _) mapper hasks x σ
  exact ⟨fun b hb => (hkeeps.bindings b hb).symm, hkeeps.functions.symm⟩

theorem exists_retyped (hkeys : (τ.exprs.map Prod.fst).Nodup) (hkeys' : (τ'.exprs.map Prod.fst).Nodup)
    (hreceiver : τ.found receiver = .option t)
    (huses : Uses (· ∉ (Node.expr mapper).ids) (.expr fallback))
    (hchain : Extends ((expr (.methodCall i (.methodCall j receiver "map" ns [mapper]) "unwrap_or" s
      [fallback]) x).run σ).2 τ) :
    ∃ ty, τ.exprType? i.id = some ty ∧
      (Extends ((expr (.methodCall i receiver "and_then" ns [mapper]) x).run σ).2 τ' →
        τ'.exprType? i.id = some ty) ∧
      (Extends ((expr (.methodCall i receiver "map_or" ns [fallback, mapper]) x).run σ).2 τ' →
        τ'.exprType? i.id = some (τ.unaided fallback)) := by
  have hmapped := (extends_receiver i "unwrap_or" s [fallback] x).trans hchain
  have hstart := (extends_receiver j "map" ns [mapper] .nothing).trans hmapped
  let start := ((expr receiver .nothing).run σ).2
  have hoption : (expr receiver .nothing).run σ = (.option t, start) :=
    Prod.ext ((found_expr hkeys hstart).symm.trans hreceiver) rfl
  let mapped := (expr mapper (.callable [t])).run start
  let ty := mapped.1.callResult
  let before := mapped.2.setExpr j.id (.option ty)
  have hmap : (expr (.methodCall j receiver "map" ns [mapper]) .nothing).run σ =
      (.option ty, before) := run_method hoption rfl
  have hunwrap : (expr (.methodCall i (.methodCall j receiver "map" ns [mapper]) "unwrap_or" s
      [fallback]) x).run σ =
        (ty, ((expr fallback (.type ty)).run before).2.setExpr i.id ty) := run_method hmap rfl
  refine ⟨ty, ?_, fun hand => ?_, fun hor => ?_⟩
  · have htype := exprType?_expr hkeys hchain
    rw [hunwrap] at htype
    exact htype
  · have htype := exprType?_expr hkeys' hand
    rw [run_method hoption rfl] at htype
    exact htype
  · have htype := exprType?_expr hkeys' hor
    rw [run_method hoption rfl] at htype
    rw [hunwrap] at hchain
    have hfallback : Extends ((expr fallback (.type ty)).run before).2 τ :=
      (extends_setExpr _ i.id ty).trans hchain
    exact htype.trans (congrArg some (run_expr hkeys fallback huses rfl
      (shares_mapper mapper (.callable [t]) start j.id (.option ty)) hfallback))

end

section

variable {picks : Int → Bool} {k : NodeId} {i j : Info} {receiver mapper fallback : Expr}
  {ns s : Span} {name : String}

theorem expr_call (args : List Expr) (hname : name ≠ "unwrap_or") (hi : i.id ≠ k)
    (hreceiver : (Node.expr receiver).Throughout (Node.Bystander picks k))
    (hargs : ∀ d ∈ args.map Node.expr, d.Throughout (Node.Bystander picks k)) (x : Expected) :
    expr (.methodCall i receiver name ns args) x =
      expr (.methodCall i (receiver.mergeChains picks) name ns (mergeExprs picks args)) x := by
  have hnot : ∀ d, Chain.IsAt d (.expr (.methodCall i receiver name ns args)) →
      picks d.nameSpan.lo = false := by
    intro d hd
    have hsome : Chain.ofExpr? (.methodCall i receiver name ns args) = some d :=
      Chain.ofNode?_eq_some_iff.mpr hd
    rw [ofExpr?_of_name hname] at hsome
    cases hsome
  rw [← mergeChains_call picks hnot]
  refine departs_expr (L := equality k) _ (fun v hv => .inl ?_) x
  rw [Node.preorder_eq, List.mem_cons, List.mem_flatMap] at hv
  rcases hv with rfl | ⟨d, hd, hv⟩
  · exact ⟨hi, hnot⟩
  · rcases List.mem_cons.mp hd with rfl | hd
    · exact hreceiver v hv
    · exact hargs d hd v hv

theorem expr_mergeChains (hpick : picks ns.lo = true) (hi : i.id ≠ k)
    (hbelow : ∀ d ∈ (Node.expr (.methodCall i (.methodCall j receiver "map" ns [mapper]) "unwrap_or" s
      [fallback])).children, d.Throughout (Node.Bystander picks k)) (x : Expected) :
    expr ((Expr.methodCall i (.methodCall j receiver "map" ns [mapper]) "unwrap_or" s
      [fallback]).mergeChains picks) x =
      if isNonePath fallback then expr (.methodCall i receiver "and_then" ns [mapper]) x
      else expr (.methodCall i receiver "map_or" ns [fallback, mapper]) x := by
  obtain ⟨hmap, hfallback⟩ := List.forall_mem_cons.mp hbelow
  obtain ⟨hreceiver, hmapper⟩ := List.forall_mem_cons.mp hmap.children
  rw [mergeChains_chain, if_pos hpick]
  split
  · exact (expr_call [mapper] (by decide) hi hreceiver hmapper x).symm
  · refine (expr_call [fallback, mapper] (by decide) hi hreceiver ?_ x).symm
    exact List.forall_mem_cons.mpr ⟨hfallback _ List.mem_cons_self, hmapper⟩

end

section

variable {m : Tree.Module} {picks : Int → Bool} {c : Chain} {t : Ty}

theorem id_ne_zero {n : Node} (hn : n ∈ (Node.module (Analysis.ofModule m).module).preorder) :
    n.id ≠ 0 := by
  have hids := m.number_consecutive 1
  rw [← Node.ids_resolve (.module (m.number 1).1) []] at hids
  exact Int.ne_of_gt (hids.le_of_mem (List.mem_map_of_mem hn))

theorem bystanders (hmem : c.whole ∈ (Node.module (Analysis.ofModule m).module).preorder)
    (hone : ∀ d ∈ chains (Analysis.ofModule m), picks d.nameSpan.lo = true → d.whole = c.whole) :
    (Node.module (Analysis.ofModule m).module).Throughout fun v =>
      v = c.whole ∨ v.Bystander picks c.whole.id := by
  intro v hv
  by_cases heq : v.id = c.whole.id
  · exact .inl ((Analysis.ordered_module m).eq_of_id hv hmem heq)
  · refine .inr ⟨heq, fun d hd => ?_⟩
    rw [← Bool.not_eq_true]
    intro hpicked
    have hmemd : d ∈ chains (Analysis.ofModule m) :=
      List.mem_filterMap.mpr ⟨v, hv, Chain.ofNode?_eq_some_iff.mpr hd⟩
    exact heq (congrArg Node.id (hd.whole.symm.trans (hone d hmemd hpicked)))

theorem bystanders_below (hmem : c.whole ∈ (Node.module (Analysis.ofModule m).module).preorder)
    (hone : ∀ d ∈ chains (Analysis.ofModule m), picks d.nameSpan.lo = true → d.whole = c.whole) :
    ∀ d ∈ c.whole.children, d.Throughout (Node.Bystander picks 0) := by
  intro d hd v hv
  have hin := Node.mem_preorder_trans (Node.mem_preorder_of_child hd hv) hmem
  refine ⟨id_ne_zero hin, ?_⟩
  rcases bystanders hmem hone v hin with rfl | hbystander
  · have := Node.length_preorder_lt hd
    have := Node.length_preorder_le hv
    omega
  · exact hbystander.2

theorem exprs_mergeChains_nodup :
    ((Typing.ofModule ((Analysis.ofModule m).module.mergeChains picks)).exprs.map Prod.fst).Nodup := by
  obtain ⟨l, hl, hsub⟩ := Node.ids_mergeChains picks (.module (Analysis.ofModule m).module)
  have hids : (Node.module ((m.number 1).1.mergeChains picks).resolve).ids.Nodup := by
    rw [Module.resolve_mergeChains]
    exact hl.nodup_iff.mp (hsub.nodup (Analysis.ids_nodup m))
  have hkeys := Typing.exprs_nodup hids
  rwa [Module.resolve_mergeChains] at hkeys

theorem exists_types (hc : c ∈ chains (Analysis.ofModule m)) (hpick : picks c.nameSpan.lo = true)
    (hone : ∀ d ∈ chains (Analysis.ofModule m), picks d.nameSpan.lo = true → d.whole = c.whole)
    (hreceiver : (Analysis.ofModule m).typeOf c.receiver = .option t) :
    ∃ fallback ty, c.fallback = .expr fallback ∧
      (Analysis.ofModule m).typing.exprType? c.whole.id = some ty ∧
      (Typing.ofModule ((Analysis.ofModule m).module.mergeChains picks)).exprType? c.whole.id =
        some (match c.merges with
          | .andThen => ty
          | .mapOr => (Analysis.ofModule m).typing.unaided fallback) := by
  obtain ⟨hmem, hat⟩ := Chain.of_mem hc
  have hnodes := bystanders hmem hone
  have hbelow := bystanders_below hmem hone
  obtain ⟨i, j, receiver, mapper, fallback, s, hparts, hwhole⟩ := hat
  have hfound : (Analysis.ofModule m).typing.found receiver = .option t := by
    rw [hparts] at hreceiver
    exact hreceiver
  have hmerges : c.merges = if isNonePath fallback then .andThen else .mapOr := by
    rw [hparts]
    rfl
  rw [hwhole] at hmem hnodes hbelow ⊢
  have hknown := Analysis.isSome_of_part m hmem (Node.mem_preorder_of_child List.mem_cons_self
    (Node.mem_preorder_of_child List.mem_cons_self (Node.mem_preorder_self _)))
    (Typing.isSome_of_found hfound)
  have hi : i.id ≠ 0 := id_ne_zero hmem
  obtain ⟨σ, x, hchain, hmerged⟩ := Typing.exists_fork hnodes hknown
  rw [expr_mergeChains hpick hi hbelow] at hmerged
  obtain ⟨ty, hty, hand, hor⟩ := exists_retyped (Analysis.exprs_nodup m) exprs_mergeChains_nodup
    hfound (uses_fallback hmem) hchain
  refine ⟨fallback, ty, congrArg Chain.fallback hparts, hty, ?_⟩
  rw [hmerges]
  cases hnone : isNonePath fallback with
  | true =>
      rw [hnone] at hmerged
      exact hand hmerged
  | false =>
      rw [hnone] at hmerged
      exact hor hmerged

end

section

def Chain.only (c : Chain) (lo : Int) : Bool := lo == c.nameSpan.lo

def Chain.Becomes (m : Tree.Module) (c : Chain) (n : Node) : Prop :=
  (∀ d ∈ chains (Analysis.ofModule m), c.only d.nameSpan.lo = true → d = c) ∧
    n ∈ (Node.module (Analysis.ofModule (m.mergeChains c.only)).module).preorder ∧
    ∃ g, Function.Injective g ∧
      (Analysis.ofModule m).module.mergeChains c.only =
        (Analysis.ofModule (m.mergeChains c.only)).module.relabel (.following id g) ∧
      c.whole.mergeChains c.only = n.relabel (.following id g)

variable {file : Option String} {text : List Char} {m : Tree.Module} {levels : LintLevels}
  {ds : List Diagnostic} {d : Diagnostic} {c : Chain}

theorem stays_only (hc : c ∈ chains (Analysis.ofModule m))
    (hone : ∀ d ∈ chains (Analysis.ofModule m), c.only d.nameSpan.lo = true → d = c) :
    Stays c.only (.module (Analysis.ofModule m).module) c.whole := by
  intro d hd hpick
  obtain rfl := hone d hd hpick
  obtain ⟨-, hat⟩ := Chain.of_mem hc
  have hne {v : Node} (hv : v ∈ d.whole.children) : d.whole ≠ v := fun heq => by
    have := Node.length_preorder_lt hv
    rw [heq] at this
    exact Nat.lt_irrefl _ this
  exact ⟨hne hat.mapCall.1, fun _ => hne hat.fallback⟩

theorem exists_becomes (hc : c ∈ chains (Analysis.ofModule m))
    (hone : ∀ d ∈ chains (Analysis.ofModule m), c.only d.nameSpan.lo = true → d = c) :
    ∃ n, c.Becomes m n ∧ (Analysis.ofModule (m.mergeChains c.only)).typing.exprType? n.id =
      (Typing.ofModule ((Analysis.ofModule m).module.mergeChains c.only)).exprType? c.whole.id := by
  obtain ⟨g, hg, htree⟩ := Analysis.exists_mergeChains c.only m
  have hin := (stays_only hc hone).mem (Chain.of_mem hc).1
  have hpreorder : ((Node.module (Analysis.ofModule m).module).mergeChains c.only).preorder =
      (Node.module (Analysis.ofModule (m.mergeChains c.only)).module).preorder.map
        (Node.relabel (.following id g)) := by
    rw [← Node.preorder_relabel]
    exact congrArg (fun m => (Node.module m).preorder) htree
  rw [hpreorder] at hin
  obtain ⟨n, hn, hsame⟩ := List.mem_map.mp hin
  refine ⟨n, ⟨hone, hn, g, hg, htree, hsame.symm⟩, ?_⟩
  have hid := congrArg Node.id hsame
  rw [Node.id_relabel, Node.id_mergeChains] at hid
  have halike := (Typing.alike_relabel id hg
    (Analysis.ofModule (m.mergeChains c.only)).module).exprs n.id trivial
  rw [← htree] at halike
  rw [← hid]
  exact halike.symm

/-- The call that a reported chain is merged into has the type that the chain had, if it is `and_then`.
If it is `map_or` it has the type that the fallback has where nothing is expected of it, which need not
be that of the chain. -/
theorem exprType?_of_mem_lintText (h : (Module.ofText file text .empty).1 = .ok m)
    (hds : lintText file levels text = .ok ds) (hd : d ∈ ds) :
    ∃ c ∈ chains (Analysis.ofModule m), d.span = c.whole.span ∧
      ∃ n fallback ty, c.Becomes m n ∧ c.fallback = .expr fallback ∧
        (Analysis.ofModule m).typing.exprType? c.whole.id = some ty ∧
        (Analysis.ofModule (m.mergeChains c.only)).typing.exprType? n.id =
          some (match c.merge text with
            | .andThen => ty
            | .mapOr => (Analysis.ofModule m).typing.unaided fallback) := by
  obtain ⟨c, hc, hr, severity, rfl⟩ := exists_reportable_of_mem h hds hd
  have hone : ∀ d ∈ chains (Analysis.ofModule m), c.only d.nameSpan.lo = true → d = c :=
    fun d hd hpick => eq_of_nameSpan h hd hc (beq_iff_eq.mp hpick)
  obtain ⟨t, hreceiver⟩ := hr.receiver
  have hpick : c.only c.nameSpan.lo = true := beq_self_eq_true _
  obtain ⟨fallback, ty, hfallback, hty, hmerged⟩ := exists_types hc hpick
    (fun d hd hpick => congrArg Chain.whole (hone d hd hpick)) hreceiver
  obtain ⟨n, hbecomes, hsame⟩ := exists_becomes hc hone
  refine ⟨c, hc, rfl, n, fallback, ty, hbecomes, hfallback, hty, ?_⟩
  rw [hsame, hmerged, merge_eq h hc]

theorem exists_exprType?_of_each_merge :
    let text :=
      "fn f(o: Option<Option<u8>>) \x7b o.map(|v| v).unwrap_or(None); o.map(g).unwrap_or(1); \x7d".toList
    ∃ m ds, (Module.ofText none text .empty).1 = .ok m ∧ lintText none {} text = .ok ds ∧
      ds.map (fun d => d.suggestions.map Suggestion.message) =
        [[Merge.andThen.help], [Merge.mapOr.help]] ∧
      ∀ d ∈ ds, ∃ c ∈ chains (Analysis.ofModule m), d.span = c.whole.span ∧
        ∃ n fallback ty, c.Becomes m n ∧ c.fallback = .expr fallback ∧
          (Analysis.ofModule m).typing.exprType? c.whole.id = some ty ∧
          (Analysis.ofModule (m.mergeChains c.only)).typing.exprType? n.id =
            some (match c.merge text with
              | .andThen => ty
              | .mapOr => (Analysis.ofModule m).typing.unaided fallback) := by
  intro text
  obtain ⟨m, ds, hm, hds, hmessages⟩ := exists_of_checked text (fun ds =>
    ds.map (fun d => d.suggestions.map Suggestion.message) =
      [[Merge.andThen.help], [Merge.mapOr.help]]) (by decide +kernel)
  exact ⟨m, ds, hm, hds, hmessages, fun d hd => exprType?_of_mem_lintText hm hds hd⟩

example :
    ["fn f(o: Option<u8>) \x7b o.map(|v| v).unwrap_or(7) \x7d",
      "fn f(o: Option<u8>) \x7b o.map_or(7, |v| v) \x7d"].map (fun text =>
        (Module.ofText none text.toList .empty).1.toOption.bind fun m =>
          ((Analysis.ofModule m).typing.exprType? 6).map Ty.name) = [some "u8", some "i32"] := by
  decide +kernel

end

end MapUnwrapOr

end ChainLint
