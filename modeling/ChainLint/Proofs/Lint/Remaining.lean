import ChainLint.Proofs.Lint.Gist
import ChainLint.Proofs.Lint.Joining
import ChainLint.Proofs.Lint.Nested

namespace ChainLint

open Tree

namespace MapUnwrapOr.Chain

variable {c : Chain} {n : Node}

theorem IsAt.children (hat : c.IsAt n) : n.children = [c.mapCall, c.fallback] ∧
    c.mapCall.children = [c.receiver, c.mapper] := by
  obtain ⟨i, j, receiver, mapper, fallback, s, hc, rfl⟩ := hat
  rw [hc]
  exact ⟨rfl, rfl⟩

theorem IsAt.mem_chains (hat : c.IsAt n) : c ∈ n.chains :=
  List.mem_filterMap.mpr ⟨n, n.mem_preorder_self, ofNode?_eq_some_iff.mpr hat⟩

theorem IsAt.chains_mapCall (hat : c.IsAt n) :
    c.mapCall.chains = c.receiver.chains ++ c.mapper.chains := by
  obtain ⟨i, j, receiver, mapper, fallback, s, hc, -⟩ := hat
  have hnone : ofExpr? (.methodCall j receiver "map" c.nameSpan [mapper]) = none :=
    ofExpr?_of_name (by decide)
  have hnone : ofNode? (.expr (.methodCall j receiver "map" c.nameSpan [mapper])) = none := hnone
  rw [hc]
  refine (Node.chains_of_none hnone).trans ?_
  rw [Node.children, Expr.children, List.flatMap_cons, List.map_singleton, List.flatMap_singleton]

theorem IsAt.unique {d : Chain} (hat : c.IsAt n) (hat' : d.IsAt n) : c = d :=
  Option.some.inj ((ofNode?_eq_some_iff.mpr hat).symm.trans (ofNode?_eq_some_iff.mpr hat'))

theorem IsAt.ownsBody (hat : c.IsAt n) : n.ownsBody = false := by
  obtain ⟨i, j, receiver, mapper, fallback, s, -, rfl⟩ := hat
  rfl

theorem fallback_leaf (h : fallsToNone c.fallback = true) : c.fallback.preorder = [c.fallback] := by
  have hleaf : c.fallback.children = [] := by
    cases hf : c.fallback with
    | expr e =>
        rw [hf] at h
        cases e <;> first | rfl | cases h
    | _ =>
        rw [hf] at h
        cases h
  rw [Node.preorder_eq, hleaf]
  rfl

def remaining (c : Chain) : List Node :=
  if fallsToNone c.fallback then [c.receiver, c.mapper] else [c.receiver, c.fallback, c.mapper]

end MapUnwrapOr.Chain

namespace Tree

open MapUnwrapOr

theorem Node.below_induction {P : Node → Prop}
    (step : ∀ n, (∀ c ∈ n.children, ∀ v ∈ c.preorder, P v) → P n) (n : Node) : P n := by
  refine child_induction (P := fun n => ∀ v ∈ n.preorder, P v) (fun n ih v hv => ?_) n n
    (mem_preorder_self n)
  rcases mem_preorder_iff.mp hv with rfl | ⟨c, hc, hv⟩
  · exact step v ih
  · exact ih c hc v hv

section

variable (picks : Int → Bool)

def Node.mergeChains : Node → Node
  | .module m => .module (m.mergeChains picks)
  | .function f => .function (f.mergeChains picks)
  | .param p => .param p
  | .pat p => .pat p
  | .block b => .block (b.mergeChains picks)
  | .stmt s => .stmt (s.mergeChains picks)
  | .expr e => .expr (e.mergeChains picks)

theorem mergeExprs_eq (es : List Expr) : mergeExprs picks es = es.map (Expr.mergeChains picks) := by
  induction es with
  | nil => rfl
  | cons e es ih => rw [mergeExprs, ih, List.map_cons]

theorem mergeOption_eq (o : Option Expr) : mergeOption picks o = o.map (Expr.mergeChains picks) := by
  cases o <;> rfl

theorem mergeStmts_eq (ss : List Stmt) : mergeStmts picks ss = ss.map (Stmt.mergeChains picks) := by
  induction ss with
  | nil => rfl
  | cons s ss ih => rw [mergeStmts, ih, List.map_cons]

theorem exists_mergeChains_call (i : Info) (receiver : Expr) (name : String) (s : Span)
    (args : List Expr) : ∃ j r name' s' args',
      (Expr.methodCall i receiver name s args).mergeChains picks = .methodCall j r name' s' args' := by
  rw [Expr.mergeChains]
  cases hc : Chain.ofExpr? (.methodCall i (receiver.mergeChains picks) name s
      (mergeExprs picks args)) with
  | none => exact ⟨_, _, _, _, _, mergeChain_of_none picks hc⟩
  | some c =>
      obtain ⟨i', j, r, ns, f, s', a, he, -⟩ := ofExpr?_eq_some hc
      rw [he, mergeChain_chain]
      split
      · split <;> exact ⟨_, _, _, _, _, rfl⟩
      · exact ⟨_, _, _, _, _, rfl⟩

theorem isNonePath_mergeChains (e : Expr) :
    isNonePath (e.mergeChains picks) = isNonePath e := by
  cases e with
  | methodCall i receiver name s args =>
      obtain ⟨_, _, _, _, _, hcall⟩ := exists_mergeChains_call picks i receiver name s args
      rw [hcall]
      rfl
  | _ => rfl

theorem mergeChains_chain {i j : Info} {receiver mapper fallback : Expr} {ns s : Span} :
    (Expr.methodCall i (.methodCall j receiver "map" ns [mapper]) "unwrap_or" s
      [fallback]).mergeChains picks =
      if picks ns.lo then
        if isNonePath fallback then
          .methodCall i (receiver.mergeChains picks) "and_then" ns [mapper.mergeChains picks]
        else .methodCall i (receiver.mergeChains picks) "map_or" ns
          [fallback.mergeChains picks, mapper.mergeChains picks]
      else .methodCall i (.methodCall j (receiver.mergeChains picks) "map" ns
        [mapper.mergeChains picks]) "unwrap_or" s [fallback.mergeChains picks] := by
  have hmap : (Expr.methodCall j receiver "map" ns [mapper]).mergeChains picks =
      .methodCall j (receiver.mergeChains picks) "map" ns [mapper.mergeChains picks] :=
    mergeChain_of_name picks (by decide)
  rw [Expr.mergeChains, hmap, mergeExprs, mergeExprs, mergeChain_chain, isNonePath_mergeChains]

theorem mergeChains_call {i : Info} {s : Span} {name : String} {receiver : Expr} {args : List Expr}
    (h : ∀ c, Chain.IsAt c (.expr (.methodCall i receiver name s args)) →
      picks c.nameSpan.lo = false) :
    (Expr.methodCall i receiver name s args).mergeChains picks =
      .methodCall i (receiver.mergeChains picks) name s (mergeExprs picks args) := by
  rw [Expr.mergeChains]
  exact mergeChain_parts picks fun c hc => h c (Chain.ofNode?_eq_some_iff.mp hc)

namespace Node

def remaining (n : Node) : List Node :=
  match (Chain.ofNode? n).filter fun c => picks c.nameSpan.lo with
  | some c => c.remaining
  | none => n.children

variable {picks} {n : Node} {c : Chain}

theorem remaining_of_picked (hat : c.IsAt n) (hpick : picks c.nameSpan.lo = true) :
    n.remaining picks = c.remaining := by
  rw [remaining, Chain.ofNode?_eq_some_iff.mpr hat, Option.filter_some, if_pos hpick]

theorem remaining_of_unpicked (h : ∀ c, Chain.IsAt c n → picks c.nameSpan.lo = false) :
    n.remaining picks = n.children := by
  rw [remaining]
  cases hof : Chain.ofNode? n with
  | none => rfl
  | some c =>
      have hnot := h c (Chain.ofNode?_eq_some_iff.mp hof)
      rw [Option.filter_some, hnot]
      rfl

theorem picked_or (picks : Int → Bool) (n : Node) :
    (∀ c, Chain.IsAt c n → picks c.nameSpan.lo = false) ∨
      ∃ c, Chain.IsAt c n ∧ picks c.nameSpan.lo = true := by
  by_cases hpicked : ∃ c, Chain.IsAt c n ∧ picks c.nameSpan.lo = true
  · exact .inr hpicked
  · left
    intro c hat
    rw [← Bool.not_eq_true]
    exact fun hpick => hpicked ⟨c, hat, hpick⟩

theorem mergeChains_picked (hat : c.IsAt n) (hpick : picks c.nameSpan.lo = true) :
    ∃ i r name args, n.mergeChains picks = .expr (.methodCall i r name c.nameSpan args) ∧
      name ≠ "unwrap_or" ∧ i = n.info ∧
      (.expr r :: args.map .expr : List Node) = c.remaining.map (mergeChains picks) := by
  obtain ⟨i, j, receiver, mapper, fallback, s, hc, rfl⟩ := hat
  have hremaining : c.remaining = if isNonePath fallback then [.expr receiver, .expr mapper]
      else [.expr receiver, .expr fallback, .expr mapper] := by
    rw [Chain.remaining, hc]
    rfl
  rw [hremaining, mergeChains, mergeChains_chain, if_pos hpick]
  cases isNonePath fallback with
  | true => exact ⟨_, _, _, _, rfl, by decide, rfl, rfl⟩
  | false => exact ⟨_, _, _, _, rfl, by decide, rfl, rfl⟩

theorem mergeChains_unpicked (h : ∀ c, Chain.IsAt c n → picks c.nameSpan.lo = false) :
    (n.mergeChains picks).info = n.info ∧
      (n.mergeChains picks).children = n.children.map (mergeChains picks) ∧
      (n.mergeChains picks).ownsBody = n.ownsBody := by
  cases n with
  | module m => simp [mergeChains, Module.mergeChains, children, info, ownsBody, Function.comp_def]
  | function f =>
      simp [mergeChains, Function.mergeChains, children, info, ownsBody, Function.comp_def]
  | param p => exact ⟨rfl, rfl, rfl⟩
  | pat p => cases p <;> simp [mergeChains, children]
  | block b =>
      obtain ⟨i, ss, tail⟩ := b
      refine ⟨rfl, ?_, rfl⟩
      simp [mergeChains, Block.mergeChains, children, mergeStmts_eq, mergeOption_eq,
        Option.toList_map, Function.comp_def]
  | stmt s =>
      cases s <;> refine ⟨rfl, ?_, rfl⟩ <;>
        simp [mergeChains, Stmt.mergeChains, children, mergeOption_eq, Option.toList_map,
          Function.comp_def]
  | expr e =>
      cases e with
      | methodCall i receiver name s args =>
          rw [mergeChains, mergeChains_call picks h]
          refine ⟨rfl, ?_, rfl⟩
          simp [mergeChains, children, Expr.children, mergeExprs_eq, Function.comp_def]
      | _ =>
          refine ⟨rfl, ?_, rfl⟩
          simp [mergeChains, Expr.mergeChains, children, Expr.children, mergeExprs_eq,
            mergeOption_eq, Option.toList_map, Function.comp_def]

variable (picks)

theorem children_mergeChains (n : Node) :
    (n.mergeChains picks).children = (n.remaining picks).map (mergeChains picks) := by
  rcases picked_or picks n with hnot | ⟨c, hat, hpick⟩
  · rw [(mergeChains_unpicked hnot).2.1, remaining_of_unpicked hnot]
  · obtain ⟨i, r, name, args, hmerged, -, -, hparts⟩ := mergeChains_picked hat hpick
    rw [hmerged, remaining_of_picked hat hpick, ← hparts]
    rfl

theorem id_mergeChains (n : Node) : (n.mergeChains picks).id = n.id := by
  rcases picked_or picks n with hnot | ⟨c, hat, hpick⟩
  · exact congrArg Info.id (mergeChains_unpicked hnot).1
  · obtain ⟨i, r, name, args, hmerged, -, rfl, -⟩ := mergeChains_picked hat hpick
    rw [hmerged]
    rfl

theorem ownsBody_mergeChains (n : Node) : (n.mergeChains picks).ownsBody = n.ownsBody := by
  rcases picked_or picks n with hnot | ⟨c, hat, hpick⟩
  · exact (mergeChains_unpicked hnot).2.2
  · obtain ⟨i, r, name, args, hmerged, -⟩ := mergeChains_picked hat hpick
    rw [hmerged, hat.ownsBody]
    rfl

theorem remaining_cases (n : Node) : n.remaining picks = n.children ∨
    ∃ c, Chain.IsAt c n ∧ picks c.nameSpan.lo = true ∧ n.remaining picks = c.remaining := by
  rcases picked_or picks n with hnot | ⟨c, hat, hpick⟩
  · exact .inl (remaining_of_unpicked hnot)
  · exact .inr ⟨c, hat, hpick, remaining_of_picked hat hpick⟩

theorem mem_remaining {n q : Node} (hq : q ∈ n.remaining picks) :
    ∃ k ∈ n.children, q ∈ k.preorder := by
  rcases n.remaining_cases picks with hparts | ⟨c, hat, -, hremaining⟩
  · exact ⟨q, hparts ▸ hq, q.mem_preorder_self⟩
  · have hmap : q = c.receiver ∨ q = c.mapper ∨ q = c.fallback := by
      rw [hremaining, Chain.remaining] at hq
      split at hq <;> simp only [List.mem_cons, List.not_mem_nil, or_false] at hq <;> tauto
    obtain ⟨hparts, hinner⟩ := hat.children
    have hin {q : Node} (hq : q ∈ c.mapCall.children) : ∃ k ∈ n.children, q ∈ k.preorder :=
      ⟨c.mapCall, hparts ▸ List.mem_cons_self, mem_preorder_of_child hq q.mem_preorder_self⟩
    rcases hmap with rfl | rfl | rfl
    · exact hin (hinner ▸ List.mem_cons_self)
    · exact hin (hinner ▸ List.mem_cons_of_mem _ List.mem_cons_self)
    · exact ⟨c.fallback, hparts ▸ List.mem_cons_of_mem _ List.mem_cons_self, mem_preorder_self _⟩

theorem remaining_induction {P : Node → Prop}
    (step : ∀ n : Node, (∀ q ∈ n.remaining picks, P q) → P n) (n : Node) : P n := by
  induction n using below_induction with
  | step n ih =>
      refine step n fun q hq => ?_
      obtain ⟨k, hk, hin⟩ := mem_remaining picks hq
      exact ih k hk q hin

theorem idsOf_remaining (n : Node) : (idsOf (n.remaining picks)).Subperm (idsOf n.children) := by
  rcases n.remaining_cases picks with hparts | ⟨c, hat, -, hremaining⟩
  · rw [hparts]
  · obtain ⟨hparts, hinner⟩ := hat.children
    have hids : idsOf n.children =
        c.mapCall.id :: (c.receiver.ids ++ c.mapper.ids) ++ c.fallback.ids := by
      rw [hparts, idsOf_cons, idsOf_singleton, ids_eq, hinner, idsOf_cons, idsOf_singleton]
    have hall : (idsOf c.remaining).Subperm ((c.receiver.ids ++ c.mapper.ids) ++ c.fallback.ids) := by
      rw [Chain.remaining]
      split
      · rw [idsOf_cons, idsOf_singleton]
        exact (List.sublist_append_left _ _).subperm
      · rw [idsOf_cons, idsOf_cons, idsOf_singleton, List.append_assoc]
        exact (List.perm_append_comm.append_left _).subperm
    rw [hids, hremaining]
    exact hall.trans (List.sublist_cons_self _ _).subperm

theorem ids_mergeChains (n : Node) : (n.mergeChains picks).ids.Subperm n.ids := by
  induction n using remaining_induction picks with
  | step n ih =>
      have hparts : (idsOf ((n.remaining picks).map (mergeChains picks))).Subperm
          (idsOf (n.remaining picks)) := by
        generalize n.remaining picks = qs at ih
        induction qs with
        | nil => exact .refl _
        | cons q qs ihqs =>
            obtain ⟨hq, hqs⟩ := List.forall_mem_cons.mp ih
            rw [List.map_cons, idsOf_cons, idsOf_cons]
            exact hq.append (ihqs hqs)
      rw [ids_eq, ids_eq, id_mergeChains, children_mergeChains]
      exact (List.subperm_cons _).mpr (hparts.trans (n.idsOf_remaining picks))

end Node

theorem depth_mergeChain (e : Expr) : (mergeChain picks e).depth ≤ e.depth := by
  cases hc : Chain.ofExpr? e with
  | none => rw [mergeChain_of_none picks hc]
  | some c =>
      obtain ⟨i, j, receiver, ns, mapper, s, fallback, rfl, -⟩ := ofExpr?_eq_some hc
      rw [mergeChain_chain]
      split
      · split <;> simp only [Expr.depth, depthList] <;> omega
      · exact Nat.le_refl _

mutual

theorem depth_mergeChains : (e : Expr) → (e.mergeChains picks).depth ≤ e.depth
  | .methodCall i receiver name s args => by
      have hreceiver := depth_mergeChains receiver
      have hargs := depth_mergeExprs args
      have hcall := depth_mergeChain picks
        (.methodCall i (receiver.mergeChains picks) name s (mergeExprs picks args))
      rw [Expr.mergeChains]
      simp only [Expr.depth] at hcall ⊢
      omega
  | .var .. | .int .. | .float .. | .string .. | .bool .. | .brk _ | .cont _ => Nat.le_refl _
  | .call _ callee args =>
      Nat.succ_le_succ (max_le_max (depth_mergeChains callee) (depth_mergeExprs args))
  | .field _ subject _ => Nat.succ_le_succ (depth_mergeChains subject)
  | .index _ subject position =>
      Nat.succ_le_succ (max_le_max (depth_mergeChains subject) (depth_mergeChains position))
  | .unary _ _ operand => Nat.succ_le_succ (depth_mergeChains operand)
  | .binary _ _ left right =>
      max_le_max (depth_mergeChains left) (Nat.succ_le_succ (depth_mergeChains right))
  | .range _ lower upper =>
      Nat.succ_le_succ (max_le_max (depth_mergeOption lower) (depth_mergeOption upper))
  | .array _ elems | .tuple _ elems | .macroCall _ _ elems =>
      Nat.succ_le_succ (depth_mergeExprs elems)
  | .closure _ _ body _ => Nat.succ_le_succ (depth_mergeChains body)
  | .block _ body | .loop _ body => Nat.succ_le_succ (depth_mergeBlock body)
  | .cond _ test yes no => Nat.succ_le_succ (max_le_max
      (max_le_max (depth_mergeChains test) (depth_mergeBlock yes)) (depth_mergeOption no))
  | .whileLoop _ test body =>
      Nat.succ_le_succ (max_le_max (depth_mergeChains test) (depth_mergeBlock body))
  | .forLoop _ _ iterable body =>
      Nat.succ_le_succ (max_le_max (depth_mergeChains iterable) (depth_mergeBlock body))
  | .ret _ value => Nat.succ_le_succ (depth_mergeOption value)

theorem depth_mergeExprs : (es : List Expr) → depthList (mergeExprs picks es) ≤ depthList es
  | [] => Nat.le_refl _
  | e :: es => max_le_max (depth_mergeChains e) (depth_mergeExprs es)

theorem depth_mergeOption : (o : Option Expr) →
    depthOption (mergeOption picks o) ≤ depthOption o
  | none => Nat.le_refl _
  | some e => depth_mergeChains e

theorem depth_mergeStmt : (s : Stmt) → (s.mergeChains picks).depth ≤ s.depth
  | .expr _ value => depth_mergeChains value
  | .letIn _ _ _ value => depth_mergeOption value

theorem depth_mergeStmts : (ss : List Stmt) → depthStmts (mergeStmts picks ss) ≤ depthStmts ss
  | [] => Nat.le_refl _
  | s :: ss => max_le_max (depth_mergeStmt s) (depth_mergeStmts ss)

theorem depth_mergeBlock : (b : Block) → (b.mergeChains picks).depth ≤ b.depth
  | .mk _ ss tail => max_le_max (depth_mergeStmts ss) (depth_mergeOption tail)

end

theorem Module.depth_mergeChains (m : Module) : (m.mergeChains picks).depth ≤ m.depth := by
  have hfold (fs : List Function) {d d' : Nat} (hle : d ≤ d') :
      (fs.map (Function.mergeChains picks)).foldl (fun d f => max d f.body.depth) d ≤
        fs.foldl (fun d f => max d f.body.depth) d' := by
    induction fs generalizing d d' with
    | nil => exact hle
    | cons f fs ih => exact ih (max_le_max hle (depth_mergeBlock picks f.body))
  exact hfold m.functions (Nat.le_refl 0)

end

end Tree

namespace MapUnwrapOr

section

variable (picks : Int → Bool)

def Chain.mergeChains (c : Chain) : Chain :=
  ⟨c.whole.mergeChains picks, c.receiver.mergeChains picks, c.mapCall.mergeChains picks,
    c.mapper.mergeChains picks, c.fallback.mergeChains picks, c.nameSpan⟩

variable {picks} {c : Chain} {n : Node}

theorem Chain.IsAt.mergeChains (hat : c.IsAt n) (hpick : picks c.nameSpan.lo = false) :
    (c.mergeChains picks).IsAt (n.mergeChains picks) := by
  obtain ⟨i, j, receiver, mapper, fallback, s, hc, rfl⟩ := hat
  have hmap : (Expr.methodCall j receiver "map" c.nameSpan [mapper]).mergeChains picks =
      .methodCall j (receiver.mergeChains picks) "map" c.nameSpan [mapper.mergeChains picks] :=
    mergeChain_of_name picks (by decide)
  refine ⟨i, j, receiver.mergeChains picks, mapper.mergeChains picks, fallback.mergeChains picks, s,
    ?_, ?_⟩
  · rw [hc]
    simp only [mergeChains, Node.mergeChains, hmap]
  · rw [Node.mergeChains, mergeChains_chain, hpick]
    rfl

theorem ofNode?_mergeChains (n : Node) : Chain.ofNode? (n.mergeChains picks) =
    ((Chain.ofNode? n).filter fun c => !picks c.nameSpan.lo).map (Chain.mergeChains picks) := by
  cases hof : Chain.ofNode? n with
  | some c =>
      have hat := Chain.ofNode?_eq_some_iff.mp hof
      cases hpick : picks c.nameSpan.lo with
      | false =>
          rw [Option.filter_some, hpick]
          exact Chain.ofNode?_eq_some_iff.mpr (hat.mergeChains hpick)
      | true =>
          obtain ⟨i, r, name, args, hmerged, hname, -⟩ := Node.mergeChains_picked hat hpick
          rw [Option.filter_some, hpick, hmerged]
          exact ofExpr?_of_name hname
  | none =>
      cases hof' : Chain.ofNode? (n.mergeChains picks) with
      | none => rfl
      | some c' =>
          cases n with
          | expr e =>
              cases e with
              | methodCall i receiver name s args =>
                  have hnot (c : Chain) (hat : c.IsAt (.expr (.methodCall i receiver name s args))) :
                      picks c.nameSpan.lo = false := by
                    rw [Chain.ofNode?_eq_some_iff.mpr hat] at hof
                    cases hof
                  rw [Node.mergeChains, mergeChains_call picks hnot] at hof'
                  obtain ⟨i', j, r, mapper, fallback, s', -, he⟩ := Chain.ofNode?_eq_some_iff.mp hof'
                  obtain ⟨-, hr, rfl, -, hargs⟩ := Expr.methodCall.inj (Node.expr.inj he)
                  obtain ⟨r', f', rfl⟩ := map_of_mergeChains picks hr
                  rw [mergeExprs_eq] at hargs
                  obtain ⟨a', rfl, -⟩ := List.map_eq_singleton_iff.mp hargs
                  cases hof
              | _ => cases hof'
          | _ => cases hof'

theorem Node.chains_sub {q n : Node} (h : q ∈ n.preorder) : q.chains ⊆ n.chains :=
  List.filterMap_subset _ fun _ hv => Node.mem_preorder_trans hv h

theorem chains_mergeChains (n : Node) (h : ∀ c ∈ n.chains, picks c.nameSpan.lo = true →
      ∀ d ∈ c.fallback.chains, picks d.nameSpan.lo = true) :
    (n.mergeChains picks).chains =
      (n.chains.filter fun c => !picks c.nameSpan.lo).map (Chain.mergeChains picks) := by
  induction n using Node.remaining_induction picks with
  | step n ih =>
      have hsub {q : Node} (hq : q ∈ n.remaining picks) : q.chains ⊆ n.chains := by
        obtain ⟨k, hk, hin⟩ := Node.mem_remaining picks hq
        exact Node.chains_sub (Node.mem_preorder_of_child hk hin)
      have hparts : ((n.remaining picks).flatMap Node.chains).filter (fun c => !picks c.nameSpan.lo) =
          (n.children.flatMap Node.chains).filter fun c => !picks c.nameSpan.lo := by
        rcases n.remaining_cases picks with hparts | ⟨c, hat, hpick, hremaining⟩
        · rw [hparts]
        · have hnone : c.fallback.chains.filter (fun c => !picks c.nameSpan.lo) = [] :=
            List.filter_eq_nil_iff.mpr fun d hd => by rw [h c hat.mem_chains hpick d hd]; decide
          have hall : (c.remaining.flatMap Node.chains).filter (fun c => !picks c.nameSpan.lo) =
              (c.receiver.chains ++ c.mapper.chains).filter fun c => !picks c.nameSpan.lo := by
            rw [Chain.remaining]
            split
            · rw [List.flatMap_cons, List.flatMap_singleton]
            · rw [List.flatMap_cons, List.flatMap_cons, List.flatMap_singleton, List.filter_append,
                List.filter_append, hnone, List.nil_append, List.filter_append]
          rw [hremaining, hall, hat.children.1, List.flatMap_cons, List.flatMap_singleton,
            List.filter_append (c.mapCall.chains), hnone, List.append_nil, hat.chains_mapCall]
      have hself : ((Chain.ofNode? n).filter fun c => !picks c.nameSpan.lo).toList =
          (Chain.ofNode? n).toList.filter fun c => !picks c.nameSpan.lo := by
        cases Chain.ofNode? n with
        | none => rfl
        | some c => cases hp : picks c.nameSpan.lo <;> simp [hp]
      calc (n.mergeChains picks).chains
        _ = (Chain.ofNode? (n.mergeChains picks)).toList ++
            (n.remaining picks).flatMap fun q => (q.mergeChains picks).chains := by
            rw [Node.chains_eq, Node.children_mergeChains, List.flatMap_map]
        _ = (((Chain.ofNode? n).toList.filter fun c => !picks c.nameSpan.lo) ++
            ((n.remaining picks).flatMap Node.chains).filter fun c => !picks c.nameSpan.lo).map
              (Chain.mergeChains picks) := by
            rw [List.map_append, ofNode?_mergeChains, List.filter_flatMap, List.map_flatMap]
            refine congrArg₂ _ ?_ ?_
            · rw [Option.toList_map, hself]
            · exact List.flatMap_congr fun q hq => ih q hq fun c hc => h c (hsub hq hc)
        _ = _ := by
            rw [hparts, Node.chains_eq n, List.filter_append]

end

end MapUnwrapOr

end ChainLint
