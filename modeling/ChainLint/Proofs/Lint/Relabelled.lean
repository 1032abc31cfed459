import ChainLint.Proofs.Lint.Calls
import ChainLint.Proofs.Lint.Reports
import ChainLint.Proofs.Tree.Renumbering
import Mathlib.Data.List.Nodup

namespace ChainLint

open Tree

namespace Tree.Node

def numbers (n : Node) : Set NodeId :=
  {i | ∃ v ∈ n.preorder, v.id = i ∨ Analysis.usedBinding? v = some i}

theorem numbers_sub {n v : Node} (hv : v ∈ n.preorder) : v.numbers ⊆ n.numbers := by
  rintro i ⟨u, hu, hi⟩
  exact ⟨u, mem_preorder_trans hu hv, hi⟩

variable {r : Relabelling}

theorem DirectlyIn.relabel {n v : Node} (h : DirectlyIn n v) :
    DirectlyIn (n.relabel r) (v.relabel r) := by
  have hchild {n c : Node} (hc : c ∈ n.children) : c.relabel r ∈ (n.relabel r).children := by
    rw [children_relabel]
    exact List.mem_map_of_mem hc
  induction h with
  | child hc => exact .child (hchild hc)
  | step hc ho _ ih => exact .step (hchild hc) (by rw [ownsBody_relabel, ho]) ih

theorem DirectlyIn.of_relabel {n v' : Node} (h : DirectlyIn (n.relabel r) v') :
    ∃ v, DirectlyIn n v ∧ v' = v.relabel r := by
  have hchild {n c' : Node} (hc : c' ∈ (n.relabel r).children) : ∃ c ∈ n.children, c.relabel r = c' := by
    rw [children_relabel] at hc
    exact List.mem_map.mp hc
  generalize hn : n.relabel r = n' at h
  induction h generalizing n with
  | child hc =>
      obtain ⟨c, hmem, rfl⟩ := hchild (hn ▸ hc)
      exact ⟨c, .child hmem, rfl⟩
  | step hc ho _ ih =>
      obtain ⟨c, hmem, rfl⟩ := hchild (hn ▸ hc)
      obtain ⟨v, hin, rfl⟩ := ih rfl
      exact ⟨v, .step hmem (by rw [← ownsBody_relabel r, ho]) hin, rfl⟩

end Tree.Node

namespace MapUnwrapOr

theorem usedBefore_iff {body fallback : Node} : UsedBefore body fallback ↔
    ∃ use binding, [use, fallback].Sublist body.preorder ∧
      Analysis.usedBinding? use = some binding ∧
        ∃ u ∈ fallback.preorder, Analysis.usedBinding? u = some binding := by
  constructor
  · rintro ⟨before, use, between, after, binding, hsplit, hb, hu⟩
    refine ⟨use, binding, ?_, hb, hu⟩
    rw [hsplit]
    refine List.Sublist.trans ?_ (List.sublist_append_right _ _)
    exact (List.singleton_sublist.mpr (List.mem_append_right _ List.mem_cons_self)).cons_cons use
  · rintro ⟨use, binding, hsub, hb, hu⟩
    obtain ⟨front, back, hsplit, huse, hfallback⟩ := List.cons_sublist_iff.mp hsub
    obtain ⟨before, between, rfl⟩ := List.append_of_mem huse
    obtain ⟨between', after, rfl⟩ := List.append_of_mem (List.singleton_sublist.mp hfallback)
    exact ⟨before, use, between ++ between', after, binding, by simp [hsplit], hb, hu⟩

namespace Chain

def relabel (r : Relabelling) (c : Chain) : Chain :=
  ⟨c.whole.relabel r, c.receiver.relabel r, c.mapCall.relabel r, c.mapper.relabel r,
    c.fallback.relabel r, r.span c.nameSpan⟩

theorem IsAt.relabel {r : Relabelling} {c : Chain} {n : Node} (h : c.IsAt n) :
    (c.relabel r).IsAt (n.relabel r) := by
  obtain ⟨i, j, receiver, mapper, fallback, s, hc, rfl⟩ := h
  refine ⟨i.relabel r.span r.id, j.relabel r.span r.id, receiver.relabel r, mapper.relabel r,
    fallback.relabel r, r.span s, ?_, rfl⟩
  rw [hc]
  rfl

theorem IsAt.of_relabel {r : Relabelling} {c' : Chain} {n : Node} (h : c'.IsAt (n.relabel r)) :
    ∃ c : Chain, c.IsAt n := by
  obtain ⟨i, j, receiver, mapper, fallback, s, -, hn⟩ := h
  have hcall {e q : Expr} {i : Info} {name : String} {s : Span} {arg : Expr}
      (he : e.relabel r = .methodCall i q name s [arg]) : ∃ i' q' s' arg',
        e = .methodCall i' q' name s' [arg'] ∧ q'.relabel r = q := by
    cases e with
    | methodCall i' q' name' s' args =>
        obtain ⟨-, hq, rfl, -, hargs⟩ := Expr.methodCall.inj he
        rw [relabelExprs_eq] at hargs
        obtain ⟨arg', rfl, -⟩ := List.map_eq_singleton_iff.mp hargs
        exact ⟨i', q', s', arg', rfl, hq⟩
    | _ => cases he
  cases n with
  | expr e =>
      obtain ⟨i', q', s', fallback', rfl, hq⟩ := hcall (Node.expr.inj hn)
      obtain ⟨j', receiver', t', mapper', rfl, -⟩ := hcall hq
      exact ⟨⟨.expr (.methodCall i' (.methodCall j' receiver' "map" t' [mapper']) "unwrap_or" s'
          [fallback']), .expr receiver', .expr (.methodCall j' receiver' "map" t' [mapper']),
        .expr mapper', .expr fallback', t'⟩, i', j', receiver', mapper', fallback', s', rfl, rfl⟩
  | _ => cases hn

theorem ofNode?_relabel (r : Relabelling) (n : Node) :
    ofNode? (n.relabel r) = (ofNode? n).map (relabel r) := by
  cases hc : ofNode? n with
  | some c => exact ofNode?_eq_some_iff.mpr (ofNode?_eq_some_iff.mp hc).relabel
  | none =>
      cases hc' : ofNode? (n.relabel r) with
      | none => rfl
      | some c' =>
          obtain ⟨c, hat⟩ := (ofNode?_eq_some_iff.mp hc').of_relabel
          rw [ofNode?_eq_some_iff.mpr hat] at hc
          cases hc

theorem chains_relabel (r : Relabelling) (n : Node) :
    (n.relabel r).chains = n.chains.map (relabel r) := by
  rw [Node.chains, Node.chains, Node.preorder_relabel, List.filterMap_map, List.map_filterMap]
  exact List.filterMap_congr fun v _ => ofNode?_relabel r v

def Movable (root : Node) (c : Chain) : Prop :=
  ∀ body ∈ root.preorder, body.ownsBody = true → Node.DirectlyIn body c.whole →
    ¬ UsedBefore body c.fallback

end Chain

section

variable {f : Span → Span} {g : NodeId → NodeId}

theorem usedBinding?_relabel (n : Node) :
    Analysis.usedBinding? (n.relabel (.following f g)) = (Analysis.usedBinding? n).map g := by
  cases n with
  | expr e => cases e <;> rfl
  | _ => rfl

theorem namesNone_relabel (n : Node) : namesNone (n.relabel (.following f g)) = namesNone n := by
  cases n with
  | expr e =>
      cases e with
      | var i name binding => cases binding <;> rfl
      | _ => rfl
  | _ => rfl

theorem usedBefore_relabel {body fallback : Node} (hg : Set.InjOn g body.numbers) (h : body.Ordered)
    (hmem : fallback ∈ body.preorder) :
    UsedBefore (body.relabel (.following f g)) (fallback.relabel (.following f g)) ↔
      UsedBefore body fallback := by
  rw [usedBefore_iff, usedBefore_iff, Node.preorder_relabel, Node.preorder_relabel]
  constructor
  · rintro ⟨use', binding', hsub, hb, u', hu', hub⟩
    obtain ⟨pair, hpair, hmap⟩ := List.sublist_map_iff.mp hsub
    obtain ⟨use, rest, rfl, rfl, hrest⟩ := List.map_eq_cons_iff.mp hmap.symm
    obtain ⟨v, rfl, hv⟩ := List.map_eq_singleton_iff.mp hrest
    obtain ⟨u, hu, rfl⟩ := List.mem_map.mp hu'
    rw [usedBinding?_relabel, Option.map_eq_some_iff] at hb hub
    obtain ⟨binding, hb, rfl⟩ := hb
    obtain ⟨binding', hub, heq⟩ := hub
    have hvmem := hpair.mem (List.mem_cons_of_mem _ List.mem_cons_self)
    have hid := congrArg Node.id hv
    rw [Node.id_relabel, Node.id_relabel] at hid
    have hsame : v = fallback :=
      h.eq_of_id hvmem hmem (hg ⟨v, hvmem, .inl rfl⟩ ⟨fallback, hmem, .inl rfl⟩ hid)
    have hbinding : binding' = binding :=
      hg ⟨u, Node.mem_preorder_trans hu hmem, .inr hub⟩
        ⟨use, hpair.mem List.mem_cons_self, .inr hb⟩ heq
    exact ⟨use, binding, hsame ▸ hpair, hb, u, hu, hbinding ▸ hub⟩
  · rintro ⟨use, binding, hsub, hb, u, hu, hub⟩
    refine ⟨_, g binding, hsub.map (Node.relabel (.following f g)), ?_, _, List.mem_map_of_mem hu, ?_⟩
    · rw [usedBinding?_relabel, hb]
      rfl
    · rw [usedBinding?_relabel, hub]
      rfl

theorem movable_relabel {root n : Node} {c : Chain} (hg : Set.InjOn g root.numbers)
    (h : root.Ordered) (hn : n ∈ root.preorder) (hc : c.IsAt n) : (c.relabel (.following f g)).Movable (root.relabel (.following f g)) ↔
      c.Movable root := by
  have hbody {b : Node} (hb : b ∈ root.preorder) :
      Node.DirectlyIn (b.relabel (.following f g)) (c.whole.relabel (.following f g)) ↔
        Node.DirectlyIn b c.whole := by
    refine ⟨fun hin => ?_, fun hin => hin.relabel⟩
    obtain ⟨v, hv, heq⟩ := hin.of_relabel
    have hid := congrArg Node.id heq
    rw [Node.id_relabel, Node.id_relabel] at hid
    have hwhole : c.whole ∈ root.preorder := hc.whole.symm ▸ hn
    have hvmem := Node.mem_preorder_trans hv.mem_and_lt.1 hb
    rwa [h.eq_of_id hwhole hvmem (hg ⟨_, hwhole, .inl rfl⟩ ⟨_, hvmem, .inl rfl⟩ hid)]
  have hfallback {b : Node} (hin : Node.DirectlyIn b c.whole) : c.fallback ∈ b.preorder := by
    obtain ⟨d, hd, hwhole⟩ := hin.mem_preorder
    refine Node.mem_preorder_of_child hd (Node.mem_preorder_trans ?_ hwhole)
    rw [hc.whole]
    exact Node.mem_preorder_of_child hc.fallback (Node.mem_preorder_self _)
  simp only [Chain.Movable, Node.preorder_relabel, List.forall_mem_map, Node.ownsBody_relabel]
  refine forall₃_congr fun b hb _ => ?_
  change (Node.DirectlyIn _ (c.whole.relabel _) → ¬ UsedBefore _ (c.fallback.relabel _)) ↔ _
  rw [hbody hb]
  refine forall_congr' fun hin => not_congr ?_
  exact usedBefore_relabel (hg.mono (Node.numbers_sub hb)) (h.of_mem hb) (hfallback hin)

end

theorem reportable_relabel {a a' : Analysis} {f : Span → Span} {g : NodeId → NodeId} {c : Chain}
    {n : Node} (hc : c.IsAt n)
    (htypes : ∀ v ∈ n.preorder, a'.typeOf (v.relabel (.following f g)) = a.typeOf v)
    (hmovable : (c.relabel (.following f g)).Movable (.module a'.module) ↔
      c.Movable (.module a.module)) :
    Reportable a' (c.relabel (.following f g)) ↔ Reportable a c := by
  obtain ⟨i, j, receiver, mapper, fallback, s, heq, rfl⟩ := hc
  have hmapCall := htypes c.mapCall (by
    rw [heq]
    exact Node.mem_preorder_of_child List.mem_cons_self (Node.mem_preorder_self _))
  have hreceiver := htypes c.receiver (by
    rw [heq]
    exact Node.mem_preorder_of_child List.mem_cons_self
      (Node.mem_preorder_of_child List.mem_cons_self (Node.mem_preorder_self _)))
  have hfallback := htypes c.fallback (by
    rw [heq]
    exact Node.mem_preorder_of_child (List.mem_cons_of_mem _ List.mem_cons_self)
      (Node.mem_preorder_self _))
  have hnone : namesNone (c.relabel (.following f g)).fallback = namesNone c.fallback :=
    namesNone_relabel c.fallback
  have hwritten : (∀ i name args, (c.relabel (.following f g)).fallback ≠
      .expr (.macroCall i name args)) ↔ ∀ i name args, c.fallback ≠ .expr (.macroCall i name args) := by
    rw [heq]
    cases fallback <;> simp [Chain.relabel, Node.relabel, Expr.relabel]
  constructor
  · rintro ⟨h₁, h₂, h₃, h₄⟩
    exact ⟨hreceiver ▸ h₁, fun h => hmapCall ▸ h₂ (hnone.trans h), hfallback ▸ h₃.imp_right
      hmovable.mp, hwritten.mp h₄⟩
  · rintro ⟨h₁, h₂, h₃, h₄⟩
    exact ⟨hreceiver.symm ▸ h₁, fun h => hmapCall.symm ▸ h₂ (hnone.symm.trans h),
      hfallback.symm ▸ h₃.imp_right hmovable.mpr, hwritten.mpr h₄⟩

end MapUnwrapOr

end ChainLint
