import ChainLint.Proofs.Lint.Remaining

namespace ChainLint.MapUnwrapOr

open Tree

section

variable {α β : Type} {x v : β}

theorem pair_sublist_append {l r : List β} : [x, v].Sublist (l ++ r) ↔
    [x, v].Sublist l ∨ (x ∈ l ∧ v ∈ r) ∨ [x, v].Sublist r := by
  constructor
  · intro h
    obtain ⟨front, back, hpair, hfront, hback⟩ := List.sublist_append_iff.mp h
    match front with
    | [] => exact .inr (.inr (hpair ▸ hback))
    | [y] =>
        obtain ⟨rfl, rfl⟩ := List.cons.inj hpair
        exact .inr (.inl ⟨List.singleton_sublist.mp hfront, List.singleton_sublist.mp hback⟩)
    | y :: w :: rest =>
        obtain ⟨rfl, htail⟩ := List.cons.inj hpair
        obtain ⟨rfl, hnil⟩ := List.cons.inj htail
        obtain ⟨rfl, rfl⟩ := List.append_eq_nil_iff.mp hnil.symm
        exact .inl hfront
  · rintro (h | ⟨hx, hv⟩ | h)
    · exact h.trans (List.sublist_append_left _ _)
    · exact (List.singleton_sublist.mpr hx).append (List.singleton_sublist.mpr hv)
    · exact h.trans (List.sublist_append_right _ _)

theorem pair_sublist_flatMap {f : α → List β} {l : List α} : [x, v].Sublist (l.flatMap f) ↔
    (∃ a ∈ l, [x, v].Sublist (f a)) ∨ ∃ a b, [a, b].Sublist l ∧ x ∈ f a ∧ v ∈ f b := by
  induction l with
  | nil => simp
  | cons a l ih =>
      rw [List.flatMap_cons, pair_sublist_append, ih, List.mem_flatMap]
      constructor
      · rintro (h | ⟨hx, b, hb, hv⟩ | ⟨b, hb, h⟩ | ⟨b, d, hbd, hx, hv⟩)
        · exact .inl ⟨a, List.mem_cons_self, h⟩
        · exact .inr ⟨a, b, (List.singleton_sublist.mpr hb).cons_cons a, hx, hv⟩
        · exact .inl ⟨b, List.mem_cons_of_mem _ hb, h⟩
        · exact .inr ⟨b, d, hbd.cons a, hx, hv⟩
      · rintro (⟨b, hb, h⟩ | ⟨b, d, hbd, hx, hv⟩)
        · rcases List.mem_cons.mp hb with rfl | hb
          · exact .inl h
          · exact .inr (.inr (.inl ⟨b, hb, h⟩))
        · rcases List.sublist_cons_iff.mp hbd with hbd | ⟨_, heq, hd⟩
          · exact .inr (.inr (.inr ⟨b, d, hbd, hx, hv⟩))
          · obtain ⟨rfl, rfl⟩ := List.cons.inj heq
            exact .inr (.inl ⟨hx, d, List.singleton_sublist.mp hd, hv⟩)

end

variable {picks : Int → Bool} {n v x : Node}

def Stays (picks : Int → Bool) (n v : Node) : Prop :=
  ∀ c ∈ n.chains, picks c.nameSpan.lo = true →
    v ≠ c.mapCall ∧ (fallsToNone c.fallback = true → v ≠ c.fallback)

def StaysInPlace (picks : Int → Bool) (n v : Node) : Prop :=
  ∀ c ∈ n.chains, picks c.nameSpan.lo = true → v ≠ c.mapCall ∧ v ∉ c.fallback.preorder

theorem StaysInPlace.stays (h : StaysInPlace picks n v) : Stays picks n v := fun c hc hpick =>
  ⟨(h c hc hpick).1, fun _ heq => (h c hc hpick).2 (heq ▸ Node.mem_preorder_self v)⟩

theorem Stays.below (h : Stays picks n v) {q : Node} (hq : q ∈ n.preorder) : Stays picks q v :=
  fun c hc => h c (Node.chains_sub hq hc)

theorem StaysInPlace.below (h : StaysInPlace picks n v) {q : Node} (hq : q ∈ n.preorder) :
    StaysInPlace picks q v := fun c hc => h c (Node.chains_sub hq hc)

theorem remaining_sub {q : Node} (hq : q ∈ n.remaining picks) : q ∈ n.preorder := by
  obtain ⟨k, hk, hin⟩ := Node.mem_remaining picks hq
  exact Node.mem_preorder_of_child hk hin

theorem Chain.mem_remaining_receiver (c : Chain) : c.receiver ∈ c.remaining := by
  unfold remaining
  split <;> exact List.mem_cons_self

theorem Chain.mem_remaining_mapper (c : Chain) : c.mapper ∈ c.remaining := by
  unfold remaining
  split <;> simp

theorem Chain.mem_remaining_fallback {c : Chain} (h : ¬ fallsToNone c.fallback = true) :
    c.fallback ∈ c.remaining := by
  rw [remaining, if_neg h]
  exact List.mem_cons_of_mem _ List.mem_cons_self

theorem Stays.in_remaining (h : Stays picks n v) {k : Node} (hk : k ∈ n.children)
    (hv : v ∈ k.preorder) : ∃ q ∈ n.remaining picks, v ∈ q.preorder := by
  rcases n.remaining_cases picks with hparts | ⟨c, hat, hpick, hremaining⟩
  · exact ⟨k, hparts ▸ hk, hv⟩
  · obtain ⟨hmap, hfallback⟩ := h c hat.mem_chains hpick
    obtain ⟨hparts, hinner⟩ := hat.children
    rw [hremaining]
    rw [hparts, List.mem_cons, List.mem_singleton] at hk
    rcases hk with rfl | rfl
    · rw [Node.preorder_eq, hinner, List.mem_cons, List.flatMap_cons, List.flatMap_singleton,
        List.mem_append] at hv
      rcases hv with heq | hv | hv
      · exact absurd heq hmap
      · exact ⟨c.receiver, c.mem_remaining_receiver, hv⟩
      · exact ⟨c.mapper, c.mem_remaining_mapper, hv⟩
    · by_cases hnone : fallsToNone c.fallback = true
      · rw [Chain.fallback_leaf hnone, List.mem_singleton] at hv
        exact absurd hv (hfallback hnone)
      · exact ⟨c.fallback, Chain.mem_remaining_fallback hnone, hv⟩

theorem Stays.mem (h : Stays picks n v) (hv : v ∈ n.preorder) :
    v.mergeChains picks ∈ (n.mergeChains picks).preorder := by
  induction n using Node.remaining_induction picks with
  | step n ih =>
      rcases Node.mem_preorder_iff.mp hv with rfl | ⟨k, hk, hv⟩
      · exact Node.mem_preorder_self _
      · obtain ⟨q, hq, hv⟩ := h.in_remaining hk hv
        refine Node.mem_preorder_of_child ?_ (ih q hq (h.below (remaining_sub hq)) hv)
        rw [Node.children_mergeChains]
        exact List.mem_map_of_mem hq

theorem directlyIn_iff : Node.DirectlyIn n v ↔
    ∃ k ∈ n.children, v = k ∨ k.ownsBody = false ∧ Node.DirectlyIn k v := by
  constructor
  · rintro (hc | ⟨hc, ho, hv⟩)
    · exact ⟨v, hc, .inl rfl⟩
    · exact ⟨_, hc, .inr ⟨ho, hv⟩⟩
  · rintro ⟨k, hk, rfl | ⟨ho, hv⟩⟩
    · exact .child hk
    · exact .step hk ho hv

theorem Stays.directly_in_remaining (h : Stays picks n v) (hin : Node.DirectlyIn n v) :
    ∃ q ∈ n.remaining picks, v = q ∨ q.ownsBody = false ∧ Node.DirectlyIn q v := by
  obtain ⟨k, hk, hin⟩ := directlyIn_iff.mp hin
  rcases n.remaining_cases picks with hparts | ⟨c, hat, hpick, hremaining⟩
  · exact ⟨k, hparts ▸ hk, hin⟩
  · obtain ⟨hmap, hfallback⟩ := h c hat.mem_chains hpick
    obtain ⟨hparts, hinner⟩ := hat.children
    rw [hremaining]
    rw [hparts, List.mem_cons, List.mem_singleton] at hk
    rcases hk with rfl | rfl
    · obtain ⟨q, hq, hin⟩ := directlyIn_iff.mp (hin.resolve_left hmap).2
      rw [hinner, List.mem_cons, List.mem_singleton] at hq
      rcases hq with rfl | rfl
      · exact ⟨c.receiver, c.mem_remaining_receiver, hin⟩
      · exact ⟨c.mapper, c.mem_remaining_mapper, hin⟩
    · by_cases hnone : fallsToNone c.fallback = true
      · have hmem : v ∈ c.fallback.preorder :=
          hin.elim (fun heq => heq ▸ Node.mem_preorder_self _) fun hin => hin.2.mem_and_lt.1
        rw [Chain.fallback_leaf hnone, List.mem_singleton] at hmem
        exact absurd hmem (hfallback hnone)
      · exact ⟨c.fallback, Chain.mem_remaining_fallback hnone, hin⟩

theorem Stays.directlyIn (h : Stays picks n v) (hin : Node.DirectlyIn n v) :
    Node.DirectlyIn (n.mergeChains picks) (v.mergeChains picks) := by
  induction n using Node.remaining_induction picks with
  | step n ih =>
      obtain ⟨q, hq, hin⟩ := h.directly_in_remaining hin
      refine directlyIn_iff.mpr ⟨q.mergeChains picks, ?_, ?_⟩
      · rw [Node.children_mergeChains]
        exact List.mem_map_of_mem hq
      · rcases hin with rfl | ⟨ho, hin⟩
        · exact .inl rfl
        · exact .inr ⟨(Node.ownsBody_mergeChains picks q).trans ho,
            ih q hq (h.below (remaining_sub hq)) hin⟩

theorem StaysInPlace.in_remaining (h : StaysInPlace picks n v) (hx : Stays picks n x)
    (hleaf : x.children = []) (hsub : [x, v].Sublist n.preorder) :
    [x, v].Sublist ((n.remaining picks).flatMap Node.preorder) := by
  have hbelow : [x, v].Sublist (n.children.flatMap Node.preorder) := by
    rw [Node.preorder_eq] at hsub
    rcases List.sublist_cons_iff.mp hsub with hsub | ⟨_, heq, hv⟩
    · exact hsub
    · obtain ⟨rfl, rfl⟩ := List.cons.inj heq
      rw [hleaf] at hv
      cases hv
  rcases n.remaining_cases picks with hparts | ⟨c, hat, hpick, hremaining⟩
  · rwa [hparts]
  · obtain ⟨hmap, hfallback⟩ := h c hat.mem_chains hpick
    have hxmap := (hx c hat.mem_chains hpick).1
    obtain ⟨hparts, hinner⟩ := hat.children
    have hfront : [x, v].Sublist c.mapCall.preorder := by
      rw [hparts, List.flatMap_cons, List.flatMap_singleton, pair_sublist_append] at hbelow
      rcases hbelow with hsub | ⟨-, hv⟩ | hsub
      · exact hsub
      · exact absurd hv hfallback
      · exact absurd (hsub.mem (List.mem_cons_of_mem _ List.mem_cons_self)) hfallback
    rw [Node.preorder_eq, hinner] at hfront
    rcases List.sublist_cons_iff.mp hfront with hfront | ⟨_, heq, -⟩
    · refine hfront.trans ?_
      rw [hremaining, Chain.remaining]
      split
      · exact .refl _
      · rw [List.flatMap_cons, List.flatMap_cons, List.flatMap_cons]
        exact (List.sublist_append_right _ _).append_left _
    · exact absurd (List.cons.inj heq).1 hxmap

theorem StaysInPlace.sublist (h : StaysInPlace picks n v) (hx : Stays picks n x)
    (hleaf : x.children = []) (hsub : [x, v].Sublist n.preorder) :
    [x.mergeChains picks, v.mergeChains picks].Sublist (n.mergeChains picks).preorder := by
  induction n using Node.remaining_induction picks with
  | step n ih =>
      have hin := h.in_remaining hx hleaf hsub
      rw [Node.preorder_eq, Node.children_mergeChains]
      refine List.Sublist.cons _ ?_
      rw [List.flatMap_map]
      rw [pair_sublist_flatMap] at hin ⊢
      rcases hin with ⟨q, hq, hin⟩ | ⟨a, b, hab, hxa, hvb⟩
      · exact .inl ⟨q, hq, ih q hq (h.below (remaining_sub hq)) (hx.below (remaining_sub hq)) hin⟩
      · have ha := remaining_sub (hab.mem List.mem_cons_self)
        have hb := remaining_sub (hab.mem (List.mem_cons_of_mem _ List.mem_cons_self))
        exact .inr ⟨a, b, hab, (hx.below ha).mem hxa, (h.stays.below hb).mem hvb⟩

def FallsToPath (picks : Int → Bool) (n : Node) : Prop :=
  ∀ c ∈ n.chains, picks c.nameSpan.lo = true → fallsToNone c.fallback = true →
    namesNone c.fallback = true

theorem mapCall_of_mem_chains {c : Chain} (hc : c ∈ n.chains) :
    ∃ i receiver name s args, c.mapCall = .expr (.methodCall i receiver name s args) := by
  obtain ⟨k, -, hof⟩ := List.mem_filterMap.mp hc
  obtain ⟨-, j, receiver, name, args, hcall⟩ := (Chain.ofNode?_eq_some_iff.mp hof).mapCall
  exact ⟨j, receiver, name, _, args, hcall⟩

theorem stays_of_use (hnone : FallsToPath picks n) {b : NodeId}
    (hb : Analysis.usedBinding? v = some b) : Stays picks n v := by
  refine fun c hc hpick => ⟨?_, ?_⟩
  · rintro rfl
    obtain ⟨i, receiver, name, s, args, hcall⟩ := mapCall_of_mem_chains hc
    rw [hcall] at hb
    cases hb
  · rintro hfalls rfl
    have hnames := hnone c hc hpick hfalls
    unfold namesNone at hnames
    split at hnames
    · next heq =>
        rw [heq] at hb
        cases hb
    · cases hnames

theorem stays_of_body (ho : v.ownsBody = true) : Stays picks n v := by
  refine fun c hc hpick => ⟨?_, ?_⟩
  · rintro rfl
    obtain ⟨i, receiver, name, s, args, hcall⟩ := mapCall_of_mem_chains hc
    rw [hcall] at ho
    cases ho
  · rintro hfalls rfl
    cases hf : c.fallback with
    | expr e =>
        rw [hf] at ho hfalls
        cases e <;> first | cases hfalls | cases ho
    | _ =>
        rw [hf] at hfalls
        cases hfalls

theorem usedBinding?_mergeChains {b : NodeId} (hb : Analysis.usedBinding? v = some b) :
    Analysis.usedBinding? (v.mergeChains picks) = some b := by
  cases v with
  | expr e =>
      cases e with
      | var i name binding => exact hb
      | _ => cases hb
  | _ => cases hb

theorem FallsToPath.below (h : FallsToPath picks n) {q : Node} (hq : q ∈ n.preorder) :
    FallsToPath picks q := fun c hc => h c (Node.chains_sub hq hc)

theorem UsedBefore.mergeChains {body fallback : Node} (h : UsedBefore body fallback)
    (hplace : StaysInPlace picks body fallback) (hnone : FallsToPath picks body) :
    UsedBefore (body.mergeChains picks) (fallback.mergeChains picks) := by
  obtain ⟨use, b, hsub, hb, u, hu, hub⟩ := usedBefore_iff.mp h
  have hfallback := hsub.mem (List.mem_cons_of_mem _ List.mem_cons_self)
  have huse : Stays picks body use := stays_of_use hnone hb
  have hu' : Stays picks fallback u := stays_of_use (hnone.below hfallback) hub
  exact usedBefore_iff.mpr ⟨use.mergeChains picks, b,
    hplace.sublist huse (usedBinding?_leaf hb) hsub, usedBinding?_mergeChains hb,
    u.mergeChains picks, hu'.mem hu, usedBinding?_mergeChains hub⟩

theorem Chain.Movable.of_mergeChains {root : Node} {c : Chain}
    (h : (c.mergeChains picks).Movable (root.mergeChains picks))
    (hwhole : StaysInPlace picks root c.whole) (hfallback : StaysInPlace picks root c.fallback)
    (hnone : FallsToPath picks root) : c.Movable root := by
  intro body hbody ho hin hused
  refine h (body.mergeChains picks) ((stays_of_body ho).mem hbody) ?_ ?_ ?_
  · rw [Node.ownsBody_mergeChains, ho]
  · exact (hwhole.below hbody).stays.directlyIn hin
  · exact hused.mergeChains (hfallback.below hbody) (hnone.below hbody)

end ChainLint.MapUnwrapOr
