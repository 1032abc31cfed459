import ChainLint.Proofs.Ty.Entries

namespace ChainLint.Tree

namespace Consecutive

theorem split {k m : Int} {a b : List Int} (h : Consecutive k (a ++ b) m) :
    ∃ l, Consecutive k a l ∧ Consecutive l b m := by
  induction a generalizing k with
  | nil => exact ⟨k, rfl, h⟩
  | cons i is ih =>
      obtain ⟨l, his, hb⟩ := ih h.2
      exact ⟨l, ⟨h.1, his⟩, hb⟩

theorem eq_map_range {k l : Int} {a : List Int} (h : Consecutive k a l) :
    a = (List.range a.length).map fun j : Nat => k + (j : Int) := by
  apply List.ext_getElem?
  intro n
  by_cases hn : n < a.length
  · rw [h.getElem? n hn, List.getElem?_map, List.getElem?_range hn]
    rfl
  · simp [Nat.le_of_not_lt hn]

end Consecutive

namespace Node

theorem exists_consecutive {root n : Node} {k l : Int} (h : Consecutive k root.ids l)
    (hn : n ∈ root.preorder) : ∃ l, Consecutive n.id n.ids l := by
  induction root using child_induction generalizing k l with
  | step root ih =>
      have hids := h
      rw [root.ids_eq] at hids
      rcases mem_preorder_iff.mp hn with rfl | ⟨c, hc, hn⟩
      · rw [hids.1]
        exact ⟨l, h⟩
      · obtain ⟨before, after, hparts⟩ := List.append_of_mem hc
        rw [hparts, idsOf_append, idsOf_cons] at hids
        obtain ⟨_, -, hrest⟩ := hids.2.split
        obtain ⟨_, hc', -⟩ := hrest.split
        exact ih c hc hc' hn

theorem directlyIn_iff_last {n v : Node} :
    DirectlyIn n v ↔
      v ∈ n.children ∨ ∃ q, DirectlyIn n q ∧ q.ownsBody = false ∧ v ∈ q.children := by
  constructor
  · intro h
    induction h with
    | child hc => exact .inl hc
    | @step n c v hc ho _ ih =>
        rcases ih with hv | ⟨q, hq, hoq, hv⟩
        · exact .inr ⟨c, .child hc, ho, hv⟩
        · exact .inr ⟨q, .step hc ho hq, hoq, hv⟩
  · rintro (hv | ⟨q, hq, hoq, hv⟩)
    · exact .child hv
    · induction hq with
      | child hc => exact .step hc hoq (.child hv)
      | step hc ho _ ih => exact .step hc ho (ih hoq hv)

theorem directlyIn_or_exists {n c v : Node} (hc : c ∈ n.children) (hv : v ∈ c.preorder) :
    DirectlyIn n v ∨ ∃ b ∈ c.preorder, b.ownsBody = true ∧ DirectlyIn b v := by
  induction n using child_induction generalizing c with
  | step n ih =>
      rcases mem_preorder_iff.mp hv with rfl | ⟨d, hd, hv⟩
      · exact .inl (.child hc)
      · rcases ih c hc hd hv with hdirect | ⟨b, hb, ho, hbv⟩
        · cases ho : c.ownsBody with
          | true => exact .inr ⟨c, c.mem_preorder_self, ho, hdirect⟩
          | false => exact .inl (.step hc ho hdirect)
        · exact .inr ⟨b, mem_preorder_of_child hd hb, ho, hbv⟩

end Node

structure Index where
  nodes : List (NodeId × Node) := []
  parents : List (NodeId × NodeId) := []

namespace Index

def visit (x : Index) (n : Node) : Index :=
  ⟨(n.id, n) :: x.nodes, n.children.foldl (fun ps c => (c.id, n.id) :: ps) x.parents⟩

def ofTree (root : Node) : Index := (root.walk fun _ => false).1.foldl visit {}

def node? (x : Index) (i : NodeId) : Option Node := x.nodes.lookup i

def parent? (x : Index) (n : Node) : Option Node := (x.parents.lookup n.id).bind x.node?

def bodyWithin (x : Index) : Nat → Node → Option (Option Node)
  | 0, _ => none
  | k + 1, n =>
      match x.parent? n with
      | none => some none
      | some p => if p.ownsBody then some (some p) else x.bodyWithin k p

/-- The index finds each node of the tree and the one above it. In as many steps as a node's number
it finds the nearest closure or function above that, if there is any. -/
structure Describes (x : Index) (root : Node) : Prop where
  node : ∀ i n, x.node? i = some n ↔ n ∈ root.preorder ∧ n.id = i
  parent : ∀ n ∈ root.preorder, ∀ p, x.parent? n = some p ↔ p ∈ root.preorder ∧ n ∈ p.children
  top : ∀ n ∈ root.preorder, x.parent? n = none ↔ n = root
  body : ∀ n ∈ root.preorder, ∃ b, (∀ k : Nat, n.id ≤ k → x.bodyWithin k n = some b) ∧
    (∀ c, b = some c ↔ c ∈ root.preorder ∧ c.ownsBody = true ∧ Node.DirectlyIn c n) ∧
    (b = none ↔ ∀ c ∈ root.preorder, c.ownsBody = true → n ∈ c.preorder → n = c)

theorem mem_foldl_cons {i j : NodeId} (k : NodeId) (cs : List Node) (ps : List (NodeId × NodeId)) :
    (i, j) ∈ cs.foldl (fun ps c => (c.id, k) :: ps) ps ↔
      (i, j) ∈ ps ∨ k = j ∧ ∃ c ∈ cs, c.id = i := by
  induction cs generalizing ps with
  | nil => simp
  | cons c cs ih =>
      rw [List.foldl_cons, ih]
      simp only [List.mem_cons, Prod.mk.injEq, exists_eq_or_imp]
      grind

theorem foldl_visit (ns : List Node) (x : Index) :
    (ns.foldl visit x).nodes = (ns.map fun n => (n.id, n)).reverse ++ x.nodes ∧
      ∀ i j, (i, j) ∈ (ns.foldl visit x).parents ↔
        (i, j) ∈ x.parents ∨ ∃ n ∈ ns, n.id = j ∧ ∃ c ∈ n.children, c.id = i := by
  induction ns generalizing x with
  | nil => simp
  | cons n ns ih =>
      obtain ⟨hnodes, hparents⟩ := ih (x.visit n)
      rw [List.foldl_cons]
      constructor
      · rw [hnodes]
        simp [visit]
      · intro i j
        rw [hparents, visit, mem_foldl_cons]
        simp only [List.mem_cons, exists_eq_or_imp]
        grind

section

variable {root : Node}

theorem nodes_ofTree : (ofTree root).nodes = (root.preorder.map fun n => (n.id, n)).reverse := by
  rw [ofTree, Node.walk_never, (foldl_visit _ _).1, List.append_nil]

theorem mem_parents_ofTree {i j : NodeId} : (i, j) ∈ (ofTree root).parents ↔
    ∃ p ∈ root.preorder, p.id = j ∧ ∃ c ∈ p.children, c.id = i := by
  rw [ofTree, Node.walk_never, (foldl_visit _ _).2]
  simp

variable (h : root.Ordered)

include h

theorem node?_ofTree (i : NodeId) (n : Node) :
    (ofTree root).node? i = some n ↔ n ∈ root.preorder ∧ n.id = i := by
  have hkeys : ((ofTree root).nodes.map Prod.fst).Nodup := by
    rw [nodes_ofTree, List.map_reverse, List.nodup_reverse, List.map_map]
    exact h.imp Int.ne_of_lt
  rw [node?, lookup_eq_some_iff_mem hkeys, nodes_ofTree, List.mem_reverse, List.mem_map]
  constructor
  · rintro ⟨v, hv, heq⟩
    cases heq
    exact ⟨hv, rfl⟩
  · rintro ⟨hn, rfl⟩
    exact ⟨n, hn, rfl⟩

theorem parent?_ofTree {n : Node} (hn : n ∈ root.preorder) (p : Node) :
    (ofTree root).parent? n = some p ↔ p ∈ root.preorder ∧ n ∈ p.children := by
  have hentered {j : NodeId} (hj : (ofTree root).parents.lookup n.id = some j) :
      ∃ q ∈ root.preorder, q.id = j ∧ n ∈ q.children := by
    obtain ⟨q, hq, hid, c, hc, hcid⟩ := mem_parents_ofTree.mp (mem_of_lookup hj)
    have hcroot := Node.mem_preorder_trans (Node.mem_preorder_of_child hc c.mem_preorder_self) hq
    exact ⟨q, hq, hid, h.eq_of_id hcroot hn hcid ▸ hc⟩
  constructor
  · intro hp
    obtain ⟨j, hj, hp⟩ := Option.bind_eq_some_iff.mp hp
    obtain ⟨q, hq, hid, hnq⟩ := hentered hj
    obtain ⟨hp, hpid⟩ := (node?_ofTree h j p).mp hp
    rw [h.eq_of_id hp hq (hpid.trans hid.symm)]
    exact ⟨hq, hnq⟩
  · rintro ⟨hp, hnp⟩
    obtain ⟨j, hj⟩ := exists_lookup (mem_parents_ofTree.mpr ⟨p, hp, rfl, n, hnp, rfl⟩)
    obtain ⟨q, hq, hid, hnq⟩ := hentered hj
    rw [parent?, hj, Option.bind_some, node?_ofTree h]
    exact ⟨hp, h.eq_of_child hp hq hnp hnq ▸ hid⟩

theorem parent?_ofTree_eq_none {n : Node} (hn : n ∈ root.preorder) :
    (ofTree root).parent? n = none ↔ n = root := by
  constructor
  · intro hnone
    rcases Node.exists_parent hn with heq | ⟨p, hp, hnp⟩
    · exact heq
    · rw [(parent?_ofTree h hn p).mpr ⟨hp, hnp⟩] at hnone
      cases hnone
  · rintro rfl
    rw [Option.eq_none_iff_forall_ne_some]
    intro p hp
    obtain ⟨hp, hnp⟩ := (parent?_ofTree h hn p).mp hp
    exact absurd (Node.length_preorder_le hp) (Nat.not_le_of_lt (Node.length_preorder_lt hnp))

theorem directlyIn_child_iff {b p n : Node} (hb : b ∈ root.preorder) (hob : b.ownsBody = true)
    (hp : p ∈ root.preorder) (hop : p.ownsBody = false) (hn : n ∈ p.children) :
    Node.DirectlyIn b n ↔ Node.DirectlyIn b p := by
  rw [Node.directlyIn_iff_last]
  constructor
  · rintro (hnb | ⟨q, hq, -, hnq⟩)
    · rw [h.eq_of_child hb hp hnb hn, hop] at hob
      cases hob
    · have hqroot := Node.mem_preorder_trans hq.mem_and_lt.1 hb
      exact h.eq_of_child hqroot hp hnq hn ▸ hq
  · exact fun hbp => .inr ⟨p, hbp, hop, hn⟩

structure Ends (root n : Node) (b : Option Node) : Prop where
  within : ∀ k : Nat, n.id ≤ k → (ofTree root).bodyWithin k n = some b
  nearest : ∀ c, b = some c ↔ c ∈ root.preorder ∧ c.ownsBody = true ∧ Node.DirectlyIn c n

theorem id_pos (hpos : 0 < root.id) {n : Node} (hn : n ∈ root.preorder) : 0 < n.id := by
  rcases Node.mem_preorder_iff.mp hn with rfl | ⟨c, hc, hnc⟩
  · exact hpos
  · exact hpos.trans (h.id_lt hc (List.mem_map_of_mem hnc))

omit h in
theorem within_of_succ {n : Node} {b : Option Node} (hn : 0 < n.id)
    (hb : ∀ k : Nat, n.id ≤ (k + 1 : Nat) → (ofTree root).bodyWithin (k + 1) n = some b) (k : Nat)
    (hle : n.id ≤ k) : (ofTree root).bodyWithin k n = some b := by
  cases k with
  | zero => exact absurd hle (Int.not_le.mpr hn)
  | succ k => exact hb k hle

theorem ends_root (hpos : 0 < root.id) : Ends root root none := by
  have hroot := root.mem_preorder_self
  have hparent := (parent?_ofTree_eq_none h hroot).mpr rfl
  refine ⟨within_of_succ hpos fun k _ => by rw [bodyWithin, hparent], fun c => ?_⟩
  constructor
  · exact nofun
  · rintro ⟨hc, -, hin⟩
    exact absurd (Node.length_preorder_le hc) (Nat.not_le_of_lt hin.mem_and_lt.2)

section

variable {n p : Node} (hn : 0 < n.id) (hp : p ∈ root.preorder) (hnp : n ∈ p.children)

include hn hp hnp

theorem ends_body (ho : p.ownsBody = true) : Ends root n (some p) := by
  have hnroot := Node.mem_preorder_trans (Node.mem_preorder_of_child hnp n.mem_preorder_self) hp
  have hparent := (parent?_ofTree h hnroot p).mpr ⟨hp, hnp⟩
  refine ⟨within_of_succ hn fun k _ => ?_, fun c => ?_⟩
  · rw [bodyWithin, hparent]
    simp [ho]
  · constructor
    · intro heq
      cases heq
      exact ⟨hp, ho, .child hnp⟩
    · rintro ⟨hc, hoc, hin⟩
      rw [h.directlyIn_unique hp hc ho hoc (.child hnp) hin]

theorem Ends.child {b : Option Node} (hb : Ends root p b) (ho : p.ownsBody = false) :
    Ends root n b := by
  have hnroot := Node.mem_preorder_trans (Node.mem_preorder_of_child hnp n.mem_preorder_self) hp
  have hparent := (parent?_ofTree h hnroot p).mpr ⟨hp, hnp⟩
  have hlt : p.id < n.id := (h.of_mem hp).id_lt hnp (Node.id_mem_ids n)
  refine ⟨within_of_succ hn fun k hle => ?_, fun c => ?_⟩
  · rw [bodyWithin, hparent]
    simp only [ho, Bool.false_eq_true, if_false]
    exact hb.within k (Int.le_of_lt_add_one (Int.lt_of_lt_of_le hlt hle))
  · rw [hb.nearest]
    exact and_congr_right fun hc => and_congr_right fun hoc =>
      (directlyIn_child_iff h hc hoc hp ho hnp).symm

end

theorem exists_ends (hpos : 0 < root.id) {n : Node} (hn : n ∈ root.preorder) :
    ∃ b, Ends root n b := by
  have hnpos := id_pos h hpos hn
  induction hk : n.id.toNat using Nat.strongRecOn generalizing n with
  | ind i ih =>
      rcases Node.exists_parent hn with rfl | ⟨p, hp, hnp⟩
      · exact ⟨none, ends_root h hpos⟩
      · cases ho : p.ownsBody with
        | true => exact ⟨some p, ends_body h hnpos hp hnp ho⟩
        | false =>
            have hlt : p.id < n.id := (h.of_mem hp).id_lt hnp (Node.id_mem_ids n)
            have hsmaller : p.id.toNat < i := hk ▸ (Int.toNat_lt_toNat hnpos).mpr hlt
            obtain ⟨b, hb⟩ := ih _ hsmaller hp (id_pos h hpos hp) rfl
            exact ⟨b, hb.child h hnpos hp hnp ho⟩

theorem describes_ofTree (hpos : 0 < root.id) : (ofTree root).Describes root := by
  refine ⟨node?_ofTree h, fun n hn => parent?_ofTree h hn, fun n hn => parent?_ofTree_eq_none h hn,
    fun n hn => ?_⟩
  obtain ⟨b, hwithin, hiff⟩ := exists_ends h hpos hn
  refine ⟨b, hwithin, hiff, ?_⟩
  constructor
  · rintro rfl c hc ho hnc
    rcases Node.mem_preorder_iff.mp hnc with heq | ⟨d, hd, hnd⟩
    · exact heq
    · rcases Node.directlyIn_or_exists hd hnd with hin | ⟨e, he, hoe, hin⟩
      · cases (hiff c).mpr ⟨hc, ho, hin⟩
      · have heroot := Node.mem_preorder_trans (Node.mem_preorder_of_child hd he) hc
        cases (hiff e).mpr ⟨heroot, hoe, hin⟩
  · intro hnone
    rw [Option.eq_none_iff_forall_ne_some]
    intro c hc
    obtain ⟨hc, ho, hin⟩ := (hiff c).mp hc
    have heq := hnone c hc ho hin.mem_and_lt.1
    exact absurd hin.mem_and_lt.2 (heq ▸ Nat.lt_irrefl _)

end

end Index

theorem Node.parent_of_mem_entriesIn {n : Node} {s : Surroundings} {e : Entry}
    (hs : n.isModule = true → s = .outermost) (he : e ∈ n.entriesIn s) :
    (e.node = n ∧ e.parent = s.parent) ∨
      ∃ p ∈ n.preorder, e.node ∈ p.children ∧ e.parent = some p.id := by
  induction n using child_induction generalizing s with
  | step n ih =>
      rw [entriesIn_eq s hs, List.mem_cons, List.mem_flatMap] at he
      rcases he with rfl | ⟨c, hc, he⟩
      · exact .inl ⟨rfl, rfl⟩
      · have hmodule : c.isModule = true → s.within n = .outermost := fun hm => by
          rw [not_isModule_of_child hc] at hm
          cases hm
        rcases ih c hc hmodule he with ⟨hnode, hparent⟩ | ⟨p, hp, hchild, hparent⟩
        · exact .inr ⟨n, n.mem_preorder_self, hnode ▸ hc, hparent⟩
        · exact .inr ⟨p, mem_preorder_of_child hc hp, hchild, hparent⟩

end ChainLint.Tree

namespace ChainLint.Analysis

open Tree

def root (a : Analysis) : Node := .module a.module

def index (a : Analysis) : Index := .ofTree a.root

theorem describes_root (m : Module) : (ofModule m).index.Describes (ofModule m).root := by
  apply Index.describes_ofTree (ordered_module m)
  obtain ⟨_, hids⟩ := exists_consecutive m
  rw [Node.ids_eq] at hids
  rw [hids.1]
  exact Int.one_pos

theorem entry_of_index (m : Module) {e : Entry} (he : e ∈ (ofModule m).module.entries) :
    e.parent.bind (ofModule m).node? = (ofModule m).index.parent? e.node ∧
      ∀ k : Nat, e.node.id ≤ k →
        (ofModule m).index.bodyWithin k e.node = some ((ofModule m).body? e) := by
  have hindex := describes_root m
  have hnode : e.node ∈ (ofModule m).root.preorder := List.mem_map_of_mem he
  constructor
  · rcases Node.parent_of_mem_entriesIn (n := .module _) (fun _ => rfl) he with
      ⟨htop, hparent⟩ | ⟨p, hp, hchild, hparent⟩
    · rw [hparent, (hindex.top _ hnode).mpr htop]
      rfl
    · rw [hparent, Option.bind_some, node?_id hp, (hindex.parent _ hnode p).mpr ⟨hp, hchild⟩]
  · intro k hk
    obtain ⟨b, hwithin, hiff, -⟩ := hindex.body _ hnode
    rw [hwithin k hk]
    refine congrArg some (Option.ext fun c => ?_)
    rw [hiff, body?_eq_some_iff he]
    rfl

/-- The nodes of an analysed tree are numbered from 1 on in their order, those below a node after it
without a gap. Its index finds each node by number, the one that it stands right below and the nearest
closure or function above, and the entries of the analysis hold the same. -/
theorem index_of_module (m : Module) :
    (ofModule m).root.ids =
        (List.range (ofModule m).root.preorder.length).map (fun j : Nat => 1 + (j : Int)) ∧
      (∀ n ∈ (ofModule m).root.preorder,
        n.ids = (List.range n.preorder.length).map fun j : Nat => n.id + (j : Int)) ∧
      (ofModule m).index.Describes (ofModule m).root ∧
      (∀ i, (ofModule m).node? i = (ofModule m).index.node? i) ∧
      ∀ e ∈ (ofModule m).module.entries,
        e.parent.bind (ofModule m).node? = (ofModule m).index.parent? e.node ∧
          ∀ k : Nat, e.node.id ≤ k →
            (ofModule m).index.bodyWithin k e.node = some ((ofModule m).body? e) := by
  obtain ⟨_, hids⟩ := exists_consecutive m
  have hlength (n : Node) : n.ids.length = n.preorder.length := List.length_map _
  have hindex := describes_root m
  refine ⟨?_, fun n hn => ?_, hindex, fun i => ?_, fun e he => entry_of_index m he⟩
  · rw [← hlength]
    exact hids.eq_map_range
  · obtain ⟨_, hbelow⟩ := Node.exists_consecutive hids hn
    rw [← hlength]
    exact hbelow.eq_map_range
  · refine Option.ext fun n => ?_
    rw [node?_eq_some_iff, hindex.node]
    rfl

example :
    let i : Info := ⟨0, {}⟩
    let closure := Expr.closure i [⟨i, .binding i "x" false, none⟩] (.var i "x" none) false
    let a := ofModule ⟨i, none, [⟨i, "f", [], .mk i [] (some closure), none⟩]⟩
    a.module.entries.map (fun e => (a.index.bodyWithin 7 e.node).map (·.map Node.id)) =
      [some none, some none, some (some 2), some (some 2), some (some 4), some (some 4),
        some (some 4)] := by
  decide +kernel

end ChainLint.Analysis
