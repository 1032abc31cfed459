import ChainLint.Proofs.Tree.Order

namespace ChainLint.Tree

namespace Node

def entriesIn (s : Surroundings) : Node → List Entry
  | .module m => m.entries
  | .function f => f.entries s
  | .param p => p.entries s
  | .pat p => p.entries s
  | .block b => b.entries s
  | .stmt t => t.entries s
  | .expr e => e.entries s

theorem patEntries_eq (s : Surroundings) (ps : List Pat) :
    patEntries s ps = (ps.map .pat).flatMap (entriesIn s) := by
  induction ps with
  | nil => rfl
  | cons p ps ih =>
      rw [patEntries, ih]
      rfl

theorem exprEntries_eq (s : Surroundings) (es : List Expr) :
    exprEntries s es = (es.map .expr).flatMap (entriesIn s) := by
  induction es with
  | nil => rfl
  | cons e es ih =>
      rw [exprEntries, ih]
      rfl

theorem optionEntries_eq (s : Surroundings) (o : Option Expr) :
    optionEntries s o = (o.toList.map .expr).flatMap (entriesIn s) := by
  cases o with
  | none => rfl
  | some e => exact (List.append_nil _).symm

theorem stmtEntries_eq (s : Surroundings) (ts : List Stmt) :
    stmtEntries s ts = (ts.map .stmt).flatMap (entriesIn s) := by
  induction ts with
  | nil => rfl
  | cons t ts ih =>
      rw [stmtEntries, ih]
      rfl

def isModule : Node → Bool
  | .module _ => true
  | _ => false

theorem entriesIn_eq (s : Surroundings) {n : Node} (hs : n.isModule = true → s = .outermost) :
    n.entriesIn s = s.entry n :: n.children.flatMap (entriesIn (s.within n)) := by
  cases n with
  | module m =>
      cases hs rfl
      simp [entriesIn, Module.entries, children, List.flatMap_map]
  | function f =>
      simp [entriesIn, Function.entries, children, List.flatMap_map]
  | param p => simp [entriesIn, Param.entries, children]
  | pat p =>
      cases p <;> simp [entriesIn, Pat.entries, children, patEntries_eq]
  | block b =>
      obtain ⟨i, ss, tail⟩ := b
      simp [entriesIn, Block.entries, children, stmtEntries_eq, optionEntries_eq]
  | stmt t =>
      cases t <;> simp [entriesIn, Stmt.entries, children, optionEntries_eq]
  | expr e =>
      cases e <;> simp [entriesIn, Expr.entries, children, Expr.children, exprEntries_eq,
        optionEntries_eq, List.flatMap_map]

theorem not_isModule_of_child {n c : Node} (hc : c ∈ n.children) : c.isModule = false := by
  cases n with
  | pat p => cases p <;> grind [children, isModule]
  | block b => cases b; grind [children, isModule]
  | stmt s => cases s <;> grind [children, isModule]
  | expr e => cases e <;> grind [children, Expr.children, isModule]
  | _ => grind [children, isModule]

inductive DirectlyIn : Node → Node → Prop
  | child {n c : Node} (hc : c ∈ n.children) : DirectlyIn n c
  | step {n c v : Node} (hc : c ∈ n.children) (ho : c.ownsBody = false) (hv : DirectlyIn c v) :
      DirectlyIn n v

theorem DirectlyIn.mem_preorder {n v : Node} (h : DirectlyIn n v) :
    ∃ c ∈ n.children, v ∈ c.preorder := by
  induction h with
  | child hc => exact ⟨_, hc, mem_preorder_self _⟩
  | step hc _ _ ih =>
      obtain ⟨d, hd, hv⟩ := ih
      exact ⟨_, hc, mem_preorder_of_child hd hv⟩

theorem body_of_mem_entriesIn {n : Node} {s : Surroundings} {e : Entry}
    (hs : n.isModule = true → s = .outermost) (he : e ∈ n.entriesIn s) :
    (e.body = s.body ∧ (e.node = n ∨ n.ownsBody = false ∧ DirectlyIn n e.node)) ∨
      ∃ b ∈ n.preorder, b.ownsBody = true ∧ e.body = some b.id ∧ DirectlyIn b e.node := by
  induction n using child_induction generalizing s with
  | step n ih =>
      rw [entriesIn_eq s hs, List.mem_cons, List.mem_flatMap] at he
      rcases he with rfl | ⟨c, hc, he⟩
      · exact .inl ⟨rfl, .inl rfl⟩
      · have hmodule := not_isModule_of_child hc
        rcases ih c hc (fun h => absurd h (by simp [hmodule])) he with ⟨hbody, hin⟩ | ⟨b, hb, h⟩
        · have hdirect : DirectlyIn n e.node := by
            rcases hin with hin | ⟨ho, hin⟩
            · exact hin ▸ .child hc
            · exact .step hc ho hin
          rw [Surroundings.within] at hbody
          split at hbody
          · next ho => exact .inr ⟨n, mem_preorder_self n, ho, hbody, hdirect⟩
          · next ho => exact .inl ⟨hbody, .inr ⟨by simpa using ho, hdirect⟩⟩
        · exact .inr ⟨b, mem_preorder_of_child hc hb, h⟩

theorem DirectlyIn.mem_and_lt {n v : Node} (h : DirectlyIn n v) :
    v ∈ n.preorder ∧ v.preorder.length < n.preorder.length := by
  obtain ⟨c, hc, hv⟩ := h.mem_preorder
  exact ⟨mem_preorder_of_child hc hv,
    Nat.lt_of_le_of_lt (length_preorder_le hv) (length_preorder_lt hc)⟩

theorem Ordered.eq_of_directlyIn {n b v : Node} (h : n.Ordered) (hn : DirectlyIn n v)
    (hb : b ∈ n.preorder) (ho : b.ownsBody = true) (hv : DirectlyIn b v) : b = n := by
  induction n using child_induction with
  | step n ih =>
      rcases mem_preorder_iff.mp hb with rfl | ⟨d, hd, hbd⟩
      · rfl
      · have hvd := mem_preorder_trans hv.mem_and_lt.1 hbd
        cases hn with
        | child hc =>
            have hdv := h.eq_of_mem hd hc hvd (mem_preorder_self v)
            have := hv.mem_and_lt.2
            have := length_preorder_le hbd
            rw [hdv] at this
            omega
        | @step _ c _ hc hoc hvc =>
            have hdc := h.eq_of_mem hd hc hvd hvc.mem_and_lt.1
            rw [hdc] at hbd
            have hbc := ih c hc (h.child hc) hvc hbd
            rw [hbc, hoc] at ho
            cases ho

theorem Ordered.directlyIn_unique {root b b' v : Node} (h : root.Ordered) (hb : b ∈ root.preorder)
    (hb' : b' ∈ root.preorder) (ho : b.ownsBody = true) (ho' : b'.ownsBody = true)
    (hv : DirectlyIn b v) (hv' : DirectlyIn b' v) : b = b' := by
  induction root using child_induction with
  | step root ih =>
      rcases mem_preorder_iff.mp hb with rfl | ⟨d, hd, hbd⟩
      · exact (h.eq_of_directlyIn hv hb' ho' hv').symm
      · rcases mem_preorder_iff.mp hb' with rfl | ⟨d', hd', hbd'⟩
        · exact h.eq_of_directlyIn hv' hb ho hv
        · have hdd := h.eq_of_mem hd hd' (mem_preorder_trans hv.mem_and_lt.1 hbd)
            (mem_preorder_trans hv'.mem_and_lt.1 hbd')
          subst hdd
          exact ih d hd (h.child hd) hbd hbd'

theorem Ordered.eq_of_child {n p q k : Node} (h : n.Ordered) (hp : p ∈ n.preorder)
    (hq : q ∈ n.preorder) (hkp : k ∈ p.children) (hkq : k ∈ q.children) : p = q := by
  have hin {p d : Node} (hkp : k ∈ p.children) (hp : p ∈ d.preorder) : k ∈ d.preorder :=
    mem_preorder_trans (mem_preorder_of_child hkp k.mem_preorder_self) hp
  -- A child of the root is no child of a node further below, since this would stand in it.
  have habove {n q d : Node} (h : n.Ordered) (hkn : k ∈ n.children) (hd : d ∈ n.children)
      (hq : q ∈ d.preorder) (hkq : k ∈ q.children) : False := by
    have hkd := h.eq_of_mem hkn hd k.mem_preorder_self (hin hkq hq)
    have hlt := length_preorder_lt hkq
    have hle := length_preorder_le hq
    rw [← hkd] at hle
    omega
  induction n using child_induction with
  | step n ih =>
      rcases mem_preorder_iff.mp hp with rfl | ⟨d, hd, hpd⟩
      · rcases mem_preorder_iff.mp hq with rfl | ⟨e, he, hqe⟩
        · rfl
        · exact (habove h hkp he hqe hkq).elim
      · rcases mem_preorder_iff.mp hq with rfl | ⟨e, he, hqe⟩
        · exact (habove h hkq hd hpd hkp).elim
        · have hde := h.eq_of_mem hd he (hin hkp hpd) (hin hkq hqe)
          exact ih d hd (h.child hd) hpd (hde ▸ hqe)

theorem exists_parent {n v : Node} (hv : v ∈ n.preorder) :
    v = n ∨ ∃ p ∈ n.preorder, v ∈ p.children := by
  induction n using child_induction with
  | step n ih =>
      rcases mem_preorder_iff.mp hv with rfl | ⟨c, hc, hv⟩
      · exact .inl rfl
      · rcases ih c hc hv with rfl | ⟨p, hp, hvp⟩
        · exact .inr ⟨n, n.mem_preorder_self, hc⟩
        · exact .inr ⟨p, mem_preorder_of_child hc hp, hvp⟩

theorem Ordered.mem_of_child {n f k p q : Node} (h : n.Ordered) (hp : p ∈ n.preorder)
    (hq : q ∈ n.preorder) (hf : f ∈ q.children) (hk : k ∈ f.preorder) (hkp : k ∈ p.children) :
    p = q ∨ p ∈ f.preorder := by
  rcases exists_parent hk with rfl | ⟨p', hp', hkp'⟩
  · exact .inl (h.eq_of_child hp hq hkp hf)
  · have hmem := mem_preorder_trans hp' (mem_preorder_trans (mem_preorder_of_child hf
      f.mem_preorder_self) hq)
    exact .inr (h.eq_of_child hp hmem hkp hkp' ▸ hp')

end Node

end ChainLint.Tree

namespace ChainLint.Analysis

open Tree

theorem ordered_module (m : Module) : (Node.module (Analysis.ofModule m).module).Ordered :=
  m.ordered_resolve_number 1

theorem exists_consecutive (m : Module) :
    ∃ l, Consecutive 1 (Node.module (ofModule m).module).ids l := by
  refine ⟨(m.number 1).2, ?_⟩
  have hids := m.number_consecutive 1
  rw [← Node.ids_resolve (.module (m.number 1).1) []] at hids
  exact hids

theorem id_of_getElem? {m : Module} {n : Node} {k : Nat}
    (h : (Node.module (ofModule m).module).preorder[k]? = some n) : n.id = 1 + (k : Int) := by
  obtain ⟨_, hids⟩ := exists_consecutive m
  obtain ⟨hk, -⟩ := List.getElem?_eq_some_iff.mp h
  have hid := hids.getElem? k (by rw [Node.ids, List.length_map]; exact hk)
  rw [Node.ids, List.getElem?_map, h] at hid
  exact Option.some.inj hid

theorem node?_of_pos (m : Module) {i : NodeId} (h : 0 < i) :
    (ofModule m).node? i = (Node.module (ofModule m).module).preorder[(i - 1).toNat]? := by
  rw [node?, entry?, if_pos h]
  change ((ofModule m).module.entries.toArray[(i - 1).toNat]?).map Entry.node = _
  rw [List.getElem?_toArray, ← List.getElem?_map]
  rfl

theorem node?_eq_some_iff {m : Module} {i : NodeId} {n : Node} : (ofModule m).node? i = some n ↔
    n ∈ (Node.module (ofModule m).module).preorder ∧ n.id = i := by
  constructor
  · intro h
    by_cases hpos : 0 < i
    · rw [node?_of_pos m hpos] at h
      have hid := id_of_getElem? h
      have hle : 0 ≤ i - 1 := Int.sub_nonneg_of_le hpos
      rw [Int.toNat_of_nonneg hle, add_sub_cancel] at hid
      exact ⟨List.mem_of_getElem? h, hid⟩
    · rw [node?, entry?, if_neg hpos] at h
      cases h
  · rintro ⟨hn, rfl⟩
    obtain ⟨k, hk⟩ := List.mem_iff_getElem?.mp hn
    have hid := id_of_getElem? hk
    have hpos : 0 < n.id := by
      rw [hid]
      exact Int.add_pos_of_pos_of_nonneg Int.one_pos (Int.natCast_nonneg k)
    rw [node?_of_pos m hpos, hid, add_sub_cancel_left, Int.toNat_natCast, hk]

theorem node?_id {m : Module} {n : Node}
    (hn : n ∈ (Node.module (Analysis.ofModule m).module).preorder) :
    (Analysis.ofModule m).node? n.id = some n :=
  node?_eq_some_iff.mpr ⟨hn, rfl⟩

theorem body?_eq_some_iff {m : Module} {e : Entry} {b : Node}
    (he : e ∈ (Analysis.ofModule m).module.entries) :
    (Analysis.ofModule m).body? e = some b ↔
      b ∈ (Node.module (Analysis.ofModule m).module).preorder ∧ b.ownsBody = true ∧
        Node.DirectlyIn b e.node := by
  have hordered := ordered_module m
  have hsome {c : Node} (hc : c ∈ (Node.module (Analysis.ofModule m).module).preorder)
      (h : e.body = some c.id) : (Analysis.ofModule m).body? e = some c := by
    rw [body?, h, Option.bind_some, node?_id hc]
  rcases Node.body_of_mem_entriesIn (n := .module _) (fun _ => rfl) he with
    ⟨hbody, hin⟩ | ⟨c, hc, ho, hbody, hv⟩
  · have hnone : (Analysis.ofModule m).body? e = none := by
      rw [body?, hbody]
      rfl
    constructor
    · intro h
      rw [hnone] at h
      cases h
    · rintro ⟨hb, ho, hv⟩
      rcases hin with hin | ⟨-, hin⟩
      · have := hv.mem_and_lt.2
        have := Node.length_preorder_le hb
        rw [hin] at *
        omega
      · rw [hordered.eq_of_directlyIn hin hb ho hv] at ho
        cases ho
  · rw [hsome hc hbody]
    constructor
    · rintro h
      cases h
      exact ⟨hc, ho, hv⟩
    · rintro ⟨hb, ho', hv'⟩
      rw [hordered.directlyIn_unique hc hb ho ho' hv hv']

end ChainLint.Analysis
