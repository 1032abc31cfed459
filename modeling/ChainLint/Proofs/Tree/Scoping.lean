import ChainLint.Proofs.Tree.Numbering
import ChainLint.Tree.Scope
import Mathlib.Data.List.Basic
import Mathlib.Data.List.Nodup
import Mathlib.Order.Bounds.Basic
import Mathlib.Algebra.Order.Ring.Int

namespace ChainLint.Tree

namespace Node

inductive Opens : Node → Pat → Node → Prop
  | function {f : Function} {p : Param} : p ∈ f.params →
      Opens (.function f) p.pattern (.block f.body)
  | closure {i : Info} {ps : List Param} {p : Param} {body : Expr} {isMove : Bool} : p ∈ ps →
      Opens (.expr (.closure i ps body isMove)) p.pattern (.expr body)
  | forLoop {i : Info} {p : Pat} {iterable : Expr} {body : Block} :
      Opens (.expr (.forLoop i p iterable body)) p (.block body)
  | laterStmt {i j : Info} {before between after : List Stmt} {p : Pat}
      {declared : Option TypeExpr} {value : Option Expr} {s : Stmt} {tail : Option Expr} :
      Opens (.block (.mk i (before ++ .letIn j p declared value :: between ++ s :: after) tail)) p
        (.stmt s)
  | tail {i j : Info} {before after : List Stmt} {p : Pat} {declared : Option TypeExpr}
      {value : Option Expr} {e : Expr} :
      Opens (.block (.mk i (before ++ .letIn j p declared value :: after) (some e))) p (.expr e)

theorem Opens.child {n part : Node} {p : Pat} (h : Opens n p part) : part ∈ n.children := by
  cases h with
  | function => simp [children]
  | closure => simp [children, Expr.children]
  | forLoop => simp [children, Expr.children]
  | laterStmt => simp [children]
  | tail => simp [children]

def InScope (root binding use : Node) : Prop :=
  ∃ n ∈ root.preorder, ∃ p part, Opens n p part ∧ binding ∈ (Node.pat p).preorder ∧
    use ∈ part.preorder

def binding? : Node → Option (String × NodeId)
  | .pat (.binding i name _) => some (name, i.id)
  | _ => none

def introduced (ns : List Node) : Scope := (ns.flatMap preorder).filterMap binding?

theorem mem_introduced {x : String × NodeId} {ns : List Node} :
    x ∈ introduced ns ↔ ∃ n ∈ ns, ∃ b ∈ n.preorder, binding? b = some x := by
  simp only [introduced, List.mem_filterMap, List.mem_flatMap]
  exact ⟨fun ⟨b, ⟨n, hn, hb⟩, hx⟩ => ⟨n, hn, b, hb, hx⟩,
    fun ⟨n, hn, b, hb, hx⟩ => ⟨b, ⟨n, hn, hb⟩, hx⟩⟩

theorem introduced_cons (n : Node) (ns : List Node) :
    introduced (n :: ns) = introduced [n] ++ introduced ns := by
  simp [introduced]

theorem introduced_ids (ns : List Node) :
    ((introduced ns).map Prod.snd).Sublist (idsOf ns) := by
  have h (l : List Node) : ((l.filterMap binding?).map Prod.snd).Sublist (l.map Node.id) := by
    induction l with
    | nil => exact .slnil
    | cons n l ih =>
        rw [List.filterMap_cons, List.map_cons]
        split
        · exact ih.cons _
        · next x hx =>
            have hid : x.2 = n.id := by
              unfold binding? at hx
              split at hx
              · cases hx; rfl
              · cases hx
            rw [List.map_cons, hid]
            exact ih.cons_cons _
  have := h (ns.flatMap preorder)
  rwa [List.map_flatMap] at this

def letPatterns : List Stmt → List Node
  | [] => []
  | .expr _ _ :: ss => letPatterns ss
  | .letIn _ p _ _ :: ss => .pat p :: letPatterns ss

theorem letPatterns_append (a b : List Stmt) :
    letPatterns (a ++ b) = letPatterns a ++ letPatterns b := by
  induction a with
  | nil => rfl
  | cons s ss ih => cases s <;> simp [letPatterns, ih]

theorem mem_letPatterns {n : Node} {ss : List Stmt} :
    n ∈ letPatterns ss ↔ ∃ before i p declared value after,
      ss = before ++ .letIn i p declared value :: after ∧ n = .pat p := by
  induction ss with
  | nil => simp [letPatterns]
  | cons s ss ih =>
      constructor
      · intro h
        cases s with
        | expr i value =>
            obtain ⟨before, j, p, d, v, after, rfl, rfl⟩ := ih.mp h
            exact ⟨.expr i value :: before, j, p, d, v, after, rfl, rfl⟩
        | letIn i p declared value =>
            rcases List.mem_cons.mp h with rfl | h
            · exact ⟨[], i, p, declared, value, ss, rfl, rfl⟩
            · obtain ⟨before, j, q, d, v, after, rfl, rfl⟩ := ih.mp h
              exact ⟨.letIn i p declared value :: before, j, q, d, v, after, rfl, rfl⟩
      · rintro ⟨before, i, p, declared, value, after, he, rfl⟩
        rw [he, letPatterns_append]
        exact List.mem_append_right _ List.mem_cons_self

theorem idsOf_letPatterns (ss : List Stmt) : (idsOf (letPatterns ss)).Sublist (idsOf (ss.map .stmt)) := by
  induction ss with
  | nil => exact .slnil
  | cons s ss ih =>
      cases s with
      | expr i value => exact ih.trans (List.sublist_append_right _ _)
      | letIn i p declared value =>
          refine List.Sublist.append ?_ ih
          rw [(Node.stmt _).ids_eq]
          exact (List.sublist_append_left _ _).cons _

/-- The parts of a node in which names are looked up, and the nodes whose bindings the node adds
for them. -/
inductive Sees : Node → List Node → Node → Prop
  | function {f : Function} : Sees (.function f) (f.params.map .param) (.block f.body)
  | closure {i : Info} {ps : List Param} {body : Expr} {isMove : Bool} :
      Sees (.expr (.closure i ps body isMove)) (ps.map .param) (.expr body)
  | iterable {i : Info} {p : Pat} {iterable : Expr} {body : Block} :
      Sees (.expr (.forLoop i p iterable body)) [] (.expr iterable)
  | loopBody {i : Info} {p : Pat} {iterable : Expr} {body : Block} :
      Sees (.expr (.forLoop i p iterable body)) [.pat p] (.block body)
  | stmt {i : Info} {before after : List Stmt} {s : Stmt} {tail : Option Expr} :
      Sees (.block (.mk i (before ++ s :: after) tail)) (letPatterns before) (.stmt s)
  | tail {i : Info} {ss : List Stmt} {e : Expr} :
      Sees (.block (.mk i ss (some e))) (letPatterns ss) (.expr e)
  | plain {n c : Node} : (∀ p part, ¬ Opens n p part) → c ∈ n.children → Sees n [] c

theorem Sees.child {n c : Node} {ns : List Node} (h : Sees n ns c) : c ∈ n.children := by
  cases h with
  | function => simp [children]
  | closure => simp [children, Expr.children]
  | iterable => simp [children, Expr.children]
  | loopBody => simp [children, Expr.children]
  | stmt => simp [children]
  | tail => simp [children]
  | plain _ hc => exact hc

theorem ids_sublist_idsOf {c : Node} {ns : List Node} (h : c ∈ ns) :
    c.ids.Sublist (idsOf ns) := by
  obtain ⟨before, after, rfl⟩ := List.append_of_mem h
  rw [idsOf_append, idsOf_cons]
  exact (List.sublist_append_left _ _).trans (List.sublist_append_right _ _)

theorem Sees.ids {n c : Node} {ns : List Node} (h : Sees n ns c) :
    (idsOf ns ++ c.ids).Sublist (idsOf n.children) := by
  cases h with
  | function => simp [children, idsOf]
  | closure => simp [children, Expr.children, idsOf]
  | iterable => exact ids_sublist_idsOf (by simp [children, Expr.children])
  | loopBody =>
      rw [idsOf_singleton, children, Expr.children, idsOf_cons, idsOf_cons, idsOf_singleton]
      exact (List.sublist_append_right _ _).append_left _
  | @stmt i before after s tail =>
      have hc : (Node.block (.mk i (before ++ s :: after) tail)).children =
          before.map .stmt ++ (.stmt s :: (after.map .stmt ++ tail.toList.map .expr)) := by
        simp [children]
      rw [hc, idsOf_append, idsOf_cons]
      exact (idsOf_letPatterns before).append (List.sublist_append_left _ _)
  | @tail i ss e =>
      simp only [children, idsOf_append]
      exact (idsOf_letPatterns ss).append (ids_sublist_idsOf (by simp))
  | plain _ hc => exact ids_sublist_idsOf hc

theorem binding_mem_param {b : Node} {x : String × NodeId} {p : Param} (hx : binding? b = some x)
    (hb : b ∈ (Node.param p).preorder) : b ∈ (Node.pat p.pattern).preorder := by
  rcases mem_preorder_iff.mp hb with rfl | ⟨c, hc, hb⟩
  · cases hx
  · rw [children, List.mem_singleton] at hc
    exact hc ▸ hb

theorem Sees.opens {n c b : Node} {ns : List Node} {x : String × NodeId} (h : Sees n ns c)
    (hx : binding? b = some x) (hb : ∃ m ∈ ns, b ∈ m.preorder) :
    ∃ p, Opens n p c ∧ b ∈ (Node.pat p).preorder := by
  obtain ⟨m, hm, hb⟩ := hb
  cases h with
  | function =>
      obtain ⟨p, hp, rfl⟩ := List.mem_map.mp hm
      exact ⟨p.pattern, .function hp, binding_mem_param hx hb⟩
  | closure =>
      obtain ⟨p, hp, rfl⟩ := List.mem_map.mp hm
      exact ⟨p.pattern, .closure hp, binding_mem_param hx hb⟩
  | iterable => cases hm
  | @loopBody i p _ _ =>
      rw [List.mem_singleton] at hm
      exact ⟨p, .forLoop, hm ▸ hb⟩
  | @stmt i before after s tail =>
      obtain ⟨first, j, p, declared, value, between, rfl, rfl⟩ := mem_letPatterns.mp hm
      refine ⟨p, ?_, hb⟩
      rw [List.append_assoc first]
      exact (List.append_assoc first _ _) ▸ .laterStmt
  | tail =>
      obtain ⟨first, j, p, declared, value, after, rfl, rfl⟩ := mem_letPatterns.mp hm
      exact ⟨p, .tail, hb⟩
  | plain _ _ => cases hm

def Ordered (n : Node) : Prop := n.ids.Pairwise (· < ·)

theorem Ordered.child {n c : Node} (h : n.Ordered) (hc : c ∈ n.children) : c.Ordered := by
  rw [Ordered, ids_eq] at h
  exact (h.sublist (List.sublist_cons_self _ _)).sublist (ids_sublist_idsOf hc)

theorem id_mem_ids (n : Node) : n.id ∈ n.ids := List.mem_map_of_mem n.mem_preorder_self

theorem nodup_of_idsOf {ns : List Node} (h : (idsOf ns).Pairwise (· < ·)) : ns.Nodup := by
  induction ns with
  | nil => exact .nil
  | cons n ns ih =>
      obtain ⟨-, htail, hlt⟩ := List.pairwise_append.mp h
      refine List.nodup_cons.mpr ⟨fun hn => ?_, ih htail⟩
      exact Int.lt_irrefl _ (hlt _ n.id_mem_ids _ ((ids_sublist_idsOf hn).subset n.id_mem_ids))

theorem Ordered.children_nodup {n : Node} (h : n.Ordered) : n.children.Nodup := by
  rw [Ordered, ids_eq] at h
  exact nodup_of_idsOf (List.pairwise_cons.mp h).2

theorem Ordered.stmts_nodup {i : Info} {ss : List Stmt} {tail : Option Expr}
    (h : (Node.block (.mk i ss tail)).Ordered) : ss.Nodup :=
  List.Nodup.of_map Node.stmt (List.nodup_append.mp h.children_nodup).1

theorem Ordered.eq_of_mem {n c d v : Node} (h : n.Ordered) (hc : c ∈ n.children)
    (hd : d ∈ n.children) (hvc : v ∈ c.preorder) (hvd : v ∈ d.preorder) : c = d := by
  rw [Ordered, ids_eq] at h
  have h := (List.pairwise_cons.mp h).2
  obtain ⟨before, after, he⟩ := List.append_of_mem hc
  rw [he, idsOf_append, idsOf_cons] at h
  have hi {m : Node} {ns : List Node} (hm : m ∈ ns) (hv : v ∈ m.preorder) : v.id ∈ idsOf ns :=
    List.mem_flatMap.mpr ⟨m, hm, List.mem_map_of_mem hv⟩
  have hvc : v.id ∈ c.ids := List.mem_map_of_mem hvc
  obtain ⟨-, h2, h1⟩ := List.pairwise_append.mp h
  obtain ⟨-, -, h3⟩ := List.pairwise_append.mp h2
  rw [he] at hd
  rcases List.mem_append.mp hd with hd | hd
  · exact absurd (h1 _ (hi hd hvd) _ (List.mem_append_left _ hvc)) (Int.lt_irrefl _)
  · rcases List.mem_cons.mp hd with rfl | hd
    · rfl
    · exact absurd (h3 _ hvc _ (hi hd hvd)) (Int.lt_irrefl _)

theorem Ordered.eq_of_id {n u v : Node} (h : n.Ordered) (hu : u ∈ n.preorder) (hv : v ∈ n.preorder)
    (hid : u.id = v.id) : u = v :=
  List.inj_on_of_nodup_map (f := Node.id) (h.imp Int.ne_of_lt) hu hv hid

theorem Ordered.of_mem {n v : Node} (h : n.Ordered) (hv : v ∈ n.preorder) : v.Ordered := by
  induction n using child_induction with
  | step n ih =>
      rcases mem_preorder_iff.mp hv with rfl | ⟨c, hc, hv⟩
      · exact h
      · exact ih c hc (h.child hc) hv

theorem Ordered.id_lt {n c : Node} {i : NodeId} (h : n.Ordered) (hc : c ∈ n.children)
    (hi : i ∈ c.ids) : n.id < i := by
  rw [Ordered, ids_eq] at h
  exact (List.pairwise_cons.mp h).1 i ((ids_sublist_idsOf hc).subset hi)

theorem Sees.mem_of_opens {n c b : Node} {ns : List Node} {p : Pat} (h : Sees n ns c)
    (hn : n.Ordered) (ho : Opens n p c) (hb : b ∈ (Node.pat p).preorder) :
    ∃ m ∈ ns, b ∈ m.preorder := by
  have param {ps : List Param} {q : Param} (hq : q ∈ ps) (hb : b ∈ (Node.pat q.pattern).preorder) :
      ∃ m ∈ ps.map Node.param, b ∈ m.preorder :=
    ⟨.param q, List.mem_map_of_mem hq, mem_preorder_of_child (List.mem_singleton_self _) hb⟩
  cases h with
  | function => cases ho with
    | function hq => exact param hq hb
  | closure => cases ho with
    | closure hq => exact param hq hb
  | iterable => cases ho
  | loopBody => cases ho with
    | forLoop => exact ⟨.pat p, List.mem_singleton_self _, hb⟩
  | @stmt i before after s tail =>
      have hs := hn.stmts_nodup
      generalize hss : before ++ s :: after = ss at ho hn hs
      cases ho with
      | @laterStmt _ j first between after' p declared value _ _ =>
          obtain ⟨-, hs, hne⟩ := List.nodup_append.mp hs
          have hfirst : s ∉ first ++ .letIn j p declared value :: between :=
            fun h => hne _ h _ List.mem_cons_self rfl
          have hbefore := ((List.append_cons_inj_of_notMem hfirst
            (List.nodup_cons.mp hs).1).mp hss.symm).1.symm
          exact ⟨.pat p, mem_letPatterns.mpr ⟨_, _, _, _, _, _, hbefore, rfl⟩, hb⟩
  | tail => cases ho with
    | tail => exact ⟨.pat p, mem_letPatterns.mpr ⟨_, _, _, _, _, _, rfl, rfl⟩, hb⟩
  | plain hp _ => exact absurd ho (hp p c)

/-- Entering `n` with scope `σ`, names at the node `v` are looked up in scope `τ`. -/
inductive Reaches : Scope → Node → Scope → Node → Prop
  | here {σ : Scope} {v : Node} : Reaches σ v σ v
  | step {σ τ : Scope} {n c v : Node} {ns : List Node} : Sees n ns c →
      Reaches ((introduced ns).reverse ++ σ) c τ v → Reaches σ n τ v

theorem Reaches.mem {σ τ : Scope} {n v : Node} (h : Reaches σ n τ v) : v ∈ n.preorder := by
  induction h with
  | here => exact mem_preorder_self _
  | step hs _ ih => exact mem_preorder_of_child hs.child ih

theorem Reaches.scope_ids {σ τ : Scope} {n v : Node} (h : Reaches σ n τ v) :
    ∀ x ∈ τ, x ∈ σ ∨ x.2 ∈ n.ids := by
  induction h with
  | here => exact fun x hx => .inl hx
  | @step σ τ n c v ns hs hr ih =>
      intro x hx
      have hids : ∀ i, i ∈ idsOf ns ∨ i ∈ c.ids → i ∈ n.ids := by
        intro i hi
        rw [ids_eq]
        exact List.mem_cons_of_mem _ (hs.ids.subset (List.mem_append.mpr hi))
      rcases ih x hx with hx | hx
      · rcases List.mem_append.mp hx with hx | hx
        · rw [List.mem_reverse] at hx
          exact .inr (hids _ (.inl ((introduced_ids ns).subset (List.mem_map_of_mem hx))))
        · exact .inl hx
      · exact .inr (hids _ (.inr hx))

theorem Reaches.through {σ τ : Scope} {root n v : Node} (h : Reaches σ root τ v)
    (hroot : root.Ordered) (hn : n ∈ root.preorder) (hv : v ∈ n.preorder) :
    ∃ ρ, Reaches ρ n τ v ∧ ∀ x ∈ ρ, x ∈ σ ∨ x.2 < n.id := by
  induction h with
  | @here σ v =>
      obtain rfl : n = v := by
        rcases mem_preorder_iff.mp hn with rfl | ⟨c, hc, hn⟩
        · rfl
        · have := length_preorder_lt hc
          have := length_preorder_le hn
          have := length_preorder_le hv
          omega
      exact ⟨σ, .here, fun _ => .inl⟩
  | @step σ τ root c v ns hs hr ih =>
      rcases mem_preorder_iff.mp hn with rfl | ⟨d, hd, hnd⟩
      · exact ⟨σ, .step hs hr, fun _ => .inl⟩
      · obtain rfl : d = c := hroot.eq_of_mem hd hs.child (mem_preorder_trans hv hnd) hr.mem
        obtain ⟨ρ, hρ, hold⟩ := ih (hroot.child hd) hnd hv
        refine ⟨ρ, hρ, fun x hx => ?_⟩
        rcases hold x hx with hx | hlt
        · rcases List.mem_append.mp hx with hx | hx
          · have hsub : (idsOf ns ++ d.ids).Sublist root.ids := by
              rw [root.ids_eq]
              exact hs.ids.cons _
            obtain ⟨-, -, hbefore⟩ := List.pairwise_append.mp (hroot.sublist hsub)
            have hin : x.2 ∈ idsOf ns :=
              (introduced_ids ns).subset (List.mem_map_of_mem (List.mem_reverse.mp hx))
            exact .inr (hbefore _ hin _ (List.mem_map_of_mem hnd))
          · exact .inl hx
        · exact .inr hlt

theorem Reaches.apart {τ : Scope} {root n c d v : Node} {x : String × NodeId}
    (h : Reaches [] root τ v) (hroot : root.Ordered) (hn : n ∈ root.preorder)
    (hplain : ∀ ns e, Sees n ns e → ns = []) (hc : c ∈ n.children) (hv : v ∈ c.preorder)
    (hd : d ∈ n.children) (hne : d ≠ c) (hx : x ∈ τ) : x.2 ∉ d.ids := by
  intro hxd
  have hordered := hroot.of_mem hn
  obtain ⟨ρ, hρ, hold⟩ := h.through hroot hn (mem_preorder_of_child hc hv)
  cases hρ with
  | here =>
      have := length_preorder_lt hc
      have := length_preorder_le hv
      omega
  | step hs hr =>
      obtain rfl := hordered.eq_of_mem hs.child hc hr.mem hv
      obtain rfl := hplain _ _ hs
      rcases hr.scope_ids x hx with hx | hxc
      · rcases hold x hx with hx | hlt
        · cases hx
        · exact Int.lt_asymm hlt (hordered.id_lt hd hxd)
      · obtain ⟨u, hu, hid⟩ := List.mem_map.mp hxd
        obtain ⟨w, hw, hid'⟩ := List.mem_map.mp hxc
        obtain rfl := hordered.eq_of_id (mem_preorder_of_child hd hu) (mem_preorder_of_child hc hw)
          (hid.trans hid'.symm)
        exact hne (hordered.eq_of_mem hd hc hu hw)

theorem inScope_step {n c b v : Node} {ns : List Node} {x : String × NodeId} (hn : n.Ordered)
    (hs : Sees n ns c) (hv : v ∈ c.preorder) (hx : binding? b = some x) :
    n.InScope b v ↔ (∃ m ∈ ns, b ∈ m.preorder) ∨ c.InScope b v := by
  constructor
  · rintro ⟨m, hm, p, part, ho, hb, hvp⟩
    rcases mem_preorder_iff.mp hm with rfl | ⟨d, hd, hmd⟩
    · have hpart : part = c := hn.eq_of_mem ho.child hs.child hvp hv
      exact .inl (hs.mem_of_opens hn (hpart ▸ ho) hb)
    · have hvd : v ∈ d.preorder :=
        mem_preorder_trans (mem_preorder_of_child ho.child hvp) hmd
      have hdc : d = c := hn.eq_of_mem hd hs.child hvd hv
      exact .inr ⟨m, hdc ▸ hmd, p, part, ho, hb, hvp⟩
  · rintro (hb | ⟨m, hm, p, part, ho, hb, hvp⟩)
    · obtain ⟨p, ho, hb⟩ := hs.opens hx hb
      exact ⟨n, mem_preorder_self n, p, c, ho, hb, hv⟩
    · exact ⟨m, mem_preorder_trans hm (mem_preorder_of_child hs.child (mem_preorder_self c)), p,
        part, ho, hb, hvp⟩

theorem Reaches.mem_scope {σ τ : Scope} {n v : Node} (h : Reaches σ n τ v) (hn : n.Ordered)
    (x : String × NodeId) :
    x ∈ τ ↔ x ∈ σ ∨ ∃ b, binding? b = some x ∧ n.InScope b v := by
  induction h with
  | @here σ v =>
      refine ⟨.inl, fun h => h.resolve_right ?_⟩
      rintro ⟨b, -, m, hm, p, part, ho, -, hv⟩
      have := length_preorder_lt ho.child
      have := length_preorder_le hm
      have := length_preorder_le hv
      omega
  | @step σ τ n c v ns hs hr ih =>
      rw [ih (hn.child hs.child), List.mem_append, List.mem_reverse, mem_introduced]
      constructor
      · rintro ((⟨m, hm, b, hb, hx⟩ | hx) | ⟨b, hx, hb⟩)
        · exact .inr ⟨b, hx, (inScope_step hn hs hr.mem hx).mpr (.inl ⟨m, hm, hb⟩)⟩
        · exact .inl hx
        · exact .inr ⟨b, hx, (inScope_step hn hs hr.mem hx).mpr (.inr hb)⟩
      · rintro (hx | ⟨b, hx, hb⟩)
        · exact .inl (.inr hx)
        · rcases (inScope_step hn hs hr.mem hx).mp hb with ⟨m, hm, hb⟩ | hb
          · exact .inl (.inl ⟨m, hm, b, hb, hx⟩)
          · exact .inr ⟨b, hx, hb⟩

def Latest (σ : Scope) : Prop := σ.Pairwise fun x y => y.2 < x.2

theorem Reaches.latest {σ τ : Scope} {n v : Node} (h : Reaches σ n τ v) (hn : n.Ordered)
    (hσ : Latest σ) (hlt : ∀ x ∈ σ, ∀ i ∈ n.ids, x.2 < i) : Latest τ := by
  induction h with
  | here => exact hσ
  | @step σ τ n c v ns hs hr ih =>
      have hsub : (idsOf ns ++ c.ids).Sublist n.ids := by
        rw [n.ids_eq]
        exact hs.ids.cons _
      obtain ⟨hns, -, hbefore⟩ := List.pairwise_append.mp (hn.sublist hsub)
      have hnew {x : String × NodeId} (hx : x ∈ introduced ns) : x.2 ∈ idsOf ns :=
        (introduced_ids ns).subset (List.mem_map_of_mem hx)
      refine ih (hn.child hs.child) ?_ fun x hx i hi => ?_
      · refine List.pairwise_append.mpr ⟨List.pairwise_reverse.mpr ?_, hσ, fun x hx y hy => ?_⟩
        · exact List.pairwise_map.mp (hns.sublist (introduced_ids ns))
        · exact hlt y hy _ (hsub.subset (List.mem_append_left _ (hnew (List.mem_reverse.mp hx))))
      · rcases List.mem_append.mp hx with hx | hx
        · exact hbefore _ (hnew (List.mem_reverse.mp hx)) _ hi
        · exact hlt x hx i (hsub.subset (List.mem_append_right _ hi))

end Node

namespace Scope

theorem lookup_eq_some_iff {σ : Scope} (h : Node.Latest σ) (name : String) (id : NodeId) :
    σ.lookup name = some id ↔ IsGreatest {i | (name, i) ∈ σ} id := by
  induction σ with
  | nil => exact ⟨fun hn => absurd hn (by simp), fun hg => absurd hg.1 List.not_mem_nil⟩
  | cons x σ ih =>
      obtain ⟨y, i⟩ := x
      obtain ⟨hlt, hσ⟩ := List.pairwise_cons.mp h
      rw [List.lookup_cons]
      by_cases hy : name = y
      · subst hy
        simp only [beq_self_eq_true, Option.some.injEq]
        have hgreatest : IsGreatest {j | (name, j) ∈ (name, i) :: σ} i := by
          refine ⟨List.mem_cons_self, fun j hj => ?_⟩
          rcases List.mem_cons.mp hj with hj | hj
          · cases hj; exact Int.le_refl _
          · exact Int.le_of_lt (hlt _ hj)
        exact ⟨fun he => he ▸ hgreatest, fun hg => IsGreatest.unique hgreatest hg⟩
      · have hset : {j | (name, j) ∈ (y, i) :: σ} = {j | (name, j) ∈ σ} := by
          ext j
          simp [hy]
        simp only [beq_eq_false_iff_ne.mpr hy, hset]
        exact ih hσ

theorem lookup_eq_none_iff {σ : Scope} (name : String) :
    σ.lookup name = none ↔ ∀ i, (name, i) ∉ σ := by
  rw [List.lookup_eq_none_iff]
  exact ⟨fun h i hi => by simpa using h _ hi, fun h x hx => by
    rw [bne_iff_ne]
    rintro rfl
    exact h x.2 hx⟩

end Scope

end ChainLint.Tree
