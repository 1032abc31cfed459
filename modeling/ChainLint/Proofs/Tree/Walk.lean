import ChainLint.Tree.Preorder
import Mathlib.Logic.Function.Iterate

namespace ChainLint.Tree

namespace Node

theorem mem_preorder_iff {v n : Node} :
    v ∈ n.preorder ↔ v = n ∨ ∃ c ∈ n.children, v ∈ c.preorder := by
  rw [n.preorder_eq, List.mem_cons, List.mem_flatMap]

theorem mem_preorder_self (n : Node) : n ∈ n.preorder := mem_preorder_iff.mpr (.inl rfl)

theorem mem_preorder_of_child {v c n : Node} (hc : c ∈ n.children) (hv : v ∈ c.preorder) :
    v ∈ n.preorder := mem_preorder_iff.mpr (.inr ⟨c, hc, hv⟩)

theorem length_preorder_lt {c n : Node} (hc : c ∈ n.children) :
    c.preorder.length < n.preorder.length := by
  obtain ⟨before, after, h⟩ := List.append_of_mem hc
  rw [n.preorder_eq, h]
  simp only [List.flatMap_append, List.flatMap_cons, List.length_cons, List.length_append]
  omega

theorem child_induction {P : Node → Prop} (step : ∀ n, (∀ c ∈ n.children, P c) → P n)
    (n : Node) : P n := by
  induction h : n.preorder.length using Nat.strongRecOn generalizing n with
  | ind k ih => exact step n fun c hc => ih _ (h ▸ length_preorder_lt hc) c rfl

theorem length_preorder_le {v n : Node} (hv : v ∈ n.preorder) :
    v.preorder.length ≤ n.preorder.length := by
  induction n using child_induction with
  | step n ih =>
      rcases mem_preorder_iff.mp hv with rfl | ⟨c, hc, hv⟩
      · exact Nat.le_refl _
      · exact Nat.le_of_lt (Nat.lt_of_le_of_lt (ih c hc hv) (length_preorder_lt hc))

theorem mem_preorder_trans {v c n : Node} (hv : v ∈ c.preorder) (hc : c ∈ n.preorder) :
    v ∈ n.preorder := by
  induction n using child_induction with
  | step n ih =>
      rcases mem_preorder_iff.mp hc with rfl | ⟨d, hd, hcd⟩
      · exact hv
      · exact mem_preorder_of_child hd (ih d hd hcd)

end Node

namespace Walk

variable {stop : Node → Bool}

def upTo (stop : Node → Bool) (ns : List Node) : List Node :=
  ns.takeWhile (fun n => !stop n) ++ (ns.find? stop).toList

theorem upTo_nil : upTo stop [] = [] := rfl

theorem upTo_cons_of_stop {n : Node} {ns : List Node} (h : stop n = true) :
    upTo stop (n :: ns) = [n] := by
  simp [upTo, h]

theorem upTo_cons_of_not {n : Node} {ns : List Node} (h : stop n = false) :
    upTo stop (n :: ns) = n :: upTo stop ns := by
  simp [upTo, h]

theorem upTo_ne_nil {ns : List Node} (h : ns ≠ []) : upTo stop ns ≠ [] := by
  obtain ⟨n, ns, rfl⟩ := List.exists_cons_of_ne_nil h
  cases hn : stop n with
  | true => simp [upTo_cons_of_stop hn]
  | false => simp [upTo_cons_of_not hn]

theorem upTo_never (ns : List Node) : upTo (fun _ => false) ns = ns := by
  induction ns with
  | nil => rfl
  | cons n ns ih => rw [upTo_cons_of_not rfl, ih]

def outcome (stop : Node → Bool) (w : Walk) : List Node × Bool :=
  if w.stopped then (w.seen.toList, true)
  else (w.seen.toList ++ upTo stop (listed w.stack), (listed w.stack).any stop)

theorem outcome_start (root : Node) :
    (start root).outcome stop = (upTo stop root.preorder, root.preorder.any stop) := by
  simp [outcome, start, listed_singleton]

theorem outcome_of_isOver {w : Walk} (h : w.isOver = true) :
    w.outcome stop = (w.seen.toList, w.stopped) := by
  cases hstopped : w.stopped with
  | true => simp [outcome, hstopped]
  | false =>
      have hempty : w.stack = #[] := by simpa [isOver, hstopped] using h
      simp [outcome, hstopped, hempty, listed_empty, upTo_nil]

variable (stop) (k : Nat) (w : Walk)

theorem outcome_step : (w.step stop).outcome stop = w.outcome stop := by
  cases hover : w.isOver with
  | true => rw [step_of_isOver stop hover]
  | false =>
      obtain ⟨rest, top, hstopped, hstack, hstep⟩ := exists_step stop hover
      rw [outcome, outcome, hstep, hstopped, hstack, listed_push_eq_cons]
      cases htop : stop top with
      | true => simp [htop, upTo_cons_of_stop]
      | false => simp [htop, upTo_cons_of_not]

theorem seen_isPrefix : w.seen.toList <+: (w.outcome stop).1 := by
  rw [outcome]
  split
  · exact List.prefix_rfl
  · exact List.prefix_append ..

theorem isOver_iff : w.isOver = true ↔ (w.outcome stop).1.length ≤ w.seen.size := by
  cases hover : w.isOver with
  | true =>
      rw [outcome_of_isOver hover]
      exact iff_of_true rfl (Nat.le_refl _)
  | false =>
      obtain ⟨rest, top, hstopped, hstack, -⟩ := exists_step stop hover
      have hleft : 0 < (upTo stop (listed w.stack)).length := by
        rw [hstack, listed_push_eq_cons]
        exact List.length_pos_iff.mpr (upTo_ne_nil (List.cons_ne_nil _ _))
      refine iff_of_false Bool.false_ne_true ?_
      simp only [outcome, hstopped, Bool.false_eq_true, if_false, List.length_append,
        Array.length_toList]
      omega

theorem size_seen_step {w : Walk} (h : w.isOver = false) :
    (w.step stop).seen.size = w.seen.size + 1 := by
  obtain ⟨rest, top, -, -, hstep⟩ := exists_step stop h
  rw [hstep]
  split <;> exact Array.size_push _

theorem outcome_iterate : ((step stop)^[k] w).outcome stop = w.outcome stop := by
  induction k with
  | zero => rfl
  | succ k ih => rw [Function.iterate_succ_apply', outcome_step, ih]

theorem size_seen_iterate :
    ((step stop)^[k] w).seen.size = min (w.seen.size + k) (w.outcome stop).1.length := by
  induction k with
  | zero => exact (Nat.min_eq_left (seen_isPrefix stop w).length_le).symm
  | succ k ih =>
      have hiff := isOver_iff stop ((step stop)^[k] w)
      rw [outcome_iterate] at hiff
      rw [Function.iterate_succ_apply']
      cases hover : ((step stop)^[k] w).isOver with
      | true =>
          have hle := hiff.mp hover
          rw [step_of_isOver stop hover]
          omega
      | false =>
          have hlt := mt hiff.mpr (ne_true_of_eq_false hover)
          rw [size_seen_step stop hover]
          omega

theorem isOver_iterate_iff :
    ((step stop)^[k] w).isOver = true ↔ (w.outcome stop).1.length ≤ w.seen.size + k := by
  rw [isOver_iff stop, outcome_iterate, size_seen_iterate]
  omega

theorem seen_iterate :
    ((step stop)^[k] w).seen.toList = (w.outcome stop).1.take (w.seen.size + k) := by
  have hseen := seen_isPrefix stop ((step stop)^[k] w)
  rw [outcome_iterate, List.prefix_iff_eq_take] at hseen
  rw [hseen, List.take_eq_take_iff, Array.length_toList, size_seen_iterate]
  omega

theorem run_eq_iterate :
    w.run stop = (step stop)^[(w.outcome stop).1.length - w.seen.size] w := by
  fun_induction run stop w with
  | case1 w hover =>
      rw [Nat.sub_eq_zero_of_le ((isOver_iff stop w).mp hover)]
      rfl
  | case2 w hover ih =>
      have hlt := mt (isOver_iff stop w).mpr hover
      rw [outcome_step, size_seen_step stop (eq_false_of_ne_true hover)] at ih
      rw [ih, ← Function.iterate_succ_apply]
      congr 2
      omega

theorem outcome_run : ((w.run stop).seen.toList, (w.run stop).stopped) = w.outcome stop := by
  have hover : (w.run stop).isOver = true := by
    rw [run_eq_iterate, isOver_iterate_iff]
    omega
  rw [← outcome_of_isOver hover, run_eq_iterate, outcome_iterate]

end Walk

namespace Node

theorem walk_eq (stop : Node → Bool) (root : Node) :
    root.walk stop = (Walk.upTo stop root.preorder, root.preorder.any stop) :=
  (Walk.outcome_run stop (.start root)).trans (Walk.outcome_start root)

theorem walk_never (root : Node) : root.walk (fun _ => false) = (root.preorder, false) := by
  simp [walk_eq, Walk.upTo_never]

/-- A walk with a stack visits the nodes of a tree in the order in which each stands before its
children and all below them, up to the first stop, and says whether there is one. The run ends after
as many steps as there are nodes to visit, and each step visits the next of them. -/
theorem walk_of_preorder (stop : Node → Bool) (root : Node) :
    (∀ n : Node, n.preorder = n :: n.children.flatMap preorder) ∧
      (root.walk stop).1 = Walk.upTo stop root.preorder ∧
      ((root.walk stop).2 = true ↔ ∃ n ∈ root.preorder, stop n = true) ∧
      (Walk.start root).run stop = (Walk.step stop)^[(root.walk stop).1.length] (.start root) ∧
      ∀ k : Nat,
        let w := (Walk.step stop)^[k] (.start root)
        w.seen.toList = (root.walk stop).1.take k ∧
          (w.isOver = true ↔ (root.walk stop).1.length ≤ k) := by
  have hsize : (Walk.start root).seen.size = 0 := rfl
  have hvisited : (root.walk stop).1 = ((Walk.start root).outcome stop).1 := by
    rw [walk_eq, Walk.outcome_start]
  refine ⟨preorder_eq, by rw [walk_eq], by rw [walk_eq, List.any_eq_true], ?_, fun k => ⟨?_, ?_⟩⟩
  · rw [Walk.run_eq_iterate, hvisited, hsize, Nat.sub_zero]
  · rw [Walk.seen_iterate, hvisited, hsize, Nat.zero_add]
  · rw [Walk.isOver_iterate_iff, hvisited, hsize, Nat.zero_add]

example :
    let named (k : NodeId) (name : String) : Expr := .var ⟨k, {}⟩ name none
    let sum : Expr :=
      .binary ⟨1, {}⟩ .add (.call ⟨2, {}⟩ (named 3 "f") [named 4 "x"]) (named 5 "y")
    let w := (Walk.start (.expr sum)).run fun n => n.id = 4
    (w.seen.map id, w.stack.map id, w.stopped) = (#[1, 2, 3, 4], #[5], true) := by
  decide +kernel

end Node

end ChainLint.Tree
