import ChainLint.Proofs.Ty.Entering

namespace ChainLint

namespace Shape

def isLayer : Shape → Bool
  | .option _ | .array _ | .tuple _ => true
  | _ => false

def isPlain : Shape → Bool
  | .scalar _ | .unit | .function _ _ => true
  | .ref isMut _ => !isMut
  | _ => false

end Shape

namespace TypePool

inductive Leaf (p : TypePool) : TypeId → Shape → Prop
  | here {id : TypeId} {s : Shape} (hs : p.get? id = some s) (hl : s.isLayer = false) : Leaf p id s
  | under {id part : TypeId} {s r : Shape} (hs : p.get? id = some s) (hl : s.isLayer = true)
      (hpart : part ∈ s.parts) (hr : Leaf p part r) : Leaf p id r

section

variable {p : TypePool}

def AllPlain (p : TypePool) (id : TypeId) : Prop := ∀ s, p.Leaf id s → s.isPlain = true

theorem allPlain_iff {id : TypeId} {s : Shape} (hs : p.get? id = some s) :
    p.AllPlain id ↔ if s.isLayer = true then ∀ part ∈ s.parts, p.AllPlain part else s.isPlain = true := by
  split
  · next hl =>
      refine ⟨fun h part hpart r hr => h r (.under hs hl hpart hr), fun h r hr => ?_⟩
      cases hr with
      | here hs' hl' =>
          cases hs.symm.trans hs'
          cases hl.symm.trans hl'
      | under hs' _ hpart hr =>
          cases hs.symm.trans hs'
          exact h _ hpart r hr
  · next hl =>
      rw [Bool.not_eq_true] at hl
      refine ⟨fun h => h s (.here hs hl), fun h r hr => ?_⟩
      cases hr with
      | here hs' _ =>
          cases hs.symm.trans hs'
          exact h
      | under hs' hl' =>
          cases hs.symm.trans hs'
          cases hl.symm.trans hl'

theorem isCopyWithin_succ {id : TypeId} {s : Shape} (hs : p.get? id = some s) (n : Nat) :
    p.isCopyWithin (n + 1) id =
      if s.isLayer = true then p.allCopyWithin n s.parts else .ok s.isPlain := by
  rw [isCopyWithin, get, hs]
  cases s with
  | option i | array i =>
      simp only [Shape.isLayer, if_true, Shape.parts, allCopyWithin]
      cases p.isCopyWithin n i with
      | error e => rfl
      | ok b => cases b <;> rfl
  | _ => rfl

theorem allCopyWithin_eq {n : Nat} {P : TypeId → Prop} {ids : List TypeId}
    (h : ∀ id ∈ ids, ∀ b, (b = true ↔ P id) → p.isCopyWithin n id = .ok b) {b : Bool}
    (hb : b = true ↔ ∀ id ∈ ids, P id) : p.allCopyWithin n ids = .ok b := by
  induction ids with
  | nil =>
      rw [hb.mpr (List.forall_mem_nil _), allCopyWithin]
  | cons id ids ih =>
      obtain ⟨hid, hids⟩ := List.forall_mem_cons.mp h
      rw [List.forall_mem_cons] at hb
      rw [allCopyWithin]
      by_cases hP : P id
      · rw [hid true (iff_of_true rfl hP)]
        exact ih hids (by rw [hb, and_iff_right hP])
      · have hfalse : b = false := Bool.eq_false_iff.mpr fun h => hP (hb.mp h).1
        rw [hid false (iff_of_false Bool.false_ne_true hP), hfalse]

theorem Sound.isCopyWithin_eq (h : p.Sound) {id : TypeId} (hid : p.Holds id) {n : Nat}
    (hn : id ≤ (n : Int)) {b : Bool} (hb : b = true ↔ p.AllPlain id) : p.isCopyWithin n id = .ok b := by
  refine h.induction (P := fun id => ∀ n : Nat, id ≤ (n : Int) → ∀ b : Bool, (b = true ↔ p.AllPlain id) →
    p.isCopyWithin n id = .ok b) (fun id s hs hparts n hn b hb => ?_) hid n hn b hb
  cases n with
  | zero => exact absurd (holds_iff.mp ⟨s, hs⟩).1 (Int.not_lt.mpr hn)
  | succ n =>
      rw [isCopyWithin_succ hs]
      rw [allPlain_iff hs] at hb
      split
      · next hl =>
          rw [if_pos hl] at hb
          refine allCopyWithin_eq (fun part hpart b hb => hparts part hpart n ?_ b hb) hb
          have hlt := (h.smaller id s hs part hpart).2
          exact Int.le_of_lt_add_one (Int.lt_of_lt_of_le hlt hn)
      · next hl =>
          rw [if_neg hl, Bool.coe_iff_coe] at hb
          rw [hb]

mutual

theorem Denotes.isCopy_iff : {t : Ty} → {id : TypeId} → p.Denotes id t →
    (t.isCopy = true ↔ p.AllPlain id)
  | .scalar _, _, hs | .unit, _, hs | .str, _, hs | .string, _, hs | .unknown, _, hs =>
      (allPlain_iff hs).symm
  | .ref _ _, _, ⟨_, hs, _⟩ | .vec _, _, ⟨_, hs, _⟩ | .slice _, _, ⟨_, hs, _⟩
  | .range _, _, ⟨_, hs, _⟩ | .adt _ _, _, ⟨_, hs, _⟩ => (allPlain_iff hs).symm
  | .function _ _, _, ⟨_, _, hs, _⟩ | .closure _ _, _, ⟨_, _, hs, _⟩ => (allPlain_iff hs).symm
  | .option t, _, ⟨i, hs, ht⟩ => by
      rw [allPlain_iff hs, Ty.isCopy, ht.isCopy_iff]
      simp [Shape.isLayer, Shape.parts]
  | .array t, _, ⟨i, hs, ht⟩ => by
      rw [allPlain_iff hs, Ty.isCopy, ht.isCopy_iff]
      simp [Shape.isLayer, Shape.parts]
  | .tuple ts, _, ⟨is, hs, hts⟩ => by
      rw [allPlain_iff hs, Ty.isCopy, hts.allCopy_iff]
      simp [Shape.isLayer, Shape.parts]

theorem DenoteAll.allCopy_iff : {ts : List Ty} → {ids : List TypeId} → p.DenoteAll ids ts →
    (Ty.allCopy ts = true ↔ ∀ id ∈ ids, p.AllPlain id)
  | [], _, h => by
      cases h
      simp [Ty.allCopy]
  | t :: ts, _, ⟨i, is, hids, ht, hts⟩ => by
      rw [hids, List.forall_mem_cons, Ty.allCopy, Bool.and_eq_true, ht.isCopy_iff, hts.allCopy_iff]

end

theorem Sound.isCopy_eq (h : p.Sound) {id : TypeId} (hid : p.Holds id) {b : Bool}
    (hb : b = true ↔ p.AllPlain id) : p.isCopy (some id) = .ok b := by
  obtain ⟨-, hle⟩ := holds_iff.mp hid
  exact h.isCopyWithin_eq hid (Int.le_trans hle (by omega)) hb

end

/-- In a pool that came of calls over numbers given before, both questions about a number have an answer,
found in no more steps than the number: whether all that its type is layered over is plain, and which type
is under its references. -/
theorem answers_of_grounded {cs : List TypeCall} (h : Grounded cs) {id : TypeId}
    (hid : (calls cs).state.Holds id) :
    let p := (calls cs).state
    ∃ t id', p.Denotes id t ∧
      p.isCopy (some id) = .ok t.isCopy ∧
      (t.isCopy = true ↔ ∀ s, p.Leaf id s → s.isPlain = true) ∧
      p.peel id = .ok id' ∧ p.UnderRefs id id' ∧ p.Denotes id' t.peel ∧
      ∀ n : Nat, id ≤ (n : Int) →
        p.isCopyWithin n id = .ok t.isCopy ∧ p.peelWithin n id = .ok id' := by
  intro p
  have hsound := (dealt_calls h).sound
  obtain ⟨t, ht⟩ := hsound.exists_denotes hid
  obtain ⟨id', hunder, hpeeled⟩ := exists_underRefs ht
  refine ⟨t, id', ht, hsound.isCopy_eq hid ht.isCopy_iff, ht.isCopy_iff,
    peel_of_underRefs hsound hunder, hunder, hpeeled, fun n hn => ⟨?_, ?_⟩⟩
  · exact hsound.isCopyWithin_eq hid hn ht.isCopy_iff
  · exact peelWithin_of_underRefs hsound hunder hn

theorem answers_of_eight_calls :
    let cs : List TypeCall := [.scalar "i32", .scalar "bool", .shape (.ref false 2),
      .shape (.tuple [1, 3]), .shape (.option 4), .shape (.slice 5), .shape (.ref false 6),
      .shape (.ref true 7)]
    let p := (calls cs).state
    Grounded cs ∧ p.Holds 5 ∧ p.Holds 8 ∧
      (p.isCopy (some 5) = .ok true ∧ ∀ s, p.Leaf 5 s → s.isPlain = true) ∧
      p.peel 8 = .ok 6 ∧ p.UnderRefs 8 6 := by
  intro cs p
  have h : Grounded cs := by decide
  have h5 : p.Holds 5 := ⟨.option 4, by decide⟩
  have h8 : p.Holds 8 := ⟨.ref true 7, by decide⟩
  have h1 : p.get? 1 = some (.scalar .i32) := by decide
  have h2 : p.get? 2 = some (.scalar .bool) := by decide
  have htree : p.Denotes 5 (.option (.tuple [.scalar .i32, .ref false (.scalar .bool)])) :=
    ⟨4, by decide, [1, 3], by decide, 1, [3], rfl, h1, 3, [], rfl, ⟨2, by decide, h2⟩, rfl⟩
  obtain ⟨t, _, ht, hcopy, hplain, -⟩ := answers_of_grounded h h5
  obtain ⟨_, id', -, -, -, hpeel, hunder, -⟩ := answers_of_grounded h h8
  obtain rfl := (dealt_calls h).sound.denotes_unique ht htree
  have hsix : p.peel 8 = .ok 6 := by decide
  obtain rfl : id' = 6 := Except.ok.inj (hpeel.symm.trans hsix)
  exact ⟨h, h5, h8, ⟨hcopy, hplain.mp rfl⟩, hsix, hunder⟩

end TypePool

end ChainLint
