import ChainLint.Ty.Pool
import Mathlib.Data.List.Forall2

namespace ChainLint

inductive Kind where
  | scalar | unit | str | string | ref | option | vec | slice | array | tuple | range | function
  | closure | adt | unknown
  deriving DecidableEq, Repr

def Ty.kind : Ty → Kind
  | .scalar _ => .scalar
  | .unit => .unit
  | .str => .str
  | .string => .string
  | .ref .. => .ref
  | .option _ => .option
  | .vec _ => .vec
  | .slice _ => .slice
  | .array _ => .array
  | .tuple _ => .tuple
  | .range _ => .range
  | .function .. => .function
  | .closure .. => .closure
  | .adt .. => .adt
  | .unknown => .unknown

namespace Shape

def kind : Shape → Kind
  | .scalar _ => .scalar
  | .unit => .unit
  | .str => .str
  | .string => .string
  | .ref .. => .ref
  | .option _ => .option
  | .vec _ => .vec
  | .slice _ => .slice
  | .array _ => .array
  | .tuple _ => .tuple
  | .range _ => .range
  | .function .. => .function
  | .closure .. => .closure
  | .adt .. => .adt
  | .unknown => .unknown

structure Complete (s : Shape) : Prop where
  one : s.kind ∈ [.ref, .option, .vec, .slice, .array, .range] → s.parts.length = 1
  some : s.kind ∈ [.tuple, .function, .closure] → 1 ≤ s.parts.length

theorem complete_of_ne_tuple {s : Shape} (h : s ≠ .tuple []) : s.Complete := by
  cases s with
  | tuple elems =>
      refine ⟨fun hkind => by simp [kind] at hkind, fun _ => ?_⟩
      rw [parts]
      exact List.length_pos_iff.mpr fun hnil => h (congrArg tuple hnil)
  | _ => constructor <;> simp [kind, parts]

end Shape

namespace TypePool

def Holds (p : TypePool) (id : TypeId) : Prop := ∃ s, p.get? id = some s

theorem holds_iff {p : TypePool} {id : Int} : p.Holds id ↔ 0 < id ∧ id ≤ p.shapes.size := by
  unfold Holds get?
  split
  · next hpos =>
      have hpos : (0 : Int) < id := hpos
      simp only [Array.getElem?_eq_some_iff]
      constructor
      · rintro ⟨_, hlt, -⟩
        exact ⟨hpos, by omega⟩
      · rintro ⟨-, hle⟩
        exact ⟨_, by omega, rfl⟩
  · next hpos =>
      constructor
      · rintro ⟨_, h⟩
        cases h
      · exact fun h => absurd h.1 hpos

def Extends (p q : TypePool) : Prop := ∀ id s, p.get? id = some s → q.get? id = some s

theorem Extends.refl (p : TypePool) : p.Extends p := fun _ _ h => h

theorem Extends.trans {p q r : TypePool} (h : p.Extends q) (h' : q.Extends r) : p.Extends r :=
  fun id s hs => h' id s (h id s hs)

theorem extends_intern (p : TypePool) (s : Shape) : p.Extends (p.intern s).2 :=
  fun _ _ h => get?_intern_of_get? h s

theorem Holds.mono {p q : TypePool} {id : TypeId} (h : p.Holds id) (hpq : p.Extends q) :
    q.Holds id :=
  h.imp fun s hs => hpq id s hs

structure Sound (p : TypePool) : Prop where
  smaller : ∀ id s, p.get? id = some s → ∀ part ∈ s.parts, p.Holds part ∧ part < id
  complete : ∀ id s, p.get? id = some s → s.Complete

theorem Sound.induction {p : TypePool} (h : p.Sound) {P : TypeId → Prop}
    (step : ∀ id s, p.get? id = some s → (∀ part ∈ s.parts, P part) → P id) {id : TypeId}
    (hid : p.Holds id) : P id := by
  have hpos {i : Int} (hi : p.Holds i) : 0 < i := (holds_iff.mp hi).1
  generalize hn : Int.toNat id = n
  induction n using Nat.strongRecOn generalizing id with
  | ind n ih =>
      obtain ⟨s, hs⟩ := hid
      refine step id s hs fun (part : Int) hpart => ?_
      obtain ⟨hheld, hlt⟩ := h.smaller id s hs part hpart
      have hlt : part < (id : Int) := hlt
      have := hpos hheld
      exact ih part.toNat (by omega) hheld rfl

theorem sound_empty : empty.Sound := by
  have hnone (id : TypeId) (s : Shape) : empty.get? id ≠ some s := by
    simp [get?, empty]
  exact ⟨fun id s h => absurd h (hnone id s), fun id s h => absurd h (hnone id s)⟩

theorem get?_push (p : TypePool) (s : Shape) (id : Int) :
    (⟨p.shapes.push s⟩ : TypePool).get? id =
      if id = (p.shapes.size : Int) + 1 then some s else p.get? id := by
  by_cases hid : id = (p.shapes.size : Int) + 1
  · subst hid
    simp [get?, Int.add_pos_of_nonneg_of_pos]
  · have hold (hpos : 0 < id) : (id - 1).toNat ≠ p.shapes.size := by omega
    rw [if_neg hid, get?, get?]
    split
    · next hpos => rw [Array.getElem?_push, if_neg (hold hpos)]
    · rfl

theorem intern_cases (p : TypePool) (s : Shape) :
    (∃ id, p.get? id = some s ∧ p.intern s = (id, p)) ∨
      (∀ id, p.get? id ≠ some s) ∧
        p.intern s = ((p.shapes.size : Int) + 1, ⟨p.shapes.push s⟩) := by
  have hfound := p.get?_intern s
  unfold intern at hfound ⊢
  split
  · next i hi =>
      rw [hi] at hfound
      exact .inl ⟨_, hfound, rfl⟩
  · next hnone =>
      refine .inr ⟨fun id hid => ?_, rfl⟩
      rw [List.findIdx?_eq_none_iff] at hnone
      unfold get? at hid
      split at hid
      · have hmem := Array.mem_of_getElem? hid
        simpa using hnone s (Array.mem_toList_iff.mpr hmem)
      · cases hid

theorem get?_intern_cases {p : TypePool} {s r : Shape} {id : TypeId}
    (h : (p.intern s).2.get? id = some r) :
    p.get? id = some r ∨ r = s ∧ ∀ j, p.Holds j → j < id := by
  rcases p.intern_cases s with ⟨_, -, hintern⟩ | ⟨-, hintern⟩
  · rw [hintern] at h
    exact .inl h
  · rw [hintern, get?_push] at h
    split at h
    · next hid =>
        refine .inr ⟨(Option.some.inj h).symm, fun (j : Int) hj => ?_⟩
        rw [hid]
        exact Int.lt_add_one_of_le (holds_iff.mp hj).2
    · exact .inl h

theorem Sound.intern {p : TypePool} {s : Shape} (h : p.Sound) (hs : s.Complete)
    (hparts : ∀ part ∈ s.parts, p.Holds part) : (p.intern s).2.Sound := by
  have hext := p.extends_intern s
  refine ⟨fun id r hr part hpart => ?_, fun id r hr => ?_⟩
  · rcases get?_intern_cases hr with hold | ⟨rfl, hnew⟩
    · obtain ⟨hheld, hlt⟩ := h.smaller id r hold part hpart
      exact ⟨hheld.mono hext, hlt⟩
    · exact ⟨(hparts part hpart).mono hext, hnew part (hparts part hpart)⟩
  · rcases get?_intern_cases hr with hold | ⟨rfl, -⟩
    · exact h.complete id r hold
    · exact hs

mutual

def Denotes (p : TypePool) (id : TypeId) : Ty → Prop
  | .scalar s => p.get? id = some (.scalar s)
  | .unit => p.get? id = some .unit
  | .str => p.get? id = some .str
  | .string => p.get? id = some .string
  | .ref isMut t => ∃ i, p.get? id = some (.ref isMut i) ∧ p.Denotes i t
  | .option t => ∃ i, p.get? id = some (.option i) ∧ p.Denotes i t
  | .vec t => ∃ i, p.get? id = some (.vec i) ∧ p.Denotes i t
  | .slice t => ∃ i, p.get? id = some (.slice i) ∧ p.Denotes i t
  | .array t => ∃ i, p.get? id = some (.array i) ∧ p.Denotes i t
  | .tuple ts => ∃ is, p.get? id = some (.tuple is) ∧ p.DenoteAll is ts
  | .range t => ∃ i, p.get? id = some (.range i) ∧ p.Denotes i t
  | .function ts t => ∃ is i, p.get? id = some (.function is i) ∧ p.DenoteAll is ts ∧ p.Denotes i t
  | .closure ts t => ∃ is i, p.get? id = some (.closure is i) ∧ p.DenoteAll is ts ∧ p.Denotes i t
  | .adt name ts => ∃ is, p.get? id = some (.adt name is) ∧ p.DenoteAll is ts
  | .unknown => p.get? id = some .unknown

def DenoteAll (p : TypePool) (ids : List TypeId) : List Ty → Prop
  | [] => ids = []
  | t :: ts => ∃ i is, ids = i :: is ∧ p.Denotes i t ∧ p.DenoteAll is ts

end

section

variable {p q : TypePool}

mutual

theorem Denotes.mono (h : p.Extends q) : {t : Ty} → {id : TypeId} → p.Denotes id t → q.Denotes id t
  | .scalar _, _, ht | .unit, _, ht | .str, _, ht | .string, _, ht | .unknown, _, ht => h _ _ ht
  | .ref .., _, ⟨i, hid, ht⟩ => ⟨i, h _ _ hid, ht.mono h⟩
  | .option _, _, ⟨i, hid, ht⟩ => ⟨i, h _ _ hid, ht.mono h⟩
  | .vec _, _, ⟨i, hid, ht⟩ => ⟨i, h _ _ hid, ht.mono h⟩
  | .slice _, _, ⟨i, hid, ht⟩ => ⟨i, h _ _ hid, ht.mono h⟩
  | .array _, _, ⟨i, hid, ht⟩ => ⟨i, h _ _ hid, ht.mono h⟩
  | .range _, _, ⟨i, hid, ht⟩ => ⟨i, h _ _ hid, ht.mono h⟩
  | .tuple _, _, ⟨is, hid, hts⟩ => ⟨is, h _ _ hid, hts.mono h⟩
  | .adt .., _, ⟨is, hid, hts⟩ => ⟨is, h _ _ hid, hts.mono h⟩
  | .function .., _, ⟨is, i, hid, hts, ht⟩ => ⟨is, i, h _ _ hid, hts.mono h, ht.mono h⟩
  | .closure .., _, ⟨is, i, hid, hts, ht⟩ => ⟨is, i, h _ _ hid, hts.mono h, ht.mono h⟩

theorem DenoteAll.mono (h : p.Extends q) : {ts : List Ty} → {ids : List TypeId} →
    p.DenoteAll ids ts → q.DenoteAll ids ts
  | [], _, hts => hts
  | _ :: _, _, ⟨i, is, hids, ht, hts⟩ => ⟨i, is, hids, ht.mono h, hts.mono h⟩

end

theorem Denotes.holds {t : Ty} {id : TypeId} (h : p.Denotes id t) : p.Holds id := by
  cases t <;> grind [Denotes, Holds]

theorem denoteAll_iff {ids : List TypeId} {ts : List Ty} :
    p.DenoteAll ids ts ↔ List.Forall₂ p.Denotes ids ts := by
  induction ts generalizing ids with
  | nil => simp [DenoteAll]
  | cons t ts ih => cases ids <;> simp [DenoteAll, ih]

inductive UnderRefs (p : TypePool) : TypeId → TypeId → Prop
  | here {id : TypeId} {s : Shape} (hs : p.get? id = some s) (hr : s.kind ≠ .ref) : UnderRefs p id id
  | under {id target id' : TypeId} {isMut : Bool} (hs : p.get? id = some (.ref isMut target))
      (h : UnderRefs p target id') : UnderRefs p id id'

theorem exists_underRefs {t : Ty} {id : TypeId} (ht : p.Denotes id t) :
    ∃ id', p.UnderRefs id id' ∧ p.Denotes id' t.peel := by
  induction t using Ty.peel.induct generalizing id with
  | case1 isMut t ih =>
      obtain ⟨i, hid, hi⟩ := ht
      obtain ⟨id', hunder, hdenotes⟩ := ih hi
      exact ⟨id', .under hid hunder, hdenotes⟩
  | case2 t hne =>
      obtain ⟨s, hs⟩ := ht.holds
      have hpeel : t.peel = t := by
        cases t with
        | ref isMut u => exact absurd rfl (hne isMut u)
        | _ => rfl
      refine ⟨id, .here hs ?_, hpeel.symm ▸ ht⟩
      cases t with
      | ref isMut u => exact absurd rfl (hne isMut u)
      | _ => grind [Denotes, Shape.kind]

theorem UnderRefs.holds {id id' : TypeId} (h : p.UnderRefs id id') : p.Holds id := by
  cases h with
  | here hs _ => exact ⟨_, hs⟩
  | under hs _ => exact ⟨_, hs⟩

theorem peelWithin_of_underRefs (h : p.Sound) {n : Nat} {id id' : TypeId} (hunder : p.UnderRefs id id')
    (hn : id ≤ (n : Int)) : p.peelWithin n id = .ok id' := by
  induction n generalizing id with
  | zero => exact absurd (holds_iff.mp hunder.holds).1 (Int.not_lt.mpr hn)
  | succ n ih =>
      cases hunder with
      | @here _ s hs hr =>
          rw [peelWithin, get, hs]
          cases s with
          | ref isMut target => exact absurd rfl hr
          | _ => rfl
      | @under _ target _ _ hs hunder =>
          have hlt : target < id := (h.smaller id _ hs target List.mem_cons_self).2
          rw [peelWithin, get, hs]
          exact ih hunder (Int.le_of_lt_add_one (Int.lt_of_lt_of_le hlt hn))

theorem peel_of_underRefs (h : p.Sound) {id id' : TypeId} (hunder : p.UnderRefs id id') :
    p.peel id = .ok id' := by
  obtain ⟨-, hle⟩ := holds_iff.mp hunder.holds
  exact peelWithin_of_underRefs h hunder (Int.le_trans hle (by omega))

theorem exists_peel (h : p.Sound) {t : Ty} {id : TypeId} (ht : p.Denotes id t) :
    ∃ id', p.peel id = .ok id' ∧ p.Denotes id' t.peel := by
  obtain ⟨id', hunder, hdenotes⟩ := exists_underRefs ht
  exact ⟨id', peel_of_underRefs h hunder, hdenotes⟩

end

end TypePool

end ChainLint
