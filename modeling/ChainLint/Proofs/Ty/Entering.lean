import ChainLint.Proofs.Ty.Tracking
import Mathlib.Data.List.Induction

namespace ChainLint

namespace TypePool

section

variable {p : TypePool}

theorem exists_denoteAll {ids : List TypeId} (h : ∀ id ∈ ids, ∃ t, p.Denotes id t) :
    ∃ ts, p.DenoteAll ids ts := by
  induction ids with
  | nil => exact ⟨[], rfl⟩
  | cons id ids ih =>
      obtain ⟨⟨t, ht⟩, hids⟩ := List.forall_mem_cons.mp h
      obtain ⟨ts, hts⟩ := ih hids
      exact ⟨t :: ts, id, ids, rfl, ht, hts⟩

theorem exists_shows {s : Shape} (h : ∀ part ∈ s.parts, ∃ t, p.Denotes part t) :
    ∃ t, p.Shows s t := by
  cases s with
  | scalar a => exact ⟨.scalar a, rfl⟩
  | unit => exact ⟨.unit, rfl⟩
  | str => exact ⟨.str, rfl⟩
  | string => exact ⟨.string, rfl⟩
  | unknown => exact ⟨.unknown, rfl⟩
  | ref isMut i => exact (h i (by simp [Shape.parts])).elim fun t ht => ⟨.ref isMut t, i, rfl, ht⟩
  | option i => exact (h i (by simp [Shape.parts])).elim fun t ht => ⟨.option t, i, rfl, ht⟩
  | vec i => exact (h i (by simp [Shape.parts])).elim fun t ht => ⟨.vec t, i, rfl, ht⟩
  | slice i => exact (h i (by simp [Shape.parts])).elim fun t ht => ⟨.slice t, i, rfl, ht⟩
  | array i => exact (h i (by simp [Shape.parts])).elim fun t ht => ⟨.array t, i, rfl, ht⟩
  | range i => exact (h i (by simp [Shape.parts])).elim fun t ht => ⟨.range t, i, rfl, ht⟩
  | tuple is => exact (exists_denoteAll h).elim fun ts hts => ⟨.tuple ts, is, rfl, hts⟩
  | adt name is => exact (exists_denoteAll h).elim fun ts hts => ⟨.adt name ts, is, rfl, hts⟩
  | function is i =>
      obtain ⟨his, hi⟩ := List.forall_mem_append.mp h
      obtain ⟨ts, hts⟩ := exists_denoteAll his
      exact (hi i List.mem_cons_self).elim fun t ht => ⟨.function ts t, is, i, rfl, hts, ht⟩
  | closure is i =>
      obtain ⟨his, hi⟩ := List.forall_mem_append.mp h
      obtain ⟨ts, hts⟩ := exists_denoteAll his
      exact (hi i List.mem_cons_self).elim fun t ht => ⟨.closure ts t, is, i, rfl, hts, ht⟩

theorem Sound.exists_denotes (h : p.Sound) {id : TypeId} (hid : p.Holds id) :
    ∃ t, p.Denotes id t := by
  refine h.induction (P := fun id => ∃ t, p.Denotes id t) (fun id s hs hparts => ?_) hid
  obtain ⟨t, ht⟩ := exists_shows hparts
  exact ⟨t, denotes_iff.mpr ⟨s, hs, ht⟩⟩

theorem DenoteAll.unique {ids : List TypeId} (h : ∀ id ∈ ids, ∀ t u, p.Denotes id t → p.Denotes id u → t = u)
    {ts us : List Ty} (hts : p.DenoteAll ids ts) (hus : p.DenoteAll ids us) : ts = us := by
  induction ids generalizing ts us with
  | nil =>
      rw [denoteAll_iff] at hts hus
      cases hts
      cases hus
      rfl
  | cons id ids ih =>
      rw [denoteAll_iff] at hts hus
      obtain ⟨hid, hids⟩ := List.forall_mem_cons.mp h
      cases hts with
      | cons ht hts =>
          cases hus with
          | cons hu hus =>
              rw [hid _ _ ht hu, ih hids (denoteAll_iff.mpr hts) (denoteAll_iff.mpr hus)]

theorem Shows.unique {s : Shape} (h : ∀ part ∈ s.parts, ∀ t u, p.Denotes part t → p.Denotes part u → t = u)
    {t u : Ty} (ht : p.Shows s t) (hu : p.Shows s u) : t = u := by
  have hkind : t.kind = u.kind := ht.kind.symm.trans hu.kind
  cases t <;> cases u <;> simp only [Ty.kind, reduceCtorEq] at hkind <;>
    grind [Shows, Shape.parts, DenoteAll.unique]

theorem Sound.denotes_unique (h : p.Sound) {id : TypeId} {t u : Ty} (ht : p.Denotes id t)
    (hu : p.Denotes id u) : t = u := by
  refine h.induction (P := fun id => ∀ t u, p.Denotes id t → p.Denotes id u → t = u)
    (fun id s hs hparts t u ht hu => ?_) ht.holds t u ht hu
  obtain ⟨_, hs', ht⟩ := denotes_iff.mp ht
  obtain ⟨_, hs'', hu⟩ := denotes_iff.mp hu
  cases hs.symm.trans hs'
  cases hs.symm.trans hs''
  exact ht.unique hparts hu

def Distinct (p : TypePool) : Prop := ∀ i j s, p.get? i = some s → p.get? j = some s → i = j

theorem DenoteAll.injective {ids js : List TypeId} {ts : List Ty}
    (h : ∀ id ∈ ids, ∀ j t, p.Denotes id t → p.Denotes j t → id = j) (hids : p.DenoteAll ids ts)
    (hjs : p.DenoteAll js ts) : ids = js := by
  induction ids generalizing js ts with
  | nil =>
      rw [denoteAll_iff] at hids hjs
      cases hids
      cases hjs
      rfl
  | cons id ids ih =>
      rw [denoteAll_iff] at hids hjs
      obtain ⟨hid, hlater⟩ := List.forall_mem_cons.mp h
      cases hids with
      | cons ht hids =>
          cases hjs with
          | cons ht' hjs =>
              rw [hid _ _ ht ht', ih hlater (denoteAll_iff.mpr hids) (denoteAll_iff.mpr hjs)]

theorem Shows.injective {s r : Shape} {t : Ty}
    (h : ∀ part ∈ s.parts, ∀ j t, p.Denotes part t → p.Denotes j t → part = j) (hs : p.Shows s t)
    (hr : p.Shows r t) : s = r := by
  cases t <;> grind [Shows, Shape.parts, DenoteAll.injective]

theorem Sound.denotes_injective (h : p.Sound) (hd : p.Distinct) {i j : TypeId} {t : Ty}
    (hi : p.Denotes i t) (hj : p.Denotes j t) : i = j := by
  refine h.induction (P := fun i => ∀ j t, p.Denotes i t → p.Denotes j t → i = j)
    (fun i s hs hparts j t hi hj => ?_) hi.holds j t hi hj
  obtain ⟨_, hs', hi⟩ := denotes_iff.mp hi
  obtain ⟨r, hr, hj⟩ := denotes_iff.mp hj
  cases hs.symm.trans hs'
  exact hd i j s hs (hi.injective hparts hj ▸ hr)

end

theorem get?_next (p : TypePool) : p.get? ((p.shapes.size : Int) + 1) = none := by
  rw [Option.eq_none_iff_forall_ne_some]
  intro s hs
  obtain ⟨-, hle⟩ := holds_iff.mp ⟨s, hs⟩
  exact absurd hle (by omega)

end TypePool

inductive TypeCall where
  | scalar (name : String)
  | shape (s : Shape)
  deriving DecidableEq, Repr

def Shape.entered : Shape → Shape
  | .tuple elems => .ofElems elems
  | s => s

theorem Shape.entered_ne_tuple (s : Shape) : s.entered ≠ .tuple [] := by
  cases s with
  | tuple elems => cases elems <;> simp [entered, ofElems]
  | _ => exact Shape.noConfusion

theorem Shape.parts_entered (s : Shape) : s.entered.parts = s.parts := by
  cases s with
  | tuple elems => cases elems <;> rfl
  | _ => rfl

namespace TypeCall

def parts : TypeCall → List TypeId
  | .scalar _ => []
  | .shape s => s.parts

def shape? : TypeCall → Except TypePoolError Shape
  | .scalar name =>
      match Scalar.ofName? name with
      | some s => .ok (.scalar s)
      | none => .error (.notScalar name)
  | .shape s => .ok s.entered

theorem ne_tuple_of_shape? {c : TypeCall} {s : Shape} (h : c.shape? = .ok s) : s ≠ .tuple [] := by
  cases c with
  | scalar name =>
      rw [shape?] at h
      split at h <;> cases h
      exact Shape.noConfusion
  | shape r =>
      cases h
      exact r.entered_ne_tuple

theorem parts_of_shape? {c : TypeCall} {s : Shape} (h : c.shape? = .ok s) : s.parts = c.parts := by
  cases c with
  | scalar name =>
      rw [shape?] at h
      split at h <;> cases h
      rfl
  | shape r =>
      cases h
      exact r.parts_entered

structure Session (σ : Type) where
  answers : List (Except TypePoolError TypeId) := []
  state : σ

namespace Session

variable {σ : Type}

def call (d : Session σ) (enter : σ → TypeCall → Except TypePoolError (TypeId × σ)) (c : TypeCall) :
    Session σ :=
  match enter d.state c with
  | .ok (id, s) => ⟨d.answers ++ [.ok id], s⟩
  | .error e => ⟨d.answers ++ [.error e], d.state⟩

def given (d : Session σ) : List TypeId := d.answers.filterMap Except.toOption

end Session

end TypeCall

namespace TypePool

def call (p : TypePool) : TypeCall → Except TypePoolError (TypeId × TypePool)
  | .scalar name => p.scalar name
  | .shape s => .ok (p.intern s.entered)

theorem call_eq (p : TypePool) (c : TypeCall) : p.call c = c.shape?.map p.intern := by
  cases c with
  | scalar name =>
      rw [call, scalar, TypeCall.shape?]
      cases Scalar.ofName? name <;> rfl
  | shape s => rfl

def calls (cs : List TypeCall) : TypeCall.Session TypePool :=
  cs.foldl (·.call call) ⟨[], .empty⟩

theorem calls_concat (cs : List TypeCall) (c : TypeCall) :
    calls (cs ++ [c]) = (calls cs).call call c := List.foldl_concat _ _ _ _

def Grounded (cs : List TypeCall) : Prop :=
  ∀ k, (h : k < cs.length) → ∀ part ∈ cs[k].parts, part ∈ (calls (cs.take k)).given

instance (cs : List TypeCall) : Decidable (Grounded cs) :=
  inferInstanceAs (Decidable (∀ k, (h : k < cs.length) → ∀ part ∈ cs[k].parts,
    part ∈ (calls (cs.take k)).given))

theorem Grounded.take {cs : List TypeCall} (h : Grounded cs) (n : Nat) : Grounded (cs.take n) := by
  intro k hk part hpart
  rw [List.length_take, Nat.lt_min] at hk
  rw [List.getElem_take] at hpart
  rw [List.take_take, Nat.min_eq_left (Nat.le_of_lt hk.1)]
  exact h k hk.2 part hpart

theorem grounded_concat {cs : List TypeCall} {c : TypeCall} (h : Grounded (cs ++ [c])) :
    Grounded cs ∧ ∀ part ∈ c.parts, part ∈ (calls cs).given := by
  constructor
  · have hcs := h.take cs.length
    rwa [List.take_left] at hcs
  · have hc := h cs.length (by simp)
    rwa [List.getElem_concat_length rfl, List.take_left] at hc

end TypePool

/-- The same table as two maps and a counter: shapes by their numbers, numbers by their shapes, and the
number that comes next. What was put in last is first. -/
structure Ledger where
  shapes : List (TypeId × Shape) := []
  ids : List (Shape × TypeId) := []
  next : TypeId := 1

namespace Ledger

def enter (l : Ledger) (s : Shape) : TypeId × Ledger :=
  match l.ids.lookup s with
  | some id => (id, l)
  | none => (l.next, ⟨(l.next, s) :: l.shapes, (s, l.next) :: l.ids, l.next + 1⟩)

def call (l : Ledger) (c : TypeCall) : Except TypePoolError (TypeId × Ledger) :=
  c.shape?.map l.enter

def calls (cs : List TypeCall) : TypeCall.Session Ledger :=
  cs.foldl (·.call call) ⟨[], {}⟩

theorem calls_concat (cs : List TypeCall) (c : TypeCall) :
    calls (cs ++ [c]) = (calls cs).call call c := List.foldl_concat _ _ _ _

structure InStep (l : Ledger) (p : TypePool) : Prop where
  shapes : ∀ id, l.shapes.lookup id = p.get? id
  ids : ∀ s id, l.ids.lookup s = some id ↔ p.get? id = some s
  next : l.next = (p.shapes.size : Int) + 1

theorem inStep_empty : InStep {} .empty := by
  have hnone (id : TypeId) : TypePool.empty.get? id = none := by simp [TypePool.get?, TypePool.empty]
  refine ⟨fun id => (hnone id).symm, fun s id => ?_, rfl⟩
  rw [hnone]
  constructor
  · intro h
    cases h
  · intro h
    cases h

theorem InStep.distinct {l : Ledger} {p : TypePool} (h : l.InStep p) : p.Distinct :=
  fun i j s hi hj => Option.some.inj (((h.ids s i).mpr hi).symm.trans ((h.ids s j).mpr hj))

theorem InStep.enter {l : Ledger} {p : TypePool} (h : l.InStep p) (s : Shape) :
    (l.enter s).1 = (p.intern s).1 ∧ (l.enter s).2.InStep (p.intern s).2 := by
  rcases p.intern_cases s with ⟨id, hid, hintern⟩ | ⟨hnew, hintern⟩
  · rw [hintern, Ledger.enter, (h.ids s id).mpr hid]
    exact ⟨rfl, h⟩
  · have hnone : l.ids.lookup s = none :=
      Option.eq_none_iff_forall_ne_some.mpr fun id hid => hnew id ((h.ids s id).mp hid)
    have henter : l.enter s = (l.next, ⟨(l.next, s) :: l.shapes, (s, l.next) :: l.ids, l.next + 1⟩) := by
      rw [Ledger.enter, hnone]
    have hfree : p.get? l.next = none := by rw [h.next, p.get?_next]
    rw [hintern, henter]
    refine ⟨h.next, fun id => ?_, fun r id => ?_, ?_⟩
    · rw [TypePool.get?_push, ← h.next, ← h.shapes]
      split
      · next hid => rw [hid, List.lookup_cons_self]
      · next hid => rw [List.lookup_cons, beq_false_of_ne hid]
    · rw [TypePool.get?_push, ← h.next]
      by_cases hr : r = s
      · subst hr
        rw [List.lookup_cons_self]
        grind
      · rw [List.lookup_cons, beq_false_of_ne hr, h.ids]
        grind
    · simp [h.next]

theorem calls_inStep (cs : List TypeCall) :
    (calls cs).answers = (TypePool.calls cs).answers ∧
      (calls cs).state.InStep (TypePool.calls cs).state := by
  induction cs using List.reverseRecOn with
  | nil => exact ⟨rfl, inStep_empty⟩
  | append_singleton cs c ih =>
      obtain ⟨hanswers, hstep⟩ := ih
      rw [calls_concat, TypePool.calls_concat, TypeCall.Session.call, TypeCall.Session.call, call,
        TypePool.call_eq]
      cases c.shape? with
      | error e => exact ⟨by simp [Except.map, hanswers], hstep⟩
      | ok s =>
          obtain ⟨hid, hstep⟩ := hstep.enter s
          exact ⟨by simp [Except.map, hanswers, hid], hstep⟩

end Ledger

namespace TypePool

inductive Answers (p : TypePool) : TypeCall → Except TypePoolError TypeId → Prop
  | number {c : TypeCall} {s : Shape} {id : TypeId} (hs : c.shape? = .ok s)
      (hid : p.get? id = some s) : Answers p c (.ok id)
  | fault {c : TypeCall} {e : TypePoolError} (he : c.shape? = .error e) : Answers p c (.error e)

theorem Answers.mono {p q : TypePool} {c : TypeCall} {a : Except TypePoolError TypeId}
    (h : p.Answers c a) (hpq : p.Extends q) : q.Answers c a := by
  cases h with
  | number hs hid => exact .number hs (hpq _ _ hid)
  | fault he => exact .fault he

theorem holds_intern {p : TypePool} {s : Shape} {id : TypeId} :
    (p.intern s).2.Holds id ↔ p.Holds id ∨ id = (p.intern s).1 := by
  constructor
  · rintro ⟨r, hr⟩
    rcases p.intern_cases s with ⟨i, -, hintern⟩ | ⟨-, hintern⟩
    · rw [hintern] at hr
      exact .inl ⟨r, hr⟩
    · rw [hintern, get?_push] at hr
      rw [hintern]
      split at hr
      · next hid => exact .inr hid
      · exact .inl ⟨r, hr⟩
  · rintro (h | rfl)
    · exact h.mono (p.extends_intern s)
    · exact ⟨s, p.get?_intern s⟩

structure Dealt (cs : List TypeCall) (d : TypeCall.Session TypePool) : Prop where
  sound : d.state.Sound
  given : ∀ id, id ∈ d.given ↔ d.state.Holds id
  answers : List.Forall₂ d.state.Answers cs d.answers

theorem dealt_empty : Dealt [] ⟨[], .empty⟩ := by
  refine ⟨sound_empty, fun (id : Int) => ⟨nofun, fun hid => ?_⟩, .nil⟩
  obtain ⟨hpos, hle⟩ := holds_iff.mp hid
  exact absurd hle (Int.not_le.mpr hpos)

theorem Dealt.call {cs : List TypeCall} {d : TypeCall.Session TypePool} (h : Dealt cs d)
    {c : TypeCall} (hparts : ∀ part ∈ c.parts, part ∈ d.given) : Dealt (cs ++ [c]) (d.call call c) := by
  cases hc : c.shape? with
  | error e =>
      have hcall : d.call TypePool.call c = ⟨d.answers ++ [.error e], d.state⟩ := by
        rw [TypeCall.Session.call, call_eq, hc]
        rfl
      rw [hcall]
      refine ⟨h.sound, fun id => ?_, List.rel_append h.answers (.cons (.fault hc) .nil)⟩
      rw [← h.given, TypeCall.Session.given, List.filterMap_append]
      simp [TypeCall.Session.given, Except.toOption]
  | ok s =>
      have hcall : d.call TypePool.call c =
          ⟨d.answers ++ [.ok (d.state.intern s).1], (d.state.intern s).2⟩ := by
        rw [TypeCall.Session.call, call_eq, hc]
        rfl
      have hext := d.state.extends_intern s
      have hheld : ∀ part ∈ s.parts, d.state.Holds part := fun part hpart =>
        (h.given part).mp (hparts part (TypeCall.parts_of_shape? hc ▸ hpart))
      rw [hcall]
      refine ⟨h.sound.intern (Shape.complete_of_ne_tuple (TypeCall.ne_tuple_of_shape? hc)) hheld,
        fun id => ?_, List.rel_append (h.answers.imp fun _ _ ha => ha.mono hext)
          (.cons (.number hc (d.state.get?_intern s)) .nil)⟩
      rw [holds_intern, ← h.given, TypeCall.Session.given, List.filterMap_append]
      simp [TypeCall.Session.given, Except.toOption]

theorem dealt_calls {cs : List TypeCall} (h : Grounded cs) : Dealt cs (calls cs) := by
  induction cs using List.reverseRecOn with
  | nil => exact dealt_empty
  | append_singleton cs c ih =>
      obtain ⟨hcs, hparts⟩ := grounded_concat h
      rw [calls_concat]
      exact (ih hcs).call hparts

theorem extends_call (d : TypeCall.Session TypePool) (c : TypeCall) :
    d.state.Extends (d.call call c).state := by
  rw [TypeCall.Session.call, call_eq]
  cases c.shape? with
  | error e => exact .refl _
  | ok s => exact d.state.extends_intern s

theorem extends_take (cs : List TypeCall) (k : Nat) :
    (calls (cs.take k)).state.Extends (calls cs).state := by
  induction cs using List.reverseRecOn with
  | nil => rw [List.take_nil]; exact .refl _
  | append_singleton cs c ih =>
      rcases Nat.lt_or_ge k (cs.length + 1) with hk | hk
      · rw [List.take_append_of_le_length (Nat.le_of_lt_succ hk), calls_concat]
        exact ih.trans (extends_call _ c)
      · rw [List.take_of_length_le (by simpa using hk)]
        exact .refl _

/-- Of calls from nothing, each over numbers that calls before it gave: what is asked for is what the
number given stands for; the numbers given are those from 1 to the size of the pool, and the parts of a
number are below it; each number unfolds to one tree, no two to the same, and still to the one that it
unfolded to when it was given. The two maps and the counter keep to this pool, call by call. -/
theorem calls_grounded {cs : List TypeCall} (h : Grounded cs) :
    let p := (calls cs).state
    List.Forall₂ p.Answers cs (calls cs).answers ∧
      (∀ id : Int, id ∈ (calls cs).given ↔ 1 ≤ id ∧ id ≤ p.shapes.size) ∧
      (∀ (id : Int) s, p.get? id = some s → ∀ part ∈ s.parts, 1 ≤ part ∧ part < id) ∧
      (∀ id ∈ (calls cs).given, ∃ t, p.Denotes id t) ∧
      (∀ i j t u, p.Denotes i t → p.Denotes j u → (i = j ↔ t = u)) ∧
      (∀ k, ∀ id ∈ (calls (cs.take k)).given, ∀ t,
        p.Denotes id t ↔ (calls (cs.take k)).state.Denotes id t) ∧
      (Ledger.calls cs).answers = (calls cs).answers ∧ (Ledger.calls cs).state.InStep p := by
  intro p
  obtain ⟨hsound, hgiven, hanswers⟩ := dealt_calls h
  obtain ⟨hsame, hstep⟩ := Ledger.calls_inStep cs
  refine ⟨hanswers, fun id => (hgiven id).trans holds_iff, fun id s hid part hpart => ?_,
    fun id hid => hsound.exists_denotes ((hgiven id).mp hid), fun i j t u hi hj => ⟨?_, ?_⟩,
    fun k id hid t => ⟨fun ht => ?_, fun ht => ht.mono (extends_take cs k)⟩, hsame, hstep⟩
  · obtain ⟨hheld, hlt⟩ := hsound.smaller id s hid part hpart
    exact ⟨(holds_iff.mp hheld).1, hlt⟩
  · rintro rfl
    exact hsound.denotes_unique hi hj
  · rintro rfl
    exact hsound.denotes_injective hstep.distinct hi hj
  · have hk := dealt_calls (h.take k)
    obtain ⟨u, hu⟩ := hk.sound.exists_denotes ((hk.given id).mp hid)
    exact hsound.denotes_unique ht (hu.mono (extends_take cs k)) ▸ hu

theorem calls_grounded_six :
    let cs : List TypeCall := [.scalar "u8", .shape (.tuple []), .shape (.option 2), .shape (.option 2),
      .scalar "word", .shape (.function [1, 3] 2)]
    let p := (calls cs).state
    Grounded cs ∧ (calls cs).given = [1, 2, 3, 3, 4] ∧
      (∀ id : Int, id ∈ (calls cs).given ↔ 1 ≤ id ∧ id ≤ p.shapes.size) ∧
      (∀ i j t u, p.Denotes i t → p.Denotes j u → (i = j ↔ t = u)) ∧
      ∀ t, p.Denotes 3 t ↔ (calls (cs.take 3)).state.Denotes 3 t := by
  intro cs p
  have h : Grounded cs := by decide
  obtain ⟨-, hgiven, -, -, hequal, hstays, -⟩ := calls_grounded h
  exact ⟨h, by decide, hgiven, hequal, hstays 3 3 (by decide)⟩

end TypePool

end ChainLint
