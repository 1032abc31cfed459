import ChainLint.Proofs.Ty.Pooled
import Mathlib.Data.Option.Basic

namespace ChainLint

open Tree

namespace TypePool

section

variable {p q : TypePool}

def Shows (p : TypePool) (s : Shape) : Ty → Prop
  | .scalar a => s = .scalar a
  | .unit => s = .unit
  | .str => s = .str
  | .string => s = .string
  | .ref isMut t => ∃ i, s = .ref isMut i ∧ p.Denotes i t
  | .option t => ∃ i, s = .option i ∧ p.Denotes i t
  | .vec t => ∃ i, s = .vec i ∧ p.Denotes i t
  | .slice t => ∃ i, s = .slice i ∧ p.Denotes i t
  | .array t => ∃ i, s = .array i ∧ p.Denotes i t
  | .tuple ts => ∃ is, s = .tuple is ∧ p.DenoteAll is ts
  | .range t => ∃ i, s = .range i ∧ p.Denotes i t
  | .function ts t => ∃ is i, s = .function is i ∧ p.DenoteAll is ts ∧ p.Denotes i t
  | .closure ts t => ∃ is i, s = .closure is i ∧ p.DenoteAll is ts ∧ p.Denotes i t
  | .adt name ts => ∃ is, s = .adt name is ∧ p.DenoteAll is ts
  | .unknown => s = .unknown

theorem denotes_iff {id : TypeId} {ty : Ty} :
    p.Denotes id ty ↔ ∃ s, p.get? id = some s ∧ p.Shows s ty := by
  cases ty <;> grind [Denotes, Shows]

theorem DenoteAll.holds {ids : List TypeId} {tys : List Ty} (h : p.DenoteAll ids tys) :
    ∀ id ∈ ids, p.Holds id := by
  induction tys generalizing ids with
  | nil =>
      obtain rfl : ids = [] := h
      exact List.forall_mem_nil _
  | cons ty tys ih =>
      obtain ⟨i, is, rfl, hi, his⟩ := h
      exact List.forall_mem_cons.mpr ⟨hi.holds, ih his⟩

theorem Shows.holds {s : Shape} {ty : Ty} (h : p.Shows s ty) : ∀ part ∈ s.parts, p.Holds part := by
  cases ty <;> grind [Shows, Shape.parts, Denotes.holds, DenoteAll.holds]

theorem Shows.mono {s : Shape} {ty : Ty} (h : p.Shows s ty) (hpq : p.Extends q) : q.Shows s ty := by
  cases ty <;> grind [Shows, Denotes.mono, DenoteAll.mono]

theorem Shows.kind {s : Shape} {ty : Ty} (h : p.Shows s ty) : s.kind = ty.kind := by
  cases ty <;> grind [Shows, Shape.kind, Ty.kind]

theorem Shows.name {s : Shape} {ty : Ty} (h : p.Shows s ty) : s.name = ty.name := by
  cases ty <;> grind [Shows, Shape.name, Ty.name]

theorem Shows.elems {s : Shape} {tys : List Ty} (h : p.Shows s (.tuple tys)) :
    p.DenoteAll s.parts tys := by
  obtain ⟨ids, rfl, hids⟩ := h
  exact hids

theorem Shows.callable {s : Shape} {params : List Ty} {result : Ty}
    (h : p.Shows s (.function params result) ∨ p.Shows s (.closure params result)) :
    ∃ is i, s.parts = is ++ [i] ∧ p.DenoteAll is params ∧ p.Denotes i result := by
  rcases h with ⟨is, i, rfl, his, hi⟩ | ⟨is, i, rfl, his, hi⟩
  · exact ⟨is, i, rfl, his, hi⟩
  · exact ⟨is, i, rfl, his, hi⟩

theorem shows_ofElems {ids : List TypeId} {tys : List Ty} (h : p.DenoteAll ids tys) :
    p.Shows (.ofElems ids) (.ofElems tys) := by
  cases tys with
  | nil =>
      obtain rfl : ids = [] := h
      rfl
  | cons ty tys =>
      obtain ⟨i, is, rfl, hi, his⟩ := h
      exact ⟨_, rfl, i, is, rfl, hi, his⟩

theorem DenoteAll.length {ids : List TypeId} {tys : List Ty} (h : p.DenoteAll ids tys) :
    ids.length = tys.length :=
  (denoteAll_iff.mp h).length_eq

theorem DenoteAll.getElem {ids : List TypeId} {tys : List Ty} (h : p.DenoteAll ids tys) {i : Nat}
    {id : TypeId} (hid : ids[i]? = some id) : ∃ ty, tys[i]? = some ty ∧ p.Denotes id ty := by
  obtain ⟨hi, rfl⟩ := List.getElem?_eq_some_iff.mp hid
  have hi' : i < tys.length := h.length ▸ hi
  exact ⟨tys[i], List.getElem?_eq_getElem hi', (denoteAll_iff.mp h).get hi hi'⟩

theorem denoteAll_nil : p.DenoteAll [] [] := rfl

theorem denoteAll_singleton {id : TypeId} {ty : Ty} (h : p.Denotes id ty) : p.DenoteAll [id] [ty] :=
  ⟨id, [], rfl, h, rfl⟩

theorem denoteAll_replicate {id : TypeId} {ty : Ty} (h : p.Denotes id ty) (n : Nat) :
    p.DenoteAll (List.replicate n id) (List.replicate n ty) := by
  induction n with
  | zero => rfl
  | succ n ih => exact ⟨_, _, rfl, h, ih⟩

theorem DenoteAll.headD {ids : List TypeId} {tys : List Ty} (h : p.DenoteAll ids tys) {id : TypeId}
    {ty : Ty} (hid : p.Denotes id ty) : p.Denotes (ids.headD id) (tys.headD ty) := by
  cases tys with
  | nil =>
      obtain rfl : ids = [] := h
      exact hid
  | cons ty' tys =>
      obtain ⟨i, is, rfl, hi, -⟩ := h
      exact hi

theorem DenoteAll.tail {ids : List TypeId} {tys : List Ty} (h : p.DenoteAll ids tys) :
    p.DenoteAll ids.tail tys.tail := by
  cases tys with
  | nil =>
      obtain rfl : ids = [] := h
      rfl
  | cons ty tys =>
      obtain ⟨i, is, rfl, -, his⟩ := h
      exact his

end

section

variable {κ : Type} {p q : TypePool} {ids : List (κ × TypeId)} {tys : List (κ × Ty)}

def Lists (p : TypePool) (ids : List (κ × TypeId)) (tys : List (κ × Ty)) : Prop :=
  List.Forall₂ (fun a b => a.1 = b.1 ∧ p.Denotes a.2 b.2) ids tys

theorem Lists.mono (h : p.Lists ids tys) (hpq : p.Extends q) : q.Lists ids tys :=
  h.imp fun _ _ hab => ⟨hab.1, hab.2.mono hpq⟩

theorem Lists.cons (h : p.Lists ids tys) (k : κ) {id : TypeId} {ty : Ty} (hid : p.Denotes id ty) :
    p.Lists ((k, id) :: ids) ((k, ty) :: tys) :=
  List.Forall₂.cons ⟨rfl, hid⟩ h

theorem Lists.holds (h : p.Lists ids tys) : ∀ a ∈ ids, p.Holds a.2 := by
  induction h with
  | nil => exact List.forall_mem_nil _
  | cons hab _ ih => exact List.forall_mem_cons.mpr ⟨hab.2.holds, ih⟩

theorem Lists.lookup [BEq κ] (h : p.Lists ids tys) (k : κ) :
    Option.Rel p.Denotes (ids.lookup k) (tys.lookup k) := by
  induction h with
  | nil => exact .none
  | @cons a b _ _ hab _ ih =>
      obtain ⟨k', id⟩ := a
      obtain ⟨_, ty⟩ := b
      obtain ⟨rfl, hid⟩ := hab
      rw [List.lookup_cons, List.lookup_cons]
      cases k == k' with
      | false => exact ih
      | true => exact .some hid

theorem Lists.filter (h : p.Lists ids tys) (f : κ → Bool) :
    p.Lists (ids.filter fun a => f a.1) (tys.filter fun b => f b.1) := by
  induction h with
  | nil => exact .nil
  | @cons a b _ _ hab _ ih =>
      rw [List.filter_cons, List.filter_cons, hab.1]
      split
      · exact List.Forall₂.cons hab ih
      · exact ih

end

end TypePool

theorem getD_of_rel {p : TypePool} {o : Option TypeId} {o' : Option Ty} {id : TypeId} {ty : Ty}
    (h : Option.Rel p.Denotes o o') (hid : p.Denotes id ty) : p.Denotes (o.getD id) (o'.getD ty) := by
  cases h with
  | none => exact hid
  | some ho => exact ho

namespace Table

structure Sound (t : Table) : Prop where
  pool : t.pool.Sound
  exprs : ∀ e ∈ t.exprs, t.pool.Holds e.2
  bindings : ∀ b ∈ t.bindings, t.pool.Holds b.2
  functions : ∀ f ∈ t.functions, t.pool.Holds f.2

structure Denotes (t : Table) (s : Typing) : Prop where
  pool : t.pool.Sound
  exprs : t.pool.Lists t.exprs s.exprs
  bindings : t.pool.Lists t.bindings s.bindings
  functions : t.pool.Lists t.functions s.functions
  longField : t.longField = s.longField

theorem Denotes.sound {t : Table} {s : Typing} (h : t.Denotes s) : t.Sound :=
  ⟨h.pool, h.exprs.holds, h.bindings.holds, h.functions.holds⟩

theorem Denotes.grown {t : Table} {s : Typing} (h : t.Denotes s) {q : TypePool} (hq : q.Sound)
    (hext : t.pool.Extends q) : ({ t with pool := q } : Table).Denotes s :=
  ⟨hq, h.exprs.mono hext, h.bindings.mono hext, h.functions.mono hext, h.longField⟩

end Table

namespace Pooled

open TypePool

section

variable {α β γ δ : Type} {p : TypePool}

/-- Wherever the pool knows at least the given one and the table stands for the typing, the first does
without a fault what the second does, and leaves no table behind that is not sound. -/
def Tracks (p : TypePool) (a : Pooled α) (b : Infer β) (R : TypePool → α → β → Prop) : Prop :=
  ∀ c s, p.Extends c.now.pool → c.now.Denotes s → (∀ t ∈ c.past, t.Sound) →
    ∃ x c', a.run c = .ok (x, c') ∧ c.now.pool.Extends c'.now.pool ∧ c'.now.Denotes (b.run s).2 ∧
      (∀ t ∈ c'.past, t.Sound) ∧ R c'.now.pool x (b.run s).1

def Finds (p : TypePool) (a : Pooled TypeId) (ty : Ty) : Prop :=
  Tracks p a (pure ty) fun q id ty => q.Denotes id ty

variable {a : Pooled α} {b : Infer β} {R : TypePool → α → β → Prop}
  {Q : TypePool → γ → δ → Prop}

theorem Tracks.pure {x : α} {y : β} (h : ∀ q, p.Extends q → R q x y) :
    Tracks p (pure x) (pure y) R :=
  fun c _ hpc hcs hpast => ⟨x, c, rfl, .refl _, hcs, hpast, h _ hpc⟩

theorem finds_pure {id : TypeId} {ty : Ty} (h : p.Denotes id ty) : Finds p (pure id) ty :=
  .pure fun _ hpq => h.mono hpq

theorem Tracks.bind {u : α → Pooled γ} {v : β → Infer δ} (h : Tracks p a b R)
    (huv : ∀ q x y, p.Extends q → R q x y → Tracks q (u x) (v y) Q) :
    Tracks p (a >>= u) (b >>= v) Q := by
  intro c s hpc hcs hpast
  obtain ⟨x, c', hrun, hext, hcs', hpast', hr⟩ := h c s hpc hcs hpast
  obtain ⟨z, c'', hrun', hext', hcs'', hpast'', hq⟩ :=
    huv _ x _ (hpc.trans hext) hr c' _ (.refl _) hcs' hpast'
  refine ⟨z, c'', ?_, hext.trans hext', hcs'', hpast'', hq⟩
  rw [StateT.run_bind, hrun]
  exact hrun'

theorem Tracks.first {y : β} {u : α → Pooled γ} {d : Infer δ} (h : Tracks p a (Pure.pure y) R)
    (hu : ∀ q x, p.Extends q → R q x y → Tracks q (u x) d Q) : Tracks p (a >>= u) d Q := by
  intro c s hpc hcs hpast
  obtain ⟨x, c', hrun, hext, hcs', hpast', hr⟩ := h c s hpc hcs hpast
  obtain ⟨z, c'', hrun', hext', hcs'', hpast'', hq⟩ :=
    hu _ x (hpc.trans hext) hr c' _ (.refl _) hcs' hpast'
  refine ⟨z, c'', ?_, hext.trans hext', hcs'', hpast'', hq⟩
  rw [StateT.run_bind, hrun]
  exact hrun'

theorem Tracks.last {u : α → Pooled γ} {Q : TypePool → γ → β → Prop} (h : Tracks p a b R)
    (hu : ∀ q x y, p.Extends q → R q x y → Tracks q (u x) (Pure.pure y) Q) :
    Tracks p (a >>= u) b Q := by
  rw [← bind_pure b]
  exact h.bind hu

theorem Tracks.weaken {R' : TypePool → α → β → Prop} (h : Tracks p a b R)
    (hR : ∀ q x y, p.Extends q → R q x y → R' q x y) : Tracks p a b R' := by
  intro c s hpc hcs hpast
  obtain ⟨x, c', hrun, hext, hcs', hpast', hr⟩ := h c s hpc hcs hpast
  exact ⟨x, c', hrun, hext, hcs', hpast', hR _ _ _ (hpc.trans hext) hr⟩

theorem Tracks.ite {c : Prop} [Decidable c] {a a' : Pooled α} {x y : β}
    (h : c → Tracks p a (Pure.pure x) R) (h' : ¬ c → Tracks p a' (Pure.pure y) R) :
    Tracks p (if c then a else a') (Pure.pure (if c then x else y)) R := by
  split
  · next hc => exact h hc
  · next hc => exact h' hc

theorem Tracks.grow {q : TypePool} (h : Tracks p a b R) (hpq : p.Extends q) : Tracks q a b R :=
  fun c s hqc => h c s (hpq.trans hqc)

theorem tracks_change {f : Table → Table} {g : Typing → Typing}
    (h : ∀ t s, p.Extends t.pool → t.Denotes s → t.pool.Extends (f t).pool ∧ (f t).Denotes (g s)) :
    Tracks p (change f) (modify g) fun _ _ _ => True := by
  intro c s hpc hcs hpast
  obtain ⟨hext, hdenotes⟩ := h c.now s hpc hcs
  exact ⟨(), _, rfl, hext, hdenotes, List.forall_mem_cons.mpr ⟨hcs.sound, hpast⟩, trivial⟩

theorem tracks_query {f : TypePool → Except TypePoolError α} {y : β}
    (h : ∀ q, p.Extends q → q.Sound → ∃ x, f q = .ok x ∧ R q x y) :
    Tracks p (query f) (pure y) R := by
  intro c s hpc hcs hpast
  obtain ⟨x, hx, hr⟩ := h c.now.pool hpc hcs.pool
  refine ⟨x, c, ?_, .refl _, hcs, hpast, hr⟩
  simp only [query, StateT.run_bind, StateT.run_get, pure_bind, hx]
  rfl

theorem get_eq_ok {q : TypePool} {id : TypeId} {s : Shape} (h : q.get? id = some s) :
    q.get id = .ok s := by
  rw [TypePool.get, h]

theorem Tracks.look {id : TypeId} {ty : Ty} {u : Shape → Pooled γ} {d : Infer δ}
    (h : p.Denotes id ty) (hu : ∀ s, p.Shows s ty → s.kind = ty.kind → Tracks p (u s) d Q) :
    Tracks p (look id >>= u) d Q := by
  obtain ⟨s, hs, hshows⟩ := denotes_iff.mp h
  have hlook : Tracks p (Pooled.look id) (Pure.pure ()) fun _ x _ => x = s :=
    tracks_query fun q hpq _ => ⟨s, get_eq_ok (hpq id s hs), rfl⟩
  refine hlook.first fun q x hpq hx => ?_
  rw [hx]
  exact (hu s hshows hshows.kind).grow hpq

theorem finds_peel {id : TypeId} {ty : Ty} (h : p.Denotes id ty) : Finds p (peel id) ty.peel :=
  tracks_query fun _ hpq hq => exists_peel hq (h.mono hpq)

theorem finds_enter {s : Shape} {ty : Ty} (h : p.Shows s ty) (hs : s ≠ .tuple [] := by nofun) :
    Finds p (enter s) ty := by
  intro c t hpc hct hpast
  have hshows := h.mono hpc
  have hext := c.now.pool.extends_intern s
  have hsound := hct.pool.intern (Shape.complete_of_ne_tuple hs) hshows.holds
  exact ⟨_, _, rfl, hext, hct.grown hsound hext, List.forall_mem_cons.mpr ⟨hct.sound, hpast⟩,
    denotes_iff.mpr ⟨s, c.now.pool.get?_intern s, hshows.mono hext⟩⟩

theorem finds_scalar {name : String} {s : Scalar} (h : Scalar.ofName? name = some s) :
    Finds p (scalar name) (.scalar s) := by
  have hentered : scalar name = enter (.scalar s) := by
    funext c
    simp only [scalar, query, enter, TypePool.scalar, h]
    rfl
  rw [hentered]
  exact finds_enter rfl

theorem item_eq {xs : List α} {place : Nat} {x : α} (h : xs[place]? = some x) :
    item xs place = pure x := by
  rw [item, h]

theorem item_singleton (x : α) : item [x] 0 = pure x := rfl

end

end Pooled

end ChainLint
