import ChainLint.Tree.Build

namespace ChainLint.Tree.Build

variable {α β : Type} {x x' : Expansions}

def Gives (b : Build α) (x : Expansions) (a : α) (x' : Expansions) : Prop :=
  b.run.run x = (.ok a, x')

theorem run_bind_ok {b : Build α} {f : α → Build β} {a : α} (h : b.run.run x = (.ok a, x')) :
    (b >>= f).run.run x = (f a).run.run x' := by
  change (ExceptT.bindCont f (b.run.run x).1) (b.run.run x).2 = _
  rw [h]
  rfl

theorem run_bind_error {b : Build α} {f : α → Build β} {e : BuildError}
    (h : b.run.run x = (.error e, x')) : (b >>= f).run.run x = (.error e, x') := by
  change (ExceptT.bindCont f (b.run.run x).1) (b.run.run x).2 = _
  rw [h]
  rfl

theorem gives_bind {b : Build α} {f : α → Build β} {r : β} :
    Gives (b >>= f) x r x' ↔ ∃ a y, Gives b x a y ∧ Gives (f a) y r x' := by
  unfold Gives
  rcases hb : b.run.run x with ⟨e | a, y⟩
  · rw [run_bind_error hb]
    constructor
    · intro h
      cases h
    · rintro ⟨a, z, h, -⟩
      cases h
  · rw [run_bind_ok hb]
    constructor
    · intro h
      exact ⟨a, y, rfl, h⟩
    · rintro ⟨a', z, h, h'⟩
      cases h
      exact h'

theorem gives_pure {a r : α} : Gives (pure a) x r x' ↔ a = r ∧ x = x' := by
  constructor
  · intro h
    cases h
    exact ⟨rfl, rfl⟩
  · rintro ⟨rfl, rfl⟩
    rfl

theorem not_gives_throw {e : BuildError} {a : α} : ¬ Gives (throw e) x a x' := by
  intro h
  cases h

theorem gives_modifyGet {f : Expansions → α × Expansions} {a : α} :
    Gives (modifyGet f) x a x' ↔ f x = (a, x') := by
  constructor
  · intro h
    cases h
    rfl
  · intro h
    change ((Except.ok (f x).1 : Except BuildError α), (f x).2) = _
    rw [h]

theorem gives_cons {file : Option String} {e : Surface.Expr} {es : List Surface.Expr}
    {ts : List Expr} : Gives (exprs file (e :: es)) x ts x' ↔ ∃ t y us,
      Gives (expr file e) x t y ∧ Gives (exprs file es) y us x' ∧ t :: us = ts := by
  simp only [exprs, gives_bind, gives_pure]
  constructor
  · rintro ⟨t, y, h, us, z, h', rfl, rfl⟩
    exact ⟨t, y, us, h, h', rfl⟩
  · rintro ⟨t, y, us, h, h', rfl⟩
    exact ⟨t, y, h, us, x', h', rfl, rfl⟩

theorem gives_some {file : Option String} {e : Surface.Expr} {o : Option Expr} :
    Gives (optional file (some e)) x o x' ↔ ∃ t, Gives (expr file e) x t x' ∧ some t = o := by
  simp only [optional, gives_bind, gives_pure]
  constructor
  · rintro ⟨t, y, h, rfl, rfl⟩
    exact ⟨t, h, rfl⟩
  · rintro ⟨t, h, rfl⟩
    exact ⟨t, x', h, rfl, rfl⟩

theorem gives_none {file : Option String} {o : Option Expr} :
    Gives (optional file none) x o x' ↔ none = o ∧ x = x' :=
  gives_pure

theorem gives_nil {file : Option String} {ts : List Expr} :
    Gives (exprs file []) x ts x' ↔ [] = ts ∧ x = x' :=
  gives_pure

theorem gives_module {file : Option String} {m : Surface.Module} {t : Module} :
    Gives (module file m) x t x' ↔ ∃ fs, Gives (functions file m.functions) x fs x' ∧
      t = ⟨⟨0, moduleSpan file m.functions⟩, file, fs⟩ := by
  unfold module
  rw [gives_bind]
  constructor
  · rintro ⟨fs, y, h, hp⟩
    obtain ⟨rfl, rfl⟩ := gives_pure.mp hp
    exact ⟨fs, h, rfl⟩
  · rintro ⟨fs, h, rfl⟩
    exact ⟨fs, x', h, gives_pure.mpr ⟨rfl, rfl⟩⟩

end ChainLint.Tree.Build
