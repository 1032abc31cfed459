import ChainLint.Command.FileTree

namespace ChainLint

namespace FileTree

structure SamePlaces (t t' : FileTree) : Prop where
  files : t'.files.map Prod.fst = t.files.map Prod.fst
  directories : t'.directories = t.directories
  current : t'.current = t.current

def LeadsTo (t : FileTree) (p : Path) (place : Place) : Prop :=
  (t.locate p).map Prod.fst = .ok place

theorem SamePlaces.refl (t : FileTree) : t.SamePlaces t := ⟨rfl, rfl, rfl⟩

theorem SamePlaces.write (t : FileTree) (place : Place) (bytes : List Nat) :
    t.SamePlaces (t.write place bytes) :=
  ⟨write_places t place bytes, rfl, rfl⟩

theorem SamePlaces.trans {t t' t'' : FileTree} (h : t.SamePlaces t') (h' : t'.SamePlaces t'') :
    t.SamePlaces t'' :=
  ⟨h'.files.trans h.files, h'.directories.trans h.directories, h'.current.trans h.current⟩

theorem file?_isSome (t : FileTree) (place : Place) :
    (t.file? place).isSome = (t.files.map Prod.fst).contains place := by
  unfold file?
  induction t.files with
  | nil => rfl
  | cons f fs ih =>
      obtain ⟨place', bytes⟩ := f
      rw [List.lookup_cons, List.map_cons, List.contains_cons]
      cases place == place' with
      | true => rfl
      | false => exact ih

namespace SamePlaces

variable {t t' : FileTree}

theorem file?_isSome (h : t.SamePlaces t') (place : Place) :
    (t'.file? place).isSome = (t.file? place).isSome := by
  rw [FileTree.file?_isSome, FileTree.file?_isSome, h.files]

theorem isDirectory (h : t.SamePlaces t') (place : Place) :
    t'.isDirectory place = t.isDirectory place := by
  have hany (t : FileTree) : (t.files.any fun f => place.isPrefixOf f.1 && place ≠ f.1) =
      (t.files.map Prod.fst).any fun p => place.isPrefixOf p && place ≠ p := by
    rw [List.any_map]
    rfl
  rw [FileTree.isDirectory, FileTree.isDirectory, hany, hany, h.files, h.directories, h.current]

theorem enter (h : t.SamePlaces t') : t'.enter = t.enter := by
  funext place part
  simp only [FileTree.enter, h.isDirectory, h.file?_isSome]

theorem startOf (h : t.SamePlaces t') (p : Path) : t'.startOf p = t.startOf p := by
  rw [FileTree.startOf, FileTree.startOf, h.current]

theorem locate (h : t.SamePlaces t') (p : Path) :
    (t'.locate p).map Prod.fst = (t.locate p).map Prod.fst := by
  unfold FileTree.locate
  rw [h.enter, h.startOf]
  split
  · rfl
  · cases p.parts.foldlM t.enter (t.startOf p) with
    | error e => rfl
    | ok place =>
        have hsome := h.file?_isSome place
        simp only
        cases hfile : t.file? place with
        | none =>
            rw [hfile, Option.isSome_none, Option.isSome_eq_false_iff, Option.isNone_iff_eq_none]
              at hsome
            rw [hsome]
        | some bytes =>
            rw [hfile] at hsome
            obtain ⟨bytes', hfile'⟩ := Option.isSome_iff_exists.mp hsome
            rw [hfile']
            rfl

end SamePlaces

variable {t : FileTree} {p : Path} {place : Place} {bytes : List Nat}

theorem leadsTo_of_locate (h : t.locate p = .ok (place, bytes)) : t.LeadsTo p place := by
  rw [LeadsTo, h]
  rfl

theorem LeadsTo.unique {place' : Place} (h : t.LeadsTo p place) (h' : t.LeadsTo p place') :
    place = place' :=
  Except.ok.inj (h.symm.trans h')

theorem file?_of_locate (h : t.locate p = .ok (place, bytes)) : t.file? place = some bytes := by
  unfold locate at h
  split at h
  · cases h
  · split at h
    · cases h
    · next hplace =>
        split at h
        · next hfile =>
            cases h
            exact hfile
        · cases h

theorem file?_write (t : FileTree) (place place' : Place) (bytes : List Nat) :
    (t.write place bytes).file? place' =
      if place' = place then (t.file? place').map fun _ => bytes else t.file? place' := by
  unfold write file?
  simp only
  induction t.files with
  | nil =>
      rw [List.map_nil, List.lookup_nil]
      split <;> rfl
  | cons f fs ih =>
      obtain ⟨q, bytes'⟩ := f
      rw [List.map_cons]
      by_cases hq : q = place
      · rw [if_pos hq, List.lookup_cons, List.lookup_cons, hq]
        by_cases hplace : place' = place
        · rw [hplace, beq_self_eq_true, if_pos rfl]
          rfl
        · rw [beq_false_of_ne hplace, if_neg hplace]
          exact ih.trans (if_neg hplace)
      · rw [if_neg hq, List.lookup_cons, List.lookup_cons]
        cases hsame : place' == q with
        | true =>
            have hne : place' ≠ place := fun h => hq ((eq_of_beq hsame).symm.trans h)
            exact (if_neg hne).symm
        | false => exact ih

end FileTree

end ChainLint
