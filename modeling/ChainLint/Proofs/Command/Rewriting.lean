import ChainLint.Command.Run
import ChainLint.Proofs.Command.Places
import ChainLint.Proofs.Lint.Rounds

namespace ChainLint

theorem Merges.mem {a : Nat} {text out : List Char} {cs : List Change} (h : Merges a text cs out)
    {c : Char} (hc : c ∈ out) : c ∈ text ∨ ∃ d ∈ cs, c ∈ d.snippet := by
  induction h with
  | done => exact .inl hc
  | @change _ kept old text out d ds _ _ _ ih =>
      rcases List.mem_append.mp hc with hc | hc
      · exact .inl (List.mem_append_left _ hc)
      · rcases List.mem_append.mp hc with hc | hc
        · exact .inr ⟨d, List.mem_cons_self, hc⟩
        · rcases ih hc with hc | ⟨e, he, hc⟩
          · exact .inl (List.mem_append_right _ (List.mem_append_right _ hc))
          · exact .inr ⟨e, List.mem_cons_of_mem d he, hc⟩

namespace Utf8

inductive Merges : Nat → List Nat → List Change → List Nat → Prop where
  | done {a : Nat} {bytes : List Nat} : Merges a bytes [] bytes
  | change {a : Nat} {kept old : List Char} {bytes out : List Nat} {c : Change} {cs : List Change}
      (hlo : c.lo = a + kept.length) (hhi : c.hi = c.lo + old.length)
      (h : Merges c.hi bytes cs out) :
      Merges a (encode kept ++ (encode old ++ bytes)) (c :: cs)
        (encode kept ++ (encode c.snippet ++ out))

theorem Merges.of_text {a : Nat} {text out : List Char} {cs : List Change}
    (h : ChainLint.Merges a text cs out) : Merges a (encode text) cs (encode out) := by
  induction h with
  | done => exact .done
  | change hlo hhi _ ih =>
      simp only [encode_append]
      exact .change hlo hhi ih

end Utf8

namespace MapUnwrapOr

variable {file : Option String} {text : List Char} {levels : LintLevels} {ds : List Diagnostic}

theorem Chain.not_mem_snippet (c : Chain) (h : '\r' ∉ text) : ∀ e ∈ c.edits text, '\r' ∉ e.snippet := by
  have hrename : '\r' ∉ (c.rename text).snippet := by
    unfold rename
    cases c.merge text with
    | mapOr => exact (by decide : '\r' ∉ Merge.mapOr.methodName.toList)
    | andThen => exact (by decide : '\r' ∉ Merge.andThen.methodName.toList)
  have hremove : '\r' ∉ c.remove.snippet := List.not_mem_nil
  have hinsert : '\r' ∉ (c.insert text).snippet := by
    refine List.not_mem_append (fun hc => ?_) (by decide)
    exact h (List.mem_of_mem_take (List.mem_of_mem_drop hc))
  unfold edits
  split <;> simp [hrename, hremove, hinsert]

end MapUnwrapOr

namespace Command

def taken (ds : List Diagnostic) : List Edit :=
  (Suggestion.accept [] (Suggestion.candidates true (ds.flatMap Diagnostic.suggestions))).flatMap
    Suggestion.parts

def made (o : Options) (name : String) (text : List Char) : List Edit :=
  match o.fix, o.level with
  | true, some level =>
      match lintText (some name) (levelsFor level) text with
      | .ok ds => taken ds
      | .error _ => []
  | _, _ => []

variable {o : Options} {name : String} {text : List Char} {level : LintLevel}

section Taken

variable {ds : List Diagnostic}

theorem mem_taken {e : Edit} (h : e ∈ taken ds) :
    ∃ s ∈ ds.flatMap Diagnostic.suggestions, e ∈ s.parts := by
  obtain ⟨s, hs, he⟩ := List.mem_flatMap.mp h
  exact ⟨s, Suggestion.mem_of_mem_accept hs, he⟩

theorem taken_eq_nil : taken ds = [] ↔
    (Suggestion.applyAll text (ds.flatMap Diagnostic.suggestions)).2 = 0 := by
  rw [Suggestion.applyAll, List.length_eq_zero_iff]
  constructor
  · intro h
    refine List.eq_nil_iff_forall_not_mem.mpr fun s hs => ?_
    have hparts := (Suggestion.mem_candidates.mp ((Suggestion.accept_sublist _ _).mem hs)).2.1
    exact hparts (List.flatMap_eq_nil_iff.mp h s hs)
  · intro h
    rw [taken, h]
    rfl

theorem taken_merges {file : Option String} {levels : LintLevels}
    (h : lintText file levels text = .ok ds) : ∃ cs, ((taken ds).map Edit.change).Perm cs ∧
      Merges 0 text cs (Edit.applyAll text (taken ds)) := by
  refine Edit.exists_merges (fun e he => ?_) ?_
  · obtain ⟨s, hs, he⟩ := mem_taken he
    obtain ⟨c, hc, rfl⟩ := MapUnwrapOr.suggestion_laid h hs
    exact hc.edits_within e he
  · exact Suggestion.accept_apart .nil _

end Taken

theorem made_of_fix (hfix : o.fix = true) (hlevel : o.level = some level) :
    made o name text = match lintText (some name) (levelsFor level) text with
      | .ok ds => taken ds
      | .error _ => [] := by
  rw [made, hfix, hlevel]

theorem made_of_not_fix (hfix : o.fix = false) : made o name text = [] := by
  rw [made, hfix]

theorem made_of_error {e : LintError} (hlevel : o.level = some level)
    (h : lintText (some name) (levelsFor level) text = .error e) : made o name text = [] := by
  cases hfix : o.fix with
  | false => exact made_of_not_fix hfix
  | true => rw [made_of_fix hfix hlevel, h]

theorem made_cases (o : Options) (name : String) (text : List Char) : made o name text = [] ∨
    ∃ level ds, lintText (some name) (levelsFor level) text = .ok ds ∧ made o name text = taken ds := by
  cases hfix : o.fix with
  | false => exact .inl (made_of_not_fix hfix)
  | true =>
      cases hlevel : o.level with
      | none =>
          left
          rw [made, hfix, hlevel]
      | some level =>
          rw [made_of_fix hfix hlevel]
          cases hds : lintText (some name) (levelsFor level) text with
          | error e => exact .inl rfl
          | ok ds => exact .inr ⟨level, ds, hds, rfl⟩

theorem made_merges (o : Options) (name : String) (text : List Char) :
    ∃ cs, ((made o name text).map Edit.change).Perm cs ∧
      Merges 0 text cs (Edit.applyAll text (made o name text)) := by
  rcases made_cases o name text with hnone | ⟨level, ds, hds, htaken⟩
  · rw [hnone]
    exact ⟨[], .refl _, .done⟩
  · rw [htaken]
    exact taken_merges hds

theorem not_mem_made (h : '\r' ∉ text) : ∀ e ∈ made o name text, '\r' ∉ e.snippet := by
  intro e he
  rcases made_cases o name text with hnone | ⟨level, ds, hds, htaken⟩
  · rw [hnone] at he
    cases he
  · rw [htaken] at he
    obtain ⟨s, hs, he⟩ := mem_taken he
    obtain ⟨c, -, rfl⟩ := MapUnwrapOr.suggestion_laid hds hs
    exact c.not_mem_snippet h e he

def rewrite (o : Options) (name : String) (bytes : List Nat) : List Nat :=
  match Utf8.decode bytes with
  | .error _ => bytes
  | .ok text =>
      let text := unifyLineEnds text
      if made o name text = [] then bytes
      else Utf8.encode (Edit.applyAll text (made o name text))

/-- Bytes with the edits made in their text. Its line ends are made one before, if anything is
changed. -/
def Rewritten (o : Options) (name : String) (bytes bytes' : List Nat) : Prop :=
  ∃ text cs, Utf8.decode bytes = .ok text ∧
    ((made o name (unifyLineEnds text)).map Edit.change).Perm cs ∧
    Utf8.Merges 0 (if cs = [] then bytes else Utf8.encode (unifyLineEnds text)) cs bytes'

def Spliced (o : Options) (name : String) (bytes bytes' : List Nat) : Prop :=
  ∃ text cs, Utf8.decode bytes = .ok text ∧ ((made o name text).map Edit.change).Perm cs ∧
    Utf8.Merges 0 bytes cs bytes'

section Rewrite

variable {bytes : List Nat}

theorem rewrite_of_error {e : Utf8Error × Nat} (h : Utf8.decode bytes = .error e) :
    rewrite o name bytes = bytes := by
  rw [rewrite, h]

theorem rewrite_of_text (h : Utf8.decode bytes = .ok text) : rewrite o name bytes =
    if made o name (unifyLineEnds text) = [] then bytes
    else Utf8.encode (Edit.applyAll (unifyLineEnds text) (made o name (unifyLineEnds text))) := by
  rw [rewrite, h]

theorem rewritten_rewrite (o : Options) (name : String) (h : Utf8.decode bytes = .ok text) :
    Rewritten o name bytes (rewrite o name bytes) := by
  obtain ⟨cs, hperm, hmerges⟩ := made_merges o name (unifyLineEnds text)
  refine ⟨text, cs, h, hperm, ?_⟩
  rw [rewrite_of_text h]
  by_cases hnone : made o name (unifyLineEnds text) = []
  · rw [hnone] at hperm
    cases hperm.nil_eq
    rw [if_pos hnone, if_pos rfl]
    exact .done
  · have hcs : cs ≠ [] := by
      rintro rfl
      exact hnone (List.map_eq_nil_iff.mp hperm.eq_nil)
    rw [if_neg hnone, if_neg hcs]
    exact .of_text hmerges

theorem Rewritten.spliced {bytes' : List Nat} (h : Rewritten o name bytes bytes')
    (htext : Utf8.decode bytes = .ok text) (hplain : '\r' ∉ text) : Spliced o name bytes bytes' := by
  obtain ⟨text', cs, htext', hperm, hmerges⟩ := h
  cases htext.symm.trans htext'
  rw [unifyLineEnds_eq_self hplain, Utf8.encode_of_decode htext, ite_self] at hmerges
  rw [unifyLineEnds_eq_self hplain] at hperm
  exact ⟨text, cs, htext, hperm, hmerges⟩

theorem decode_rewrite (o : Options) (name : String) (h : Utf8.decode bytes = .ok text) :
    ∃ text', Utf8.decode (rewrite o name bytes) = .ok text' ∧ ('\r' ∉ text → '\r' ∉ text') := by
  rw [rewrite_of_text h]
  split
  · exact ⟨text, h, id⟩
  · refine ⟨_, Utf8.decode_encode _, fun _ hmem => ?_⟩
    obtain ⟨cs, hperm, hmerges⟩ := made_merges o name (unifyLineEnds text)
    have hunified := not_mem_unifyLineEnds text
    rcases hmerges.mem hmem with hmem | ⟨c, hc, hmem⟩
    · exact hunified hmem
    · obtain ⟨e, he, rfl⟩ := List.mem_map.mp (hperm.mem_iff.mpr hc)
      exact not_mem_made hunified e he hmem

end Rewrite

/-- The bytes of a file as a run comes to it, under those of the names that lead to it. -/
inductive Visits (step : String → List Nat → List Nat → Prop) (files : FileTree) (place : Place) :
    List String → List Nat → List Nat → Prop where
  | done {bytes : List Nat} : Visits step files place [] bytes bytes
  | elsewhere {given : String} {names : List String} {bytes bytes' : List Nat}
      (h : ¬files.LeadsTo (Path.ofString given) place)
      (rest : Visits step files place names bytes bytes') :
      Visits step files place (given :: names) bytes bytes'
  | here {given : String} {names : List String} {bytes mid bytes' : List Nat}
      (h : files.LeadsTo (Path.ofString given) place)
      (hstep : step (Path.ofString given).toString bytes mid)
      (rest : Visits step files place names mid bytes') :
      Visits step files place (given :: names) bytes bytes'

def readSource (files : FileTree) (given : String) : Except SourceFault (Place × List Char) :=
  let path := Path.ofString given
  match files.locate path with
  | .error e => .error ⟨path.toString, "cannot read source file: " ++ e.message⟩
  | .ok (place, bytes) =>
      match Utf8.decode bytes with
      | .error (e, at_) =>
          .error ⟨path.toString, "source file is not valid UTF-8: " ++ e.message ++ " at byte " ++
            toString at_⟩
      | .ok decoded => .ok (place, unifyLineEnds decoded)

def filesAfter (o : Options) (files : FileTree) (given : String) : FileTree :=
  match readSource files given with
  | .error _ => files
  | .ok (place, text) =>
      let edits := made o (Path.ofString given).toString text
      if edits = [] then files else files.write place (Utf8.encode (Edit.applyAll text edits))

variable {p p' : Progress} {given : String} {place : Place}

theorem addFixes_files (p : Progress) (place : Place) (text : List Char) (ds : List Diagnostic) :
    (addFixes p place text ds).files = if taken ds = [] then p.files
      else p.files.write place (Utf8.encode (Edit.applyAll text (taken ds))) := by
  unfold addFixes
  simp only [← taken_eq_nil]
  split
  · rfl
  · rfl

theorem source_eq (o : Options) (level : LintLevel) (p : Progress) (given : String) :
    source o level p given =
      if given.toList.contains '\x00' then .error .nulInPath
      else
        match readSource p.files given with
        | .error f => .ok (addFault p f)
        | .ok (place, text) =>
            let name := (Path.ofString given).toString
            match lintText (some name) (levelsFor level) text with
            | .error .tooDeep => .ok (addFault p ⟨name, "expression nesting too deep to analyze"⟩)
            | .error (.badString cause) => .error (.badString cause)
            | .error .longInteger => .error .longInteger
            | .ok ds =>
                let p := addReports p name text ds
                .ok (if o.fix then addFixes p place text ds else p) := by
  unfold source readSource
  simp only
  cases p.files.locate (Path.ofString given) with
  | error e => rfl
  | ok r =>
      obtain ⟨place, bytes⟩ := r
      dsimp only
      cases Utf8.decode bytes with
      | error e => rfl
      | ok decoded => rfl

theorem source_files (hlevel : o.level = some level) (h : source o level p given = .ok p') :
    p'.files = filesAfter o p.files given := by
  rw [source_eq] at h
  unfold filesAfter
  split at h
  · cases h
  · cases hread : readSource p.files given with
    | error f =>
        rw [hread] at h
        cases h
        rfl
    | ok r =>
        obtain ⟨place, text⟩ := r
        simp only [hread] at h ⊢
        cases hlint : lintText (some (Path.ofString given).toString) (levelsFor level) text with
        | error e =>
            rw [made_of_error hlevel hlint, if_pos rfl]
            rw [hlint] at h
            cases e with
            | tooDeep =>
                cases h
                rfl
            | badString cause => cases h
            | longInteger => cases h
        | ok ds =>
            rw [hlint] at h
            cases h
            cases hfix : o.fix with
            | false =>
                rw [made_of_not_fix hfix, if_pos rfl]
                rfl
            | true =>
                rw [made_of_fix hfix hlevel, hlint]
                exact addFixes_files _ place text ds

theorem filesAfter_cases (o : Options) (files : FileTree) (given : String) :
    (∃ e, files.locate (Path.ofString given) = .error e ∧ filesAfter o files given = files) ∨
      ∃ place bytes, files.locate (Path.ofString given) = .ok (place, bytes) ∧
        (filesAfter o files given = files ∧ rewrite o (Path.ofString given).toString bytes = bytes ∨
          filesAfter o files given =
            files.write place (rewrite o (Path.ofString given).toString bytes)) := by
  unfold filesAfter readSource
  dsimp only
  cases files.locate (Path.ofString given) with
  | error e => exact .inl ⟨e, rfl, rfl⟩
  | ok r =>
      obtain ⟨place, bytes⟩ := r
      refine .inr ⟨place, bytes, rfl, ?_⟩
      cases hdecode : Utf8.decode bytes with
      | error e =>
          simp only [hdecode]
          exact .inl ⟨trivial, rewrite_of_error hdecode⟩
      | ok text =>
          simp only [hdecode, rewrite_of_text hdecode]
          by_cases hnone : made o (Path.ofString given).toString (unifyLineEnds text) = []
          · exact .inl ⟨if_pos hnone, if_pos hnone⟩
          · simp only [if_neg hnone]
            exact .inr trivial

theorem file?_filesAfter (o : Options) (files : FileTree) (given : String) (place : Place) :
    files.SamePlaces (filesAfter o files given) ∧
      (files.LeadsTo (Path.ofString given) place → (filesAfter o files given).file? place =
        (files.file? place).map (rewrite o (Path.ofString given).toString)) ∧
      (¬files.LeadsTo (Path.ofString given) place →
        (filesAfter o files given).file? place = files.file? place) := by
  rcases filesAfter_cases o files given with ⟨e, hlocate, hfiles⟩ | ⟨place', bytes, hlocate, hfiles⟩
  · rw [hfiles]
    refine ⟨.refl _, fun hleads => ?_, fun _ => rfl⟩
    rw [FileTree.LeadsTo, hlocate] at hleads
    cases hleads
  · have hleads' := FileTree.leadsTo_of_locate hlocate
    have hfile := FileTree.file?_of_locate hlocate
    rcases hfiles with ⟨hfiles, hsame⟩ | hfiles
    · rw [hfiles]
      refine ⟨.refl _, fun hleads => ?_, fun _ => rfl⟩
      rw [hleads.unique hleads', hfile, Option.map_some, hsame]
    · rw [hfiles, FileTree.file?_write]
      refine ⟨.write _ _ _, fun hleads => ?_, fun hleads => ?_⟩
      · rw [hleads.unique hleads', if_pos rfl, hfile]
        rfl
      · rw [if_neg]
        rintro rfl
        exact hleads hleads'

theorem sources_visits (hlevel : o.level = some level) {files : FileTree} {names : List String}
    {bytes : List Nat} {cause : Option RunFault} (hp : sources o level p names = (p', cause))
    (hplaces : files.SamePlaces p.files) (hfile : p.files.file? place = some bytes)
    (htext : Utf8.decode bytes = .ok text) :
    ∃ visited bytes', visited <+: names ∧ (cause = none → visited = names) ∧
      p'.files.file? place = some bytes' ∧
      Visits (Rewritten o) files place visited bytes bytes' ∧
      ('\r' ∉ text → Visits (Spliced o) files place visited bytes bytes') := by
  induction names generalizing p bytes text with
  | nil =>
      cases hp
      exact ⟨[], bytes, List.nil_prefix, fun _ => rfl, hfile, .done, fun _ => .done⟩
  | cons given names ih =>
      rw [sources] at hp
      cases hs : source o level p given with
      | error e =>
          rw [hs] at hp
          cases hp
          exact ⟨[], bytes, List.nil_prefix, nofun, hfile, .done, fun _ => .done⟩
      | ok p₁ =>
          rw [hs] at hp
          obtain ⟨hsame, hhere, helsewhere⟩ := file?_filesAfter o p.files given place
          rw [← source_files hlevel hs] at hsame hhere helsewhere
          have hleads : p.files.LeadsTo (Path.ofString given) place ↔
              files.LeadsTo (Path.ofString given) place := by
            rw [FileTree.LeadsTo, hplaces.locate, FileTree.LeadsTo]
          by_cases hl : files.LeadsTo (Path.ofString given) place
          · have hmid := hhere (hleads.mpr hl)
            rw [hfile, Option.map_some] at hmid
            obtain ⟨text', htext', hplain⟩ :=
              decode_rewrite o (Path.ofString given).toString htext
            obtain ⟨visited, bytes', hprefix, hall, hlast, hvisits, hspliced⟩ :=
              ih hp (hplaces.trans hsame) hmid htext'
            have hstep := rewritten_rewrite o (Path.ofString given).toString htext
            exact ⟨given :: visited, bytes', List.cons_prefix_cons.mpr ⟨rfl, hprefix⟩,
              fun hc => congrArg _ (hall hc), hlast, .here hl hstep hvisits,
              fun hcr => .here hl (hstep.spliced htext hcr) (hspliced (hplain hcr))⟩
          · have hmid := (helsewhere (fun h => hl (hleads.mp h))).trans hfile
            obtain ⟨visited, bytes', hprefix, hall, hlast, hvisits, hspliced⟩ :=
              ih hp (hplaces.trans hsame) hmid htext
            exact ⟨given :: visited, bytes', List.cons_prefix_cons.mpr ⟨rfl, hprefix⟩,
              fun hc => congrArg _ (hall hc), hlast, .elsewhere hl hvisits,
              fun hcr => .elsewhere hl (hspliced hcr)⟩

theorem run_of_error {args : List String} {edition : Edition} {e : NoOptions}
    (h : Options.ofArgs args edition = .error e) (files : FileTree) :
    (run files args edition).files = files := by
  unfold run
  rw [h]
  cases e with
  | help => rfl
  | usage e => rfl

theorem run_visits {args : List String} {edition : Edition}
    (h : Options.ofArgs args edition = .ok o) {files : FileTree} {bytes : List Nat}
    (hfile : files.file? place = some bytes) (htext : Utf8.decode bytes = .ok text) :
    ∃ visited bytes', visited <+: o.sources ∧
      (∀ code, (run files args edition).outcome = .exit code → visited = o.sources) ∧
      (run files args edition).files.file? place = some bytes' ∧
      Visits (Rewritten o) files place visited bytes bytes' ∧
      ('\r' ∉ text → Visits (Spliced o) files place visited bytes bytes') := by
  cases hlevel : o.level with
  | none =>
      have hrun : run files args edition = ⟨.fault .noLevel, "", "", files⟩ := by
        rw [run, h]
        simp only [hlevel]
      rw [hrun]
      exact ⟨[], bytes, List.nil_prefix, nofun, hfile, .done, fun _ => .done⟩
  | some level =>
      rw [run_of_level h hlevel]
      cases hp : sources o level { files := files } o.sources with
      | mk p cause =>
          obtain ⟨visited, bytes', hprefix, hall, hlast, hvisits, hspliced⟩ :=
            sources_visits hlevel hp (.refl _) hfile htext
          cases cause with
          | none =>
              refine ⟨visited, bytes', hprefix, fun _ _ => hall rfl, ?_, hvisits, hspliced⟩
              simp only [finish]
              split <;> exact hlast
          | some cause => exact ⟨visited, bytes', hprefix, nofun, hlast, hvisits, hspliced⟩

/-- After a run the bytes of a file are those before it with the accepted edits made, each time that a
source leads to it. Where anything is changed and there are carriage returns, the line ends are made
one; in a file without any, every byte outside the edits is kept. Arguments that give no options change
nothing. -/
theorem run_rewrites {args : List String} {edition : Edition} {files : FileTree} {bytes : List Nat}
    (hfile : files.file? place = some bytes) (htext : Utf8.decode bytes = .ok text) :
    (∀ e, Options.ofArgs args edition = .error e → (run files args edition).files = files) ∧
    ∀ o, Options.ofArgs args edition = .ok o → ∃ visited bytes', visited <+: o.sources ∧
      (∀ code, (run files args edition).outcome = .exit code → visited = o.sources) ∧
      (run files args edition).files.file? place = some bytes' ∧
      Visits (Rewritten o) files place visited bytes bytes' ∧
      ('\r' ∉ text → Visits (Spliced o) files place visited bytes bytes') :=
  ⟨fun _ h => run_of_error h files, fun _ h => run_visits h hfile htext⟩

theorem exists_run_rewrites :
    let bytes := Utf8.encode "fn f(o: Option<i32>) \x7b o.map(g).unwrap_or(\"é\"); \x7d".toList
    let bytes' := Utf8.encode "fn f(o: Option<i32>) \x7b o.map_or(\"é\", g); \x7d".toList
    let files : FileTree := { files := [(["m.rs"], bytes)] }
    let o : Options := { fix := true, sources := ["m.rs"] }
    (run files ["--fi", "m.rs"] .late).files.file? ["m.rs"] = some bytes' ∧
      Visits (Rewritten o) files ["m.rs"] ["m.rs"] bytes bytes' ∧
      Visits (Spliced o) files ["m.rs"] ["m.rs"] bytes bytes' := by
  intro bytes bytes' files o
  have hargs : Options.ofArgs ["--fi", "m.rs"] .late = .ok o := by decide +kernel
  have hrun : (run files ["--fi", "m.rs"] .late).outcome = .exit 0 ∧
      (run files ["--fi", "m.rs"] .late).files.file? ["m.rs"] = some bytes' := by decide +kernel
  have hfile : files.file? ["m.rs"] = some bytes := rfl
  obtain ⟨visited, last, -, hall, hlast, hvisits, hspliced⟩ :=
    (run_rewrites hfile (Utf8.decode_encode _)).2 o hargs
  cases hall 0 hrun.1
  cases Option.some.inj (hlast.symm.trans hrun.2)
  exact ⟨hrun.2, hvisits, hspliced (by decide)⟩

end Command

end ChainLint
