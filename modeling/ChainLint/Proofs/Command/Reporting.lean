import ChainLint.Proofs.Command.Rewriting
import ChainLint.Proofs.Lint.Placed

namespace ChainLint

namespace Json

def field? (key : String) : Json → Option Json
  | .object fields => fields.lookup key
  | _ => none

def text? : Json → Option String
  | .string s => some s
  | _ => none

def place? (j : Json) : Option String :=
  match j.field? "line", j.field? "column" with
  | some (.number l), some (.number c) => some (toString l ++ ":" ++ toString c)
  | some .null, some .null => some "?:?"
  | _, _ => none

def header? (j : Json) : Option String := do
  let path ← (j.field? "file").bind text?
  let place ← j.place?
  let severity ← (j.field? "severity").bind text?
  let message ← (j.field? "message").bind text?
  return path ++ ":" ++ place ++ ": " ++ severity ++ ": " ++ message

end Json

inductive Report where
  | fault (f : SourceFault)
  | found (path : String) (text : List Char) (d : Diagnostic)

namespace Report

def toJson : Report → Json
  | .fault f => f.toJson
  | .found path _ d => d.toJson path

def header : Report → String
  | .fault f => f.path ++ ":?:?: error: " ++ f.message
  | .found path _ d => d.header path

def details : Report → String
  | .fault _ => "\n"
  | .found _ text d =>
      (match d.code with
        | some c => " [" ++ c ++ "]"
        | none => "") ++ ("\n" ++
      (String.join (d.notes.map fun n => "  note: " ++ n ++ "\n") ++
        String.join (d.suggestions.map (Suggestion.line text d))))

def lines (r : Report) : String := r.header ++ r.details

def isError : Report → Bool
  | .fault _ => true
  | .found _ _ d => d.severity = .error

def IsPlaced : Report → Prop
  | .fault _ => True
  | .found path _ d => d.span.IsPlaced (some path)

theorem lines_fault (f : SourceFault) : (fault f).lines = f.line := rfl

theorem lines_found (path : String) (text : List Char) (d : Diagnostic) :
    (found path text d).lines = d.lines path text := by
  rw [lines, header, details, Diagnostic.lines]
  cases d.code with
  | none => simp only [String.append_assoc]
  | some c => simp only [String.append_assoc]

theorem header?_toJson {r : Report} (h : r.IsPlaced) : r.toJson.header? = some r.header := by
  cases r with
  | fault f =>
      change some (f.path ++ ":" ++ "?:?" ++ ": " ++ "error" ++ ": " ++ f.message) = _
      simp only [header, String.append_assoc]
      rfl
  | found path text d =>
      obtain ⟨hfile, hline, hcolumn⟩ := h
      obtain ⟨l, hl⟩ := Option.isSome_iff_exists.mp hline
      obtain ⟨c, hc⟩ := Option.isSome_iff_exists.mp hcolumn
      have hjson : (found path text d).toJson = .object [("phase", .string d.phase.label),
          ("code", Diagnostic.optional .string d.code), ("message", .string d.message),
          ("severity", .string d.severity.label), ("file", .string path), ("line", .number l),
          ("column", .number c), ("notes", .array (d.notes.map Json.string)),
          ("suggestions", .array (d.suggestions.map Suggestion.toJson))] := by
        rw [toJson, Diagnostic.toJson, hfile, hl, hc]
        rfl
      rw [hjson, header, Diagnostic.header, Diagnostic.placeText, hl, hc]
      rfl

theorem severity_toJson (r : Report) :
    r.toJson.field? "severity" = some (.string "error") ↔ r.isError = true := by
  cases r with
  | fault f => exact iff_of_true rfl rfl
  | found path text d =>
      change some (Json.string d.severity.label) = _ ↔ decide (d.severity = .error) = true
      cases d.severity with
      | error => exact iff_of_true rfl rfl
      | warning => simp [Severity.label]

end Report

namespace Options

def Reading.asJson (r : Reading) : Reading := { r with options := { r.options with json := true } }

theorem setLevel_asJson (edition : Edition) (r : Reading) (given : String) :
    setLevel edition r.asJson given = (setLevel edition r given).map Reading.asJson := by
  unfold setLevel
  cases LintLevel.ofLabel? given with
  | some l => rfl
  | none =>
      simp only
      split <;> rfl

theorem takeOperands_asJson (r : Reading) (run : List Word) :
    takeOperands r.asJson run = (takeOperands r run).asJson := by
  rw [takeOperands, takeOperands, apply_ite Reading.asJson]
  rfl

theorem read_asJson (edition : Edition) (n : Nat) (ws : List Word) (r : Reading) :
    read edition n ws r.asJson = (read edition n ws r).map Reading.asJson := by
  fun_induction read edition n ws r with
  | case1 => rfl
  | case2 n r h =>
      cases n <;> rfl
  | case3 _ _ _ _ ih | case4 _ _ _ ih | case5 _ _ _ ih => exact ih
  | case6 _ _ _ _ _ he | case8 _ _ _ _ _ he =>
      rw [read, setLevel_asJson, he]
      rfl
  | case7 _ _ _ _ _ he ih | case9 _ _ _ _ _ he ih =>
      rw [read, setLevel_asJson, he]
      exact ih
  | case10 =>
      rw [read]
      · rfl
      · assumption
  | case11 => rfl
  | case12 =>
      rw [read]
      · rfl
      all_goals assumption
  | case13 => rfl
  | case14 _ _ _ _ _ _ _ _ _ _ _ _ _ _ ih =>
      rw [read, takeOperands_asJson]
      · exact ih
      all_goals assumption

theorem finish_asJson (r : Reading) :
    r.asJson.finish = r.finish.map fun o => { o with json := true } := by
  rw [Reading.finish, Reading.finish, apply_ite (Except.map _), apply_ite (Except.map _)]
  rfl

theorem ofArgs_json {word : String} (h : classify word = .ok (.switch .json none))
    (args : List String) (edition : Edition) :
    ofArgs (word :: args) edition = (ofArgs args edition).map fun o => { o with json := true } := by
  have hword : word ≠ "--" := by
    rintro rfl
    cases h
  have hwords : classifyAll (word :: args) =
      (classifyAll args).map fun ws => .switch .json none :: ws := by
    rw [classifyAll, if_neg hword, h]
    cases classifyAll args <;> rfl
  rw [ofArgs, ofArgs, hwords]
  cases classifyAll args with
  | error e => rfl
  | ok ws =>
      have hread : read edition (args.length + 1) (.switch .json none :: ws) {} =
          (read edition args.length ws {}).map Reading.asJson := read_asJson edition _ ws {}
      simp only [Except.map, List.length_cons, hread]
      cases read edition args.length ws {} with
      | error e => rfl
      | ok r => exact finish_asJson r

end Options

namespace Command

def reportsOf (level : LintLevel) (files : FileTree) (given : String) : List Report :=
  match readSource files given with
  | .error f => [.fault f]
  | .ok (_, text) =>
      let name := (Path.ofString given).toString
      match lintText (some name) (levelsFor level) text with
      | .error .tooDeep => [.fault ⟨name, "expression nesting too deep to analyze"⟩]
      | .error _ => []
      | .ok ds => ds.map (.found name text)

/-- The reports of sources that do not end the run. Each is read from the files that those before it
leave. -/
def allReports (o : Options) (level : LintLevel) : FileTree → List String → List Report
  | _, [] => []
  | files, given :: names =>
      reportsOf level files given ++ allReports o level (filesAfter o files given) names

structure Tells (rs : List Report) (p : Progress) : Prop where
  reports : p.reports = rs.map Report.toJson
  lines : p.lines = String.join (rs.map Report.lines)
  failed : p.failed = rs.any Report.isError
  placed : ∀ r ∈ rs, r.IsPlaced

variable {rs : List Report} {p p' : Progress} {o : Options} {level : LintLevel} {given : String}

namespace Tells

theorem start (files : FileTree) : Tells [] { files := files } where
  reports := rfl
  lines := String.join_nil.symm
  failed := rfl
  placed _ hr := absurd hr List.not_mem_nil

theorem append (h : Tells rs p) {rs' : List Report} (hplaced : ∀ r ∈ rs', r.IsPlaced)
    (hreports : p'.reports = p.reports ++ rs'.map Report.toJson)
    (hlines : p'.lines = p.lines ++ String.join (rs'.map Report.lines))
    (hfailed : p'.failed = (p.failed || rs'.any Report.isError)) : Tells (rs ++ rs') p' where
  reports := by rw [hreports, h.reports, List.map_append]
  lines := by rw [hlines, h.lines, List.map_append, String.join_append]
  failed := by rw [hfailed, h.failed, List.any_append]
  placed := List.forall_mem_append.mpr ⟨h.placed, hplaced⟩

theorem addFault (h : Tells rs p) (f : SourceFault) :
    Tells (rs ++ [.fault f]) (addFault p f) := by
  refine h.append (List.forall_mem_singleton.mpr trivial) rfl ?_ (Bool.or_true _).symm
  rw [List.map_singleton, Report.lines_fault, String.join_cons, String.join_nil,
    String.append_empty]
  rfl

theorem addReports (h : Tells rs p) {path : String} (text : List Char) {ds : List Diagnostic}
    (hds : ∀ d ∈ ds, d.span.IsPlaced (some path)) :
    Tells (rs ++ ds.map (.found path text)) (addReports p path text ds) := by
  refine h.append (List.forall_mem_map.mpr hds) ?_ ?_ ?_
  · rw [List.map_map]
    rfl
  · rw [List.map_map]
    exact congrArg (fun ls => p.lines ++ String.join ls)
      (List.map_congr_left fun d _ => (Report.lines_found path text d).symm)
  · rw [List.any_map]
    rfl

theorem addFixes (h : Tells rs p) (place : Place) (text : List Char) (ds : List Diagnostic) :
    Tells rs (addFixes p place text ds) := by
  unfold Command.addFixes
  simp only
  split
  · exact h
  · exact ⟨h.reports, h.lines, h.failed, h.placed⟩

end Tells

theorem source_tells (h : Tells rs p) (hs : source o level p given = .ok p') :
    Tells (rs ++ reportsOf level p.files given) p' := by
  rw [source_eq] at hs
  unfold reportsOf
  split at hs
  · cases hs
  · cases hread : readSource p.files given with
    | error f =>
        rw [hread] at hs
        cases hs
        exact h.addFault f
    | ok r =>
        obtain ⟨place, text⟩ := r
        simp only [hread] at hs ⊢
        cases hlint : lintText (some (Path.ofString given).toString) (levelsFor level) text with
        | error e =>
            rw [hlint] at hs
            cases e with
            | tooDeep =>
                cases hs
                exact h.addFault _
            | badString cause => cases hs
            | longInteger => cases hs
        | ok ds =>
            rw [hlint] at hs
            cases hs
            have hadded := h.addReports text (MapUnwrapOr.placed_lintText hlint)
            cases o.fix with
            | false => exact hadded
            | true => exact hadded.addFixes place text ds

theorem sources_tells (hlevel : o.level = some level) (h : Tells rs p) {names : List String}
    (hs : sources o level p names = (p', none)) :
    Tells (rs ++ allReports o level p.files names) p' := by
  induction names generalizing rs p with
  | nil =>
      cases hs
      rwa [allReports, List.append_nil]
  | cons name names ih =>
      rw [sources] at hs
      cases hone : source o level p name with
      | error e =>
          rw [hone] at hs
          cases hs
      | ok q =>
          rw [hone] at hs
          rw [allReports, ← source_files hlevel hone, ← List.append_assoc]
          exact ih (source_tells h hone) hs

theorem sources_json (o : Options) (level : LintLevel) (p : Progress) (names : List String) :
    sources { o with json := true } level p names = sources o level p names := by
  induction names generalizing p with
  | nil => rfl
  | cons name names ih =>
      rw [sources, sources]
      have hone : source { o with json := true } level p name = source o level p name := by
        simp only [source]
      rw [hone]
      cases source o level p name with
      | error e => rfl
      | ok q => exact ih q

theorem exitCode_eq_one (h : Tells rs p) :
    exitCode p = 1 ↔ ∃ r ∈ rs, r.toJson.field? "severity" = some (.string "error") := by
  rw [exitCode, h.failed]
  simp only [Report.severity_toJson, ← List.any_eq_true]
  cases rs.any Report.isError <;> decide

/-- The arguments that ask for a payload and those that do not, else the same, give the same exit code
and leave the same files. The payload and the lines are made of the reports of the sources. The lines
are headed by what the objects of the payload say, in their order, and the exit code is one exactly if
one of them is an error. -/
theorem run_json {args args' : List String} {edition : Edition}
    (h : Options.ofArgs args edition = .ok o) (htext : o.json = false)
    (h' : Options.ofArgs args' edition = .ok { o with json := true }) (files : FileTree) :
    (run files args' edition).outcome = (run files args edition).outcome ∧
    (run files args' edition).files = (run files args edition).files ∧
    ∀ code, (run files args edition).outcome = .exit code → ∃ (rs : List Report) (fixes : Nat),
      (∃ level, o.level = some level ∧ rs = allReports o level files o.sources) ∧
      (run files args' edition).stdout = String.ofList (Json.render (.object
        ([("exit_code", .number code), ("diagnostics", .array (rs.map Report.toJson))] ++
          if o.fix then [("fixes_applied", .number fixes)] else []))) ++ "\n" ∧
      (run files args edition).stderr = String.join (rs.map fun r => r.header ++ r.details) ++
        (if o.fix && fixes ≠ 0 then "maplint: applied " ++ toString fixes ++ " fix(es)\n" else "") ∧
      (∀ r ∈ rs, r.toJson.header? = some r.header) ∧ (code = 0 ∨ code = 1) ∧
      (code = 1 ↔ ∃ r ∈ rs, r.toJson.field? "severity" = some (.string "error")) := by
  cases hlevel : o.level with
  | none =>
      unfold run
      rw [h, h']
      simp only [hlevel]
      exact ⟨trivial, trivial, nofun⟩
  | some level =>
      have hlevel' : ({ o with json := true } : Options).level = some level := hlevel
      rw [run_of_level h hlevel, run_of_level h' hlevel', sources_json]
      cases hp : sources o level { files := files } o.sources with
      | mk p cause =>
          cases cause with
          | some cause => exact ⟨rfl, rfl, nofun⟩
          | none =>
              have hrs := sources_tells hlevel (.start files) hp
              rw [List.nil_append] at hrs
              simp only [finish, htext, Bool.false_eq_true, if_false, if_true]
              refine ⟨trivial, trivial, ?_⟩
              rintro code ⟨⟩
              refine ⟨_, p.fixes, ⟨level, rfl, rfl⟩, ?_, ?_,
                fun r hr => Report.header?_toJson (hrs.placed r hr), ?_, exitCode_eq_one hrs⟩
              · rw [payload, hrs.reports]
              · rw [hrs.lines]
                rfl
              · unfold exitCode
                split
                · exact .inr rfl
                · exact .inl rfl

theorem exists_run_json :
    let files : FileTree := { files := [(["a.rs"], Utf8.encode
      "fn f(o: Option<i32>) { o.map(g).unwrap_or(1); }".toList), (["b.rs"], [0xFF])] }
    let args := ["--fi", "--lev", "deny", "a.rs", "b.rs", "c.rs"]
    (run files ("--js" :: args) .late).outcome = .exit 1 ∧
      (run files ("--js" :: args) .late).files = (run files args .late).files ∧
      ∃ (rs : List Report) (fixes : Nat),
        (run files args .late).stderr = String.join (rs.map fun r => r.header ++ r.details) ++
          (if fixes ≠ 0 then "maplint: applied " ++ toString fixes ++ " fix(es)\n" else "") ∧
        (∀ r ∈ rs, r.toJson.header? = some r.header) ∧
        ∃ r ∈ rs, r.toJson.field? "severity" = some (.string "error") := by
  intro files args
  have hargs : Options.ofArgs args .late =
      .ok { fix := true, level := some .deny, sources := ["a.rs", "b.rs", "c.rs"] } := by
    decide +kernel
  have hword : Options.classify "--js" = .ok (.switch .json none) := by decide +kernel
  have hjson := (Options.ofArgs_json hword args .late).trans (congrArg _ hargs)
  have houtcome : (run files args .late).outcome = .exit 1 := by decide +kernel
  obtain ⟨hsame, hfiles, hrest⟩ := run_json hargs rfl hjson files
  obtain ⟨rs, fixes, -, -, hlines, hheaders, -, hiff⟩ := hrest 1 houtcome
  simp only [Bool.true_and, decide_eq_true_eq] at hlines
  exact ⟨hsame.trans houtcome, hfiles, rs, fixes, hlines, hheaders, hiff.mp rfl⟩

end Command

end ChainLint
