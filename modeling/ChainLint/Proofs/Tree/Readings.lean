import ChainLint.Proofs.Tree.Contexts

namespace ChainLint

open Tree

def Expansions.afterReading (x : Expansions)
    (sources : List (Option String × List Char)) : Expansions :=
  sources.foldl (fun x source => (Module.ofText source.1 source.2 x).2) x

namespace Expansions

theorem afterReading_append (x : Expansions) (before after : List (Option String × List Char)) :
    x.afterReading (before ++ after) = (x.afterReading before).afterReading after :=
  List.foldl_append

theorem extends_afterReading (x : Expansions) (sources : List (Option String × List Char)) :
    x.Extends (x.afterReading sources) := by
  induction sources generalizing x with
  | nil => exact .refl x
  | cons source rest ih => exact (Module.extends_ofText source.1 source.2 x).trans (ih _)

def callsRead (x : Expansions) : List (Option String × List Char) → List (Info × String)
  | [] => []
  | source :: rest =>
      (Module.ofText source.1 source.2 x).1.toOption.elim [] (fun m => (Node.module m).macroCalls) ++
        callsRead (Module.ofText source.1 source.2 x).2 rest

theorem le_callsRead (x : Expansions) (sources : List (Option String × List Char)) :
    ∀ call ∈ x.callsRead sources, x.nextContext ≤ call.1.span.context := by
  induction sources generalizing x with
  | nil => exact fun call h => absurd h List.not_mem_nil
  | cons source rest ih =>
      intro call h
      rcases List.mem_append.mp h with h | h
      · cases hread : (Module.ofText source.1 source.2 x).1 with
        | error e =>
            rw [hread] at h
            cases h
        | ok m =>
            rw [hread] at h
            exact (Module.allots_ofText hread).consecutive.le_of_mem (List.mem_map_of_mem h)
      · exact Int.le_trans (Module.extends_ofText _ _ x).nextContext_le (ih _ call h)

theorem nodup_callsRead (x : Expansions) (sources : List (Option String × List Char)) :
    ((x.callsRead sources).map (·.1.span.context)).Nodup := by
  induction sources generalizing x with
  | nil => exact .nil
  | cons source rest ih =>
      rw [callsRead, List.map_append, List.nodup_append]
      have hrest := le_callsRead (Module.ofText source.1 source.2 x).2 rest
      cases hread : (Module.ofText source.1 source.2 x).1 with
      | error e => exact ⟨.nil, ih _, fun a ha => absurd ha List.not_mem_nil⟩
      | ok m =>
          have hcalls := (Module.allots_ofText hread).consecutive
          refine ⟨hcalls.pairwise.imp fun h => Int.ne_of_lt h, ih _, ?_⟩
          intro a ha b hb heq
          obtain ⟨call, hcall, rfl⟩ := List.mem_map.mp hb
          have hlt := hcalls.lt_of_mem ha
          have hle := hrest call hcall
          omega

end Expansions

/-- Texts are read one after the other with one table. What a reading enters in it is never changed
again, even if no tree came of it. The macro invocations of a tree have the contexts that follow each
other from the first that is free before the reading, and to the end of all readings the table knows
each by its name and its place in the text. -/
theorem Tree.Module.contexts_ofText (x : Expansions)
    (before : List (Option String × List Char)) (file : Option String) (text : List Char)
    (after : List (Option String × List Char)) :
    let start := x.afterReading before
    let next := x.afterReading (before ++ [(file, text)])
    let final := x.afterReading (before ++ (file, text) :: after)
    (∀ context e, next.get? context = some e → final.get? context = some e) ∧
      ((x.callsRead (before ++ (file, text) :: after)).map (·.1.span.context)).Nodup ∧
      ∀ m, (Module.ofText file text start).1 = .ok m →
        Consecutive start.nextContext ((Node.module m).macroCalls.map (·.1.span.context))
            next.nextContext ∧
          (∀ call ∈ (Node.module m).macroCalls, start.get? call.1.span.context = none ∧
            final.get? call.1.span.context = some ⟨call.2, call.1.span.inRoot⟩) ∧
          ∀ v ∈ (Node.module m).preorder, (v.macroCall? = none → v.span.context = rootContext) ∧
            ∀ s ∈ v.innerSpans, s.context = rootContext := by
  intro start next final
  have hnext : next = (Module.ofText file text start).2 := by
    change x.afterReading _ = _
    rw [Expansions.afterReading_append]
    rfl
  have hfinal : next.Extends final := by
    have : final = next.afterReading after := by
      rw [← Expansions.afterReading_append, List.append_assoc]
      rfl
    rw [this]
    exact Expansions.extends_afterReading next after
  refine ⟨fun context e => hfinal.get?, x.nodup_callsRead _, fun m h => ?_⟩
  have hx := allots_ofText h
  rw [← hnext] at hx
  refine ⟨hx.consecutive, fun call hcall => ⟨?_, hfinal.get? (hx.get? call hcall)⟩, hx.in_root⟩
  exact Expansions.get?_eq_none (hx.consecutive.le_of_mem (List.mem_map_of_mem hcall))

theorem Tree.Module.exists_contexts_after_failure :
    let before := [(none, "fn f() { a!(b!()); }".toList), (none, "fn f() { c!() d!() }".toList)]
    let start := Expansions.empty.afterReading before
    ∃ m, (Module.ofText none "fn g() { e![h!()].k(l!()); }".toList start).1 = .ok m ∧
      (Node.module m).macroCalls.map (·.1.span.context) = [4, 5, 6] := by
  intro before start
  have hread : ((Module.ofText none "fn g() { e![h!()].k(l!()); }".toList start).1.toOption.map
      fun m => (Node.module m).macroCalls.length) = some 3 := by decide +kernel
  have hstart : start.nextContext = 4 := by decide +kernel
  cases h : (Module.ofText none "fn g() { e![h!()].k(l!()); }".toList start).1 with
  | error e =>
      rw [h] at hread
      cases hread
  | ok m =>
      rw [h] at hread
      obtain ⟨-, -, hm⟩ := contexts_ofText .empty before none "fn g() { e![h!()].k(l!()); }".toList []
      obtain ⟨hcalls, -, -⟩ := hm m h
      change Consecutive start.nextContext _ _ at hcalls
      obtain ⟨a, b, c, habc⟩ := List.length_eq_three.mp (Option.some.inj hread)
      rw [hstart, habc] at hcalls
      obtain ⟨ha, hb, hc, -⟩ := hcalls
      refine ⟨m, rfl, ?_⟩
      rw [habc]
      exact List.cons_eq_cons.mpr
        ⟨ha, List.cons_eq_cons.mpr ⟨hb, List.cons_eq_cons.mpr ⟨hc, rfl⟩⟩⟩

end ChainLint
