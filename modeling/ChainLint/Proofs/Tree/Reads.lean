import ChainLint.Proofs.Tree.Nesting
import ChainLint.Proofs.Tree.Plain

namespace ChainLint

theorem ok_of_toOption {ε α : Type} {e : Except ε α} {a : α} (h : e.toOption = some a) :
    e = .ok a := by
  cases e with
  | error => cases h
  | ok => exact congrArg _ (Option.some.inj h)

end ChainLint

namespace ChainLint.Tree

open Surface Build Lexer

structure Reads (file : Option String) (text : List Char) (m : Module)
    (fs : List Surface.Function) (ws : List Lexeme) : Prop where
  spells : SpellsFunctions fs ws
  cuts : ∃ s, Pending.Cuts ws ⟨.fileStart, .start, text⟩ s ∧ blankRun false s.text = s.text
  builds : (fs.all fun f => Builds.block f.body) = true
  functions : m.functions.map (Function.erase Span.inRoot) = fs.map (Plain.function file)
  file : m.file = file

namespace Module

variable {file : Option String} {text : List Char}

theorem exists_reads {x : Expansions} {m : Module} (h : (ofText file text x).1 = .ok m) :
    ∃ fs ws, Reads file text m fs ws := by
  obtain ⟨sm, tokens, x', hparse, hgives⟩ := ofText_eq_ok.mp h
  obtain ⟨ws, s, hcuts, hblank, hspells⟩ := parse_cuts hparse
  obtain ⟨fs, hfs, rfl⟩ := gives_module.mp hgives
  obtain ⟨hbuilds, hfunctions⟩ := (meets_functions file sm.functions _).2 _ _ hfs
  exact ⟨sm.functions, ws, hspells, ⟨s, hcuts, hblank⟩, hbuilds, hfunctions, rfl⟩

theorem ofText_of_parse {fs : List Surface.Function} {tokens : List Token}
    (h : parse text = .ok (⟨fs⟩, tokens)) (hbuilds : (fs.all fun f => Builds.block f.body) = true)
    (x : Expansions) : ∃ m, (ofText file text x).1 = .ok m ∧ m.file = file ∧
      m.functions.map (Function.erase Span.inRoot) = fs.map (Plain.function file) := by
  obtain ⟨ts, x', hts, hfunctions⟩ := (meets_functions file fs x).1 hbuilds
  exact ⟨⟨⟨0, moduleSpan file fs⟩, file, ts⟩,
    ofText_eq_ok.mpr ⟨_, _, _, h, gives_module.mpr ⟨_, hts, rfl⟩⟩, rfl, hfunctions⟩

end Module

theorem Reads.analysis {file : Option String} {text : List Char} {m : Module}
    {fs : List Surface.Function} {ws : List Lexeme} (h : Reads file text m fs ws) :
    Reads file text (Analysis.ofModule m).module fs ws := by
  have hsame := Analysis.erase_module Span.inRoot m
  exact ⟨h.spells, h.cuts, h.builds, (congrArg Module.functions hsame).trans h.functions,
    (congrArg Module.file hsame).trans h.file⟩

end ChainLint.Tree
