import ChainLint.Proofs.Grammar.Parse
import ChainLint.Proofs.Tree.Parts

namespace ChainLint.Surface

def Expr.ending : Expr → Nat
  | .paren inner _ => inner.ending
  | .binary _ _ right _ => right.ending
  | e => e.extent.stop.offset

structure Climbs (a : Nat) (es : List Expr) (b : Nat) : Prop where
  lt : a < b
  between : ∀ e ∈ es, a < e.ending ∧ e.ending < b
  sorted : es.Pairwise fun e v => e.ending < v.ending

namespace Climbs

variable {a m b c : Nat} {w : Lexeme} {ws ws' : List Lexeme} {es vs : List Expr}

theorem nil (h : a < b) : Climbs a [] b := ⟨h, nofun, .nil⟩

theorem mono {a' b' : Nat} (h : Climbs a es b) (ha : a' ≤ a) (hb : b ≤ b') : Climbs a' es b' := by
  have := h.lt
  refine ⟨by omega, fun e he => ?_, h.sorted⟩
  have := h.between e he
  omega

theorem succ (h : Climbs a es b) : Climbs a es (b + 1) := h.mono (Nat.le_refl a) (Nat.le_succ b)

theorem append (h : Climbs a es (m + 1)) (h' : Climbs m vs b) : Climbs a (es ++ vs) b := by
  have hlt := h.lt
  have hlt' := h'.lt
  refine ⟨by omega, fun e he => ?_, List.pairwise_append.mpr ⟨h.sorted, h'.sorted, fun e he v hv => ?_⟩⟩
  · rcases List.mem_append.mp he with he | he
    · have := h.between e he
      omega
    · have := h'.between e he
      omega
  · have := h.between e he
    have := h'.between v hv
    omega

theorem concat {e : Expr} (h : Climbs a es e.ending) : Climbs a (es ++ [e]) (e.ending + 1) := by
  have hlt := h.lt
  refine ⟨by omega, fun v hv => ?_, List.pairwise_append.mpr ⟨h.sorted, List.pairwise_singleton _ _,
    fun v hv u hu => ?_⟩⟩
  · rcases List.mem_append.mp hv with hv | hv
    · have := h.between v hv
      omega
    · cases List.mem_singleton.mp hv
      omega
  · cases List.mem_singleton.mp hu
    exact (h.between v hv).2

theorem node {x : Extent} (hp : Placed a ws b) (hx : x.Of ws)
    (h : ∀ {a b}, Placed a ws b → Climbs a es b) :
    Climbs a es x.stop.offset ∧ x.stop.offset ≤ b := by
  obtain ⟨hstart, -, hstop, htight⟩ := hp.tight hx.1
  rw [hx.2.2]
  exact ⟨(h htight).mono hstart (Nat.le_refl _), hstop⟩

theorem after (hp : Placed a (w :: ws) b) (h : ∀ {m}, Placed m ws b → Climbs m es c) :
    Climbs a es c := by
  obtain ⟨hstart, hlt, hrest⟩ := hp
  exact (h hrest).mono (by omega) (Nat.le_refl c)

theorem behind (hp : Placed a (ws ++ ws') b) (h : ∀ {m}, Placed m ws' b → Climbs m es c) :
    Climbs a es c := by
  obtain ⟨m, hws, hws'⟩ := placed_append.mp hp
  exact (h hws').mono hws.le (Nat.le_refl c)

theorem before (hp : Placed a (ws ++ w :: ws') b)
    (h : ∀ {m}, Placed a ws m → Climbs a es (m + 1)) : Climbs a es b := by
  obtain ⟨m, hws, hstart, hlt, hrest⟩ := placed_append.mp hp
  have := hrest.le
  exact (h hws).mono (Nat.le_refl a) (by omega)

theorem seq (hp : Placed a (ws ++ ws') b) (h : ∀ {m}, Placed a ws m → Climbs a es (m + 1))
    (h' : ∀ {m}, Placed m ws' b → Climbs m vs c) : Climbs a (es ++ vs) c := by
  obtain ⟨m, hws, hws'⟩ := placed_append.mp hp
  exact (h hws).append (h' hws')

theorem ended {e : Expr} {semi : Bool} {rest : List Item}
    (h : Climbs a e.lacking e.ending ∧ e.ending ≤ b) :
    Climbs a (e.lacking ++ unended e semi rest) (b + 1) := by
  unfold unended
  split
  · rw [List.append_nil]
    exact h.1.mono (Nat.le_refl a) (Nat.le_succ_of_le h.2)
  · exact h.1.concat.mono (Nat.le_refl a) (Nat.succ_le_succ h.2)

theorem inside (h : Climbs a es c ∧ c ≤ b) : Climbs a es b := h.1.mono (Nat.le_refl a) h.2

theorem part (h : Climbs a es c ∧ c ≤ b) : Climbs a es (b + 1) := (inside h).succ

theorem leaf {x : Extent} (hp : Placed a ws b) (hx : x.Of ws) :
    Climbs a [] x.stop.offset ∧ x.stop.offset ≤ b := by
  obtain ⟨hstart, hlt, hstop, -⟩ := hp.tight hx.1
  rw [hx.2.2]
  exact ⟨.nil (by omega), hstop⟩

end Climbs

def Climbing (a b : Nat) : Phrase → Prop
  | .expr e => Climbs a e.lacking e.ending ∧ e.ending ≤ b
  | .args _ es _ => Climbs a (lackingOf es) b
  | .block blk => Climbs a blk.lacking b
  | .items is => Climbs a (itemLacking is) (b + 1)
  | .letItem i => Climbs a (itemLacking [i]) b
  | .init o => Climbs a (optionLacking o) (b + 1)

open Climbs

theorem climbing {p : Phrase} {ws : List Lexeme} (h : Spells p ws) {a b : Nat}
    (hp : Placed a ws b) : Climbing a b p := by
  induction h generalizing a b with
  | int ht => exact leaf hp (Spells.int ht).extends
  | float ht => exact leaf hp (Spells.float ht).extends
  | string ht => exact leaf hp (Spells.string ht).extends
  | true ht => exact leaf hp (Spells.true ht).extends
  | false ht => exact leaf hp (Spells.false ht).extends
  | path ht hts => exact leaf hp (Spells.path ht hts).extends
  | brk hw => exact leaf hp (Spells.brk hw).extends
  | cont hw => exact leaf hp (Spells.cont hw).extends
  | retNone hw => exact leaf hp (Spells.retNone hw).extends
  | rangeAll hd => exact leaf hp (Spells.rangeAll hd).extends
  | bracketMacro ht hbang ho hes ih =>
      exact node hp (Spells.bracketMacro ht hbang ho hes).extends fun h =>
        after h fun h => after h fun h => after h ih
  | macroCall ht hbang ho hes ih =>
      exact node hp (Spells.macroCall ht hbang ho hes).extends fun h =>
        after h fun h => after h fun h => after h ih
  | paren ho he hc ih =>
      -- Nothing is lost with the parentheses: the expression in them ends before they do.
      obtain ⟨hstart, hlt, hrest⟩ := hp
      obtain ⟨m, hws, hclose⟩ := placed_append.mp hrest
      obtain ⟨hin, hle⟩ := ih hws
      exact ⟨hin.mono (by omega) (Nat.le_refl _), Nat.le_trans hle hclose.le⟩
  | tuple ho he hc hes ihe ihes =>
      exact node hp (Spells.tuple ho he hc hes).extends fun h =>
        after h fun h => seq h (fun h => part (ihe h)) fun h => after h ihes
  | array ho hes ih => exact node hp (Spells.array ho hes).extends fun h => after h ih
  | block hblk ih => exact node hp hblk.extends ih
  | cond hw htest hedge hyes ihtest ihyes =>
      refine node hp (Spells.cond hw htest hedge hyes).extends fun h => ?_
      rw [Expr.lacking, optionLacking, List.append_nil]
      exact after h fun h => seq h (fun h => part (ihtest h)) ihyes
  | condElse hw htest hedge hyes ho hno ihtest ihyes ihno =>
      exact node hp (Spells.condElse hw htest hedge hyes ho hno).extends fun h =>
        after h fun h => seq h (fun h => part (ihtest h)) fun h =>
          seq h (fun h => succ (ihyes h)) fun h => after h ihno
  | condElseIf hw htest hedge hyes ho hw' hno ihtest ihyes ihno =>
      exact node hp (Spells.condElseIf hw htest hedge hyes ho hw' hno).extends fun h =>
        after h fun h => seq h (fun h => part (ihtest h)) fun h =>
          seq h (fun h => succ (ihyes h)) fun h => after h fun h => inside (ihno h)
  | whileLoop hw htest hedge hbody ihtest ihbody =>
      exact node hp (Spells.whileLoop hw htest hedge hbody).extends fun h =>
        after h fun h => seq h (fun h => part (ihtest h)) ihbody
  | loop hw hbody ih => exact node hp (Spells.loop hw hbody).extends fun h => after h ih
  | forLoop hw hpat hi hiter hedge hbody ihiter ihbody =>
      exact node hp (Spells.forLoop hw hpat hi hiter hedge hbody).extends fun h =>
        after h fun h => behind h fun h => after h fun h => seq h (fun h => part (ihiter h)) ihbody
  | ret hw hv ih =>
      exact node hp (Spells.ret hw hv).extends fun h => after h fun h => inside (ih h)
  | unary hop he hr ih =>
      exact node hp (Spells.unary hop he hr).extends fun h => behind h fun h => inside (ih h)
  | binary hop hl hlr hedge hr hrr ihl ihr =>
      obtain ⟨m, hleft, hop, hlt, hright⟩ := placed_append.mp hp
      obtain ⟨hin, hle⟩ := ihr hright
      exact ⟨(part (ihl hleft)).append (hin.mono (by omega) (Nat.le_refl _)), hle⟩
  | rangeTo hd hu hur ih =>
      exact node hp (Spells.rangeTo hd hu hur).extends fun h => after h fun h => inside (ih h)
  | rangeFrom hd hl hlr hedge ih =>
      refine node hp (Spells.rangeFrom hd hl hlr hedge).extends fun h => ?_
      rw [Expr.lacking, optionLacking, optionLacking, List.append_nil]
      exact before h fun h => part (ih h)
  | range hd hl hlr hedge hu hur ihl ihu =>
      exact node hp (Spells.range hd hl hlr hedge hu hur).extends fun h =>
        seq h (fun h => part (ihl h)) fun h => after h fun h => inside (ihu h)
  | call hf hr hedge ho hes ihf ihes =>
      exact node hp (Spells.call hf hr hedge ho hes).extends fun h =>
        seq h (fun h => part (ihf h)) fun h => after h ihes
  | methodCall hf hr hedge hd hn ho hes ihf ihes =>
      exact node hp (Spells.methodCall hf hr hedge hd hn ho hes).extends fun h =>
        seq h (fun h => part (ihf h)) fun h => after h fun h => after h fun h => after h ihes
  | field hf hr hedge hd hn ihf =>
      exact node hp (Spells.field hf hr hedge hd hn).extends fun h =>
        before h fun h => part (ihf h)
  | index hf hr hedge ho hpos hc ihf ihpos =>
      exact node hp (Spells.index hf hr hedge ho hpos hc).extends fun h =>
        seq h (fun h => part (ihf h)) fun h => after h fun h => before h fun h => part (ihpos h)
  | closure hm hh hbody ih =>
      exact node hp (Spells.closure hm hh hbody).extends fun h =>
        behind h fun h => behind h fun h => inside (ih h)
  | argsNil hc =>
      obtain ⟨hstart, hlt, hrest⟩ := hp
      have := hrest.le
      exact .nil (by omega)
  | argsLast he hc ih =>
      change Climbs _ (_ ++ []) _
      rw [List.append_nil]
      exact before hp fun h => part (ih h)
  | argsCons he hc hes ihe ihes =>
      exact seq hp (fun h => part (ihe h)) fun h => after h ihes
  | mkBlock ho his hc ih => exact after hp fun h => before h ih
  | itemsNil => exact .nil (Nat.lt_succ_of_le hp)
  | itemsEmpty hs his ih => exact after hp ih
  | itemsLet hi his ihi ih =>
      cases hi with
      | letItem hw hpat hd hv hs =>
          rw [Climbing, itemLacking]
          refine seq hp (fun h => succ ?_) ih
          have := ihi h
          rwa [Climbing, itemLacking, itemLacking, List.append_nil] at this
  | itemsSemi he hs his ihe ih =>
      rw [Climbing, itemLacking, ← List.append_assoc]
      exact seq hp (fun h => ended (ihe h)) fun h => after h ih
  | itemsExpr he hend his ihe ih =>
      rw [Climbing, itemLacking, ← List.append_assoc]
      exact seq hp (fun h => ended (ihe h)) ih
  | letItem hw hpat hd hv hs ih =>
      rw [Climbing, itemLacking, itemLacking, List.append_nil]
      exact after hp fun h => behind h fun h => behind h fun h => before h ih
  | initNone => exact .nil (Nat.lt_succ_of_le hp)
  | init hq he ih => exact after hp fun h => part (ih h)

theorem climbs_functions {fs : List Function} {ws : List Lexeme} (h : SpellsFunctions fs ws)
    {a b : Nat} (hp : Placed a ws b) :
    Climbs a (fs.flatMap fun f => f.body.lacking) (b + 1) := by
  induction h generalizing a b with
  | nil => exact .nil (Nat.lt_succ_of_le hp)
  | cons hf hfs ih =>
      cases hf with
      | mk hw hn ho hps hr hbody =>
          refine seq hp (fun h => ?_) ih
          refine after h fun h => after h fun h => after h fun h => ?_
          exact behind h fun h => behind h fun h => succ (climbing hbody h)

theorem Module.sorted_lacking {text : List Char} {m : Module} {tokens : List Token}
    (h : parse text = .ok (m, tokens)) :
    m.lacking.Pairwise fun e v => e.ending < v.ending := by
  obtain ⟨ws, s, hcuts, -, hs⟩ := parse_cuts h
  exact (climbs_functions hs (placed_of_cuts hcuts)).sorted

end ChainLint.Surface
