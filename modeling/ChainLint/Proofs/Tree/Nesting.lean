import ChainLint.Proofs.Grammar.Parse
import ChainLint.Proofs.Tree.Building
import ChainLint.Tree.OfText
import ChainLint.Tree.Preorder

namespace ChainLint.Tree

def Node.Spanned : Node → Prop
  | .expr (.macroCall i _ _) => i.span.context ≠ rootContext
  | .expr (.methodCall i receiver _ nameSpan args) =>
      i.span.context = rootContext ∧ nameSpan.context = rootContext ∧
        receiver.span.hi ≤ nameSpan.lo ∧ nameSpan.lo < nameSpan.hi ∧ nameSpan.hi ≤ i.span.hi ∧
        ∀ e ∈ args, nameSpan.hi ≤ e.span.lo
  | n => n.span.context = rootContext

inductive Fits : Int → Int → List Node → Prop where
  | nil {a b : Int} (h : a ≤ b) : Fits a b []
  | cons {a b : Int} {n : Node} {ns : List Node} (hlo : a ≤ n.span.lo)
      (hlt : n.span.lo < n.span.hi) (hn : n.Spanned) (hparts : Fits n.span.lo n.span.hi n.children)
      (hns : Fits n.span.hi b ns) : Fits a b (n :: ns)

namespace Fits

theorem le {a b : Int} {ns : List Node} (h : Fits a b ns) : a ≤ b := by
  induction h with
  | nil h => exact h
  | cons hlo hlt _ _ _ _ ih => omega

theorem mono {a a' b b' : Int} {ns : List Node} (h : Fits a b ns) (ha : a' ≤ a) (hb : b ≤ b') :
    Fits a' b' ns := by
  induction h generalizing a' with
  | nil h => exact .nil (by omega)
  | cons hlo hlt hn hparts _ _ ih => exact .cons (by omega) hlt hn hparts (ih (Int.le_refl _) hb)

theorem append {a m b : Int} {ns ms : List Node} (h : Fits a m ns) (h' : Fits m b ms) :
    Fits a b (ns ++ ms) := by
  induction h with
  | nil h => exact h'.mono h (Int.le_refl _)
  | cons hlo hlt hn hparts _ _ ih => exact .cons hlo hlt hn hparts (ih h')

theorem one {a b : Int} {n : Node} (h : Fits a b [n]) :
    a ≤ n.span.lo ∧ n.span.lo < n.span.hi ∧ n.span.hi ≤ b := by
  cases h with
  | cons hlo hlt hn hparts hns => exact ⟨hlo, hlt, hns.le⟩

theorem le_lo {a b : Int} {ns : List Node} (h : Fits a b ns) : ∀ n ∈ ns, a ≤ n.span.lo := by
  induction h with
  | nil => exact fun m hm => absurd hm List.not_mem_nil
  | cons hlo hlt hn hparts hns ihp ih =>
      intro m hm
      rcases List.mem_cons.mp hm with rfl | hm
      · exact hlo
      · have := ih m hm
        omega

end Fits

open Surface Build

theorem spanOf_lo (file : Option String) (x : Extent) : (spanOf file x).lo = x.start.offset := rfl

theorem Fits.node {a b : Nat} {ws : List Lexeme} {x : Extent} {n : Node} (h : Placed a ws b)
    (hx : x.Of ws) (hlo : n.span.lo = x.start.offset) (hhi : n.span.hi = x.stop.offset)
    (hn : n.Spanned) (hparts : ∀ {a b : Nat}, Placed a ws b → Fits a b n.children) :
    Fits a b [n] := by
  obtain ⟨h₁, h₂, h₃, h₄⟩ := h.tight hx.1
  rw [← hx.2.1] at h₁ h₂ h₄
  rw [← hx.2.2] at h₂ h₃ h₄
  have hin := hparts h₄
  rw [← hlo, ← hhi] at hin
  exact .cons (by omega) (by omega) hn hin (.nil (by omega))

theorem Fits.empty {a b : Nat} {ws : List Lexeme} (h : Placed a ws b) : Fits a b [] :=
  .nil (Int.ofNat_le.mpr h.le)

theorem Fits.after {a b : Nat} {w : Lexeme} {ws : List Lexeme} {ns : List Node}
    (h : Placed a (w :: ws) b)
    (hns : ∀ {a b : Nat}, Placed a ws b → Fits a b ns) : Fits a b ns := by
  obtain ⟨h₁, h₂, h₃⟩ := h
  exact (hns h₃).mono (by omega) (Int.le_refl _)

theorem Fits.seq {a b : Nat} {ws ws' : List Lexeme} {ns ns' : List Node}
    (h : Placed a (ws ++ ws') b) (hns : ∀ {a b : Nat}, Placed a ws b → Fits a b ns)
    (hns' : ∀ {a b : Nat}, Placed a ws' b → Fits a b ns') : Fits a b (ns ++ ns') := by
  obtain ⟨m, h₁, h₂⟩ := placed_append.mp h
  exact (hns h₁).append (hns' h₂)

theorem Fits.before {a b : Nat} {ws ws' : List Lexeme} {ns : List Node}
    (h : Placed a (ws ++ ws') b) (hns : ∀ {a b : Nat}, Placed a ws b → Fits a b ns) :
    Fits a b ns := by
  rw [← List.append_nil ns]
  exact .seq h hns fun h => .empty h

theorem Fits.behind {a b : Nat} {ws ws' : List Lexeme} {ns : List Node}
    (h : Placed a (ws ++ ws') b) (hns : ∀ {a b : Nat}, Placed a ws' b → Fits a b ns) :
    Fits a b ns := by
  obtain ⟨m, h₁, h₂⟩ := placed_append.mp h
  exact (hns h₂).mono (Int.ofNat_le.mpr h₁.le) (Int.le_refl _)

theorem Fits.joined {a b : Int} {op : BinaryOp} {left right : Expr}
    (h : Fits a b [.expr left, .expr right]) :
    Fits a b [.expr (.binary ⟨0, left.span.join right.span⟩ op left right)] := by
  cases h with
  | cons hlo hlt hn hparts hr =>
      cases hr with
      | cons hlo' hlt' hn' hparts' hrest =>
          have hin : Fits left.span.lo right.span.hi [.expr left, .expr right] :=
            .cons (Int.le_refl _) hlt hn hparts (.cons hlo' hlt' hn' hparts' (.nil (Int.le_refl _)))
          refine .cons hlo ?_ rfl hin (.nil hrest.le)
          exact Int.lt_of_lt_of_le hlt (Int.le_trans hlo' (Int.le_of_lt hlt'))

def patNodes (file : Option String) : PatPhrase → List Node
  | .one p => [.pat (pattern file p)]
  | .elems ps _ => (patterns file ps).map .pat

theorem fits_pat {file : Option String} {p : PatPhrase} {ws : List Lexeme} (h : SpellsPat p ws)
    {a b : Nat} (hp : Placed a ws b) : Fits a b (patNodes file p) := by
  induction h generalizing a b with
  | binding ht => exact .node hp (SpellsPat.binding ht).extends rfl rfl rfl .empty
  | mutBinding hm ht => exact .node hp (SpellsPat.mutBinding hm ht).extends rfl rfl rfl .empty
  | wild ht => exact .node hp (SpellsPat.wild ht).extends rfl rfl rfl .empty
  | tuple ho hps ih => exact .node hp (SpellsPat.tuple ho hps).extends rfl rfl rfl fun h => .after h ih
  | elemsNil => exact .empty hp
  | elemsLast _ _ ih => exact .before hp ih
  | elemsCons _ _ _ ihp ihps => exact .seq hp ihp fun h => .after h ihps

theorem fits_param {file : Option String} {p : Surface.Param} {ws : List Lexeme}
    (h : SpellsParam p ws) {a b : Nat} (hp : Placed a ws b) :
    Fits a b [.param (param file p)] := by
  have hx := h.extends
  cases h with
  | mk hpat ho => exact .node hp hx rfl rfl rfl fun h => .before h (fits_pat hpat)

theorem fits_bars {file : Option String} {ps : List Surface.Param} {ws : List Lexeme}
    (h : SpellsBars ps ws) {a b : Nat} (hp : Placed a ws b) :
    Fits a b ((ps.map (param file)).map .param) := by
  induction h generalizing a b with
  | last hpar hc => exact .before hp (fits_param hpar)
  | cons hpar hc hps ih => exact .seq hp (fits_param hpar) fun h => .after h ih

theorem fits_head {file : Option String} {ps : List Surface.Param} {ws : List Lexeme}
    (h : SpellsHead ps ws) {a b : Nat} (hp : Placed a ws b) :
    Fits a b ((ps.map (param file)).map .param) := by
  cases h with
  | joined | empty => exact .empty hp
  | params ho hps => exact .after hp (fits_bars hps)

def FitsPhrase (file : Option String) (a b : Int) : Phrase → Prop
  | .expr e => ∀ {x t x'}, Gives (expr file e) x t x' → Fits a b [.expr t]
  | .args _ es _ => ∀ {x ts x'}, Gives (exprs file es) x ts x' → Fits a b (ts.map .expr)
  | .block blk => ∀ {x t x'}, Gives (block file blk) x t x' → Fits a b [.block t]
  | .items is => ∀ {x ss tail x'}, Gives (stmts file is) x (ss, tail) x' →
      Fits a b (ss.map .stmt ++ tail.toList.map .expr)
  | .letItem i => ∀ {p declared value e x o x'}, i = .letItem p declared value e →
      Gives (optional file value) x o x' →
      Fits a b [.stmt (.letIn (infoOf file e) (pattern file p) (declared.map (typeExpr file)) o)]
  | .init o => ∀ {x o' x'}, Gives (optional file o) x o' x' → Fits a b (o'.toList.map .expr)

theorem context_ne {x y : Expansions} {e : Expansion} {context : Int}
    (h : Gives (modifyGet fun expansions => expansions.push e) x context y) :
    context ≠ rootContext := by
  cases gives_modifyGet.mp h
  simp only [Expansions.nextContext, rootContext]
  omega

theorem Fits.leaf {a b : Nat} {e : Surface.Expr} {ws : List Lexeme} {t : Expr}
    (hp : Placed a ws b) (he : Spells (.expr e) ws) (hlo : t.span.lo = e.extent.start.offset)
    (hhi : t.span.hi = e.extent.stop.offset) (hn : (Node.expr t).Spanned) (ht : t.children = []) :
    Fits a b [.expr t] := by
  refine .node hp he.extends hlo hhi hn fun h => ?_
  rw [Node.children, ht]
  exact .empty h

theorem fits {file : Option String} {p : Phrase} {ws : List Lexeme} (h : Spells p ws)
    {a b : Nat} (hp : Placed a ws b) : FitsPhrase file a b p := by
  induction h generalizing a b with
  | int ht =>
      intro x t x' hb
      rw [Build.expr] at hb
      split at hb
      · exact absurd hb not_gives_throw
      · obtain ⟨rfl, rfl⟩ := gives_pure.mp hb
        exact .leaf hp (.int ht) rfl rfl rfl rfl
  | float ht =>
      intro x t x' hb
      obtain ⟨rfl, rfl⟩ := gives_pure.mp hb
      exact .leaf hp (.float ht) rfl rfl rfl rfl
  | string ht =>
      intro x t x' hb
      rw [Build.expr] at hb
      split at hb
      · exact absurd hb not_gives_throw
      · obtain ⟨rfl, rfl⟩ := gives_pure.mp hb
        exact .leaf hp (.string ht) rfl rfl rfl rfl
  | true ht =>
      intro x t x' hb
      obtain ⟨rfl, rfl⟩ := gives_pure.mp hb
      exact .leaf hp (.true ht) rfl rfl rfl rfl
  | false ht =>
      intro x t x' hb
      obtain ⟨rfl, rfl⟩ := gives_pure.mp hb
      exact .leaf hp (.false ht) rfl rfl rfl rfl
  | path ht hts =>
      intro x t x' hb
      obtain ⟨rfl, rfl⟩ := gives_pure.mp hb
      exact .leaf hp (.path ht hts) rfl rfl rfl rfl
  | bracketMacro ht hbang ho hes ih =>
      intro x t x' hb
      rw [Build.expr] at hb
      obtain ⟨context, y, h₀, hb⟩ := gives_bind.mp hb
      obtain ⟨args, z, h₁, hb⟩ := gives_bind.mp hb
      obtain ⟨rfl, rfl⟩ := gives_pure.mp hb
      refine .node hp (Spells.bracketMacro ht hbang ho hes).extends rfl rfl (context_ne h₀) fun h => ?_
      exact .after h fun h => .after h fun h => .after h fun h => ih h h₁
  | macroCall ht hbang ho hes ih =>
      intro x t x' hb
      rw [Build.expr] at hb
      obtain ⟨context, y, h₀, hb⟩ := gives_bind.mp hb
      obtain ⟨args, z, h₁, hb⟩ := gives_bind.mp hb
      obtain ⟨rfl, rfl⟩ := gives_pure.mp hb
      refine .node hp (Spells.macroCall ht hbang ho hes).extends rfl rfl (context_ne h₀) fun h => ?_
      exact .after h fun h => .after h fun h => .after h fun h => ih h h₁
  | paren ho he hc ih =>
      intro x t x' hb
      exact .after hp fun h => .before h fun h => ih h hb
  | tuple ho he hc hes ihe ihes =>
      intro x t x' hb
      rw [Build.expr] at hb
      obtain ⟨elems, y, h₁, hb⟩ := gives_bind.mp hb
      obtain ⟨rfl, rfl⟩ := gives_pure.mp hb
      obtain ⟨first, z, others, h₁', h₂, rfl⟩ := gives_cons.mp h₁
      refine .node hp (Spells.tuple ho he hc hes).extends rfl rfl rfl fun h => ?_
      exact .after h fun h => .seq h (fun h => ihe h h₁') fun h => .after h fun h => ihes h h₂
  | array ho hes ih =>
      intro x t x' hb
      rw [Build.expr] at hb
      obtain ⟨elems, y, h₁, hb⟩ := gives_bind.mp hb
      obtain ⟨rfl, rfl⟩ := gives_pure.mp hb
      refine .node hp (Spells.array ho hes).extends rfl rfl rfl fun h => ?_
      exact .after h fun h => ih h h₁
  | block hblk ih =>
      intro x t x' hb
      rw [Build.expr] at hb
      obtain ⟨blk, y, h₁, hb⟩ := gives_bind.mp hb
      obtain ⟨rfl, rfl⟩ := gives_pure.mp hb
      exact .node hp hblk.extends rfl rfl rfl fun h => ih h h₁
  | cond hw htest hedge hyes ihtest ihyes =>
      intro x t x' hb
      rw [Build.expr] at hb
      obtain ⟨test, y, h₁, hb⟩ := gives_bind.mp hb
      obtain ⟨yes, z, h₂, hb⟩ := gives_bind.mp hb
      obtain ⟨no, u, h₃, hb⟩ := gives_bind.mp hb
      obtain ⟨rfl, rfl⟩ := gives_pure.mp hb
      obtain ⟨rfl, rfl⟩ := gives_none.mp h₃
      refine .node hp (Spells.cond hw htest hedge hyes).extends rfl rfl rfl fun h => ?_
      exact .after h fun h => .seq h (fun h => ihtest h h₁) fun h => ihyes h h₂
  | condElse hw htest hedge hyes ho hno ihtest ihyes ihno =>
      intro x t x' hb
      rw [Build.expr] at hb
      obtain ⟨test, y, h₁, hb⟩ := gives_bind.mp hb
      obtain ⟨yes, z, h₂, hb⟩ := gives_bind.mp hb
      obtain ⟨no, u, h₃, hb⟩ := gives_bind.mp hb
      obtain ⟨rfl, rfl⟩ := gives_pure.mp hb
      obtain ⟨no, h₃', rfl⟩ := gives_some.mp h₃
      rw [Build.expr] at h₃'
      obtain ⟨blk, v, h₅, h₄⟩ := gives_bind.mp h₃'
      obtain ⟨rfl, rfl⟩ := gives_pure.mp h₄
      refine .node hp (Spells.condElse hw htest hedge hyes ho hno).extends rfl rfl rfl fun h => ?_
      refine .after h fun h => .seq h (fun h => ihtest h h₁) fun h => ?_
      refine .seq h (fun h => ihyes h h₂) fun h => .after h fun h => ?_
      exact .node h hno.extends rfl rfl rfl fun h => ihno h h₅
  | condElseIf hw htest hedge hyes ho hw' hno ihtest ihyes ihno =>
      intro x t x' hb
      rw [Build.expr] at hb
      obtain ⟨test, y, h₁, hb⟩ := gives_bind.mp hb
      obtain ⟨yes, z, h₂, hb⟩ := gives_bind.mp hb
      obtain ⟨no, u, h₃, hb⟩ := gives_bind.mp hb
      obtain ⟨rfl, rfl⟩ := gives_pure.mp hb
      obtain ⟨no, h₃', rfl⟩ := gives_some.mp h₃
      refine .node hp (Spells.condElseIf hw htest hedge hyes ho hw' hno).extends rfl rfl rfl fun h => ?_
      refine .after h fun h => .seq h (fun h => ihtest h h₁) fun h => ?_
      exact .seq h (fun h => ihyes h h₂) fun h => .after h fun h => ihno h h₃'
  | whileLoop hw htest hedge hbody ihtest ihbody =>
      intro x t x' hb
      rw [Build.expr] at hb
      obtain ⟨test, y, h₁, hb⟩ := gives_bind.mp hb
      obtain ⟨body, z, h₂, hb⟩ := gives_bind.mp hb
      obtain ⟨rfl, rfl⟩ := gives_pure.mp hb
      refine .node hp (Spells.whileLoop hw htest hedge hbody).extends rfl rfl rfl fun h => ?_
      exact .after h fun h => .seq h (fun h => ihtest h h₁) fun h => ihbody h h₂
  | loop hw hbody ih =>
      intro x t x' hb
      rw [Build.expr] at hb
      obtain ⟨body, y, h₁, hb⟩ := gives_bind.mp hb
      obtain ⟨rfl, rfl⟩ := gives_pure.mp hb
      refine .node hp (Spells.loop hw hbody).extends rfl rfl rfl fun h => ?_
      exact .after h fun h => ih h h₁
  | forLoop hw hpat hi hiter hedge hbody ihiter ihbody =>
      intro x t x' hb
      rw [Build.expr] at hb
      obtain ⟨iterable, y, h₁, hb⟩ := gives_bind.mp hb
      obtain ⟨body, z, h₂, hb⟩ := gives_bind.mp hb
      obtain ⟨rfl, rfl⟩ := gives_pure.mp hb
      refine .node hp (Spells.forLoop hw hpat hi hiter hedge hbody).extends rfl rfl rfl fun h => ?_
      refine .after h fun h => .seq h (fits_pat hpat) fun h => .after h fun h => ?_
      exact .seq h (fun h => ihiter h h₁) fun h => ihbody h h₂
  | retNone hw =>
      intro x t x' hb
      obtain ⟨rfl, rfl⟩ := gives_pure.mp hb
      exact .leaf hp (.retNone hw) rfl rfl rfl rfl
  | ret hw hv ih =>
      intro x t x' hb
      rw [Build.expr] at hb
      obtain ⟨value, y, h₁, hb⟩ := gives_bind.mp hb
      obtain ⟨rfl, rfl⟩ := gives_pure.mp hb
      obtain ⟨value, h₁', rfl⟩ := gives_some.mp h₁
      refine .node hp (Spells.ret hw hv).extends rfl rfl rfl fun h => ?_
      exact .after h fun h => ih h h₁'
  | brk hw =>
      intro x t x' hb
      obtain ⟨rfl, rfl⟩ := gives_pure.mp hb
      exact .leaf hp (.brk hw) rfl rfl rfl rfl
  | cont hw =>
      intro x t x' hb
      obtain ⟨rfl, rfl⟩ := gives_pure.mp hb
      exact .leaf hp (.cont hw) rfl rfl rfl rfl
  | unary hop he hr ih =>
      intro x t x' hb
      rw [Build.expr] at hb
      obtain ⟨operand, y, h₁, hb⟩ := gives_bind.mp hb
      obtain ⟨rfl, rfl⟩ := gives_pure.mp hb
      refine .node hp (Spells.unary hop he hr).extends rfl rfl rfl fun h => ?_
      exact .behind h fun h => ih h h₁
  | binary hop hl hlr hedge hr hrr ihl ihr =>
      intro x t x' hb
      rw [Build.expr] at hb
      obtain ⟨left, y, h₁, hb⟩ := gives_bind.mp hb
      obtain ⟨right, z, h₂, hb⟩ := gives_bind.mp hb
      obtain ⟨rfl, rfl⟩ := gives_pure.mp hb
      exact .joined (.seq hp (fun h => ihl h h₁) fun h => .after h fun h => ihr h h₂)
  | rangeAll hd =>
      intro x t x' hb
      obtain ⟨rfl, rfl⟩ := gives_pure.mp hb
      exact .leaf hp (.rangeAll hd) rfl rfl rfl rfl
  | rangeTo hd hu hur ih =>
      intro x t x' hb
      rw [Build.expr] at hb
      obtain ⟨lower, y, h₁, hb⟩ := gives_bind.mp hb
      obtain ⟨upper, z, h₂, hb⟩ := gives_bind.mp hb
      obtain ⟨rfl, rfl⟩ := gives_pure.mp hb
      obtain ⟨rfl, rfl⟩ := gives_none.mp h₁
      obtain ⟨upper, h₂', rfl⟩ := gives_some.mp h₂
      refine .node hp (Spells.rangeTo hd hu hur).extends rfl rfl rfl fun h => ?_
      exact .after h fun h => ih h h₂'
  | rangeFrom hd hl hlr hedge ih =>
      intro x t x' hb
      rw [Build.expr] at hb
      obtain ⟨lower, y, h₁, hb⟩ := gives_bind.mp hb
      obtain ⟨upper, z, h₂, hb⟩ := gives_bind.mp hb
      obtain ⟨rfl, rfl⟩ := gives_pure.mp hb
      obtain ⟨lower, h₁', rfl⟩ := gives_some.mp h₁
      obtain ⟨rfl, rfl⟩ := gives_none.mp h₂
      refine .node hp (Spells.rangeFrom hd hl hlr hedge).extends rfl rfl rfl fun h => ?_
      exact .before h fun h => ih h h₁'
  | range hd hl hlr hedge hu hur ihl ihu =>
      intro x t x' hb
      rw [Build.expr] at hb
      obtain ⟨lower, y, h₁, hb⟩ := gives_bind.mp hb
      obtain ⟨upper, z, h₂, hb⟩ := gives_bind.mp hb
      obtain ⟨rfl, rfl⟩ := gives_pure.mp hb
      obtain ⟨lower, h₁', rfl⟩ := gives_some.mp h₁
      obtain ⟨upper, h₂', rfl⟩ := gives_some.mp h₂
      refine .node hp (Spells.range hd hl hlr hedge hu hur).extends rfl rfl rfl fun h => ?_
      exact .seq h (fun h => ihl h h₁') fun h => .after h fun h => ihu h h₂'
  | call hf hr hedge ho hes ihf ihes =>
      intro x t x' hb
      rw [Build.expr] at hb
      obtain ⟨callee, y, h₁, hb⟩ := gives_bind.mp hb
      obtain ⟨args, z, h₂, hb⟩ := gives_bind.mp hb
      obtain ⟨rfl, rfl⟩ := gives_pure.mp hb
      refine .node hp (Spells.call hf hr hedge ho hes).extends rfl rfl rfl fun h => ?_
      exact .seq h (fun h => ihf h h₁) fun h => .after h fun h => ihes h h₂
  | @methodCall dot name opening _ _ _ _ _ hf hr hedge hd hn ho hes ihf ihes =>
      intro x t x' hb
      rw [Build.expr] at hb
      obtain ⟨receiver, y, h₁, hb⟩ := gives_bind.mp hb
      obtain ⟨args, z, h₂, hb⟩ := gives_bind.mp hb
      obtain ⟨rfl, rfl⟩ := gives_pure.mp hb
      have hx := (Spells.methodCall hf hr hedge hd hn ho hes).extends
      refine .node hp hx rfl rfl ?_ fun h => ?_
      · obtain ⟨m, hbase, hdot, hlt, hname, hlt', hopening, hlt'', hargs⟩ := placed_append.mp hp
        have hin := (ihf hbase h₁).one
        have hafter := (ihes hargs h₂).le_lo
        have hend := hargs.tight hes.extends.1
        simp only at hdot hlt hname hlt' hopening hlt'' hend
        refine ⟨rfl, rfl, ?_, ?_, ?_, fun e he => ?_⟩
        · refine Int.le_trans hin.2.2 (Int.ofNat_le.mpr ?_)
          change m ≤ name.start.offset
          omega
        · exact Int.ofNat_lt.mpr hlt'
        · refine Int.ofNat_le.mpr ?_
          rw [hes.extends.2]
          change name.stop.offset ≤ (stopOf _).offset
          omega
        · refine Int.le_trans (Int.ofNat_le.mpr ?_) (hafter _ (List.mem_map_of_mem he))
          change name.stop.offset ≤ opening.stop.offset
          omega
      refine .seq h (fun h => ihf h h₁) fun h => ?_
      exact .after h fun h => .after h fun h => .after h fun h => ihes h h₂
  | field hf hr hedge hd hn ihf =>
      intro x t x' hb
      rw [Build.expr] at hb
      obtain ⟨subject, y, h₁, hb⟩ := gives_bind.mp hb
      obtain ⟨rfl, rfl⟩ := gives_pure.mp hb
      refine .node hp (Spells.field hf hr hedge hd hn).extends rfl rfl rfl fun h => ?_
      exact .before h fun h => ihf h h₁
  | index hf hr hedge ho hpos hc ihf ihpos =>
      intro x t x' hb
      rw [Build.expr] at hb
      obtain ⟨subject, y, h₁, hb⟩ := gives_bind.mp hb
      obtain ⟨position, z, h₂, hb⟩ := gives_bind.mp hb
      obtain ⟨rfl, rfl⟩ := gives_pure.mp hb
      refine .node hp (Spells.index hf hr hedge ho hpos hc).extends rfl rfl rfl fun h => ?_
      exact .seq h (fun h => ihf h h₁) fun h =>
        .after h fun h => .before h fun h => ihpos h h₂
  | closure hm hh hbody ih =>
      intro x t x' hb
      rw [Build.expr] at hb
      obtain ⟨body, y, h₁, hb⟩ := gives_bind.mp hb
      obtain ⟨rfl, rfl⟩ := gives_pure.mp hb
      refine .node hp (Spells.closure hm hh hbody).extends rfl rfl rfl fun h => ?_
      exact .behind h fun h => .seq h (fits_head hh) fun h => ih h h₁
  | argsNil hc =>
      intro x ts x' hb
      obtain ⟨rfl, rfl⟩ := gives_nil.mp hb
      exact .empty hp
  | argsLast he hc ih =>
      intro x ts x' hb
      obtain ⟨t, y, us, h₁, h₂, rfl⟩ := gives_cons.mp hb
      obtain ⟨rfl, rfl⟩ := gives_nil.mp h₂
      exact .before hp fun h => ih h h₁
  | argsCons he hc hes ihe ihes =>
      intro x ts x' hb
      obtain ⟨t, y, us, h₁, h₂, rfl⟩ := gives_cons.mp hb
      exact .seq hp (fun h => ihe h h₁) fun h => .after h fun h => ihes h h₂
  | mkBlock ho his hc ih =>
      intro x t x' hb
      rw [Build.block] at hb
      obtain ⟨⟨ss, tail⟩, y, h₁, hb⟩ := gives_bind.mp hb
      obtain ⟨rfl, rfl⟩ := gives_pure.mp hb
      refine .node hp (Spells.mkBlock ho his hc).extends rfl rfl rfl fun h => ?_
      exact .after h fun h => .before h fun h => ih h h₁
  | itemsNil =>
      intro x ss tail x' hb
      obtain ⟨h, rfl⟩ := gives_pure.mp hb
      cases h
      exact .empty hp
  | itemsEmpty hs his ih =>
      intro x ss tail x' hb
      exact .after hp fun h => ih h hb
  | itemsLet hi his ihi ih =>
      intro x ss tail x' hb
      cases hi with
      | letItem hw hpat hd hv hs =>
          rw [Build.stmts] at hb
          obtain ⟨value, y, h₁, hb⟩ := gives_bind.mp hb
          obtain ⟨⟨ss, tail⟩, z, h₂, hb⟩ := gives_bind.mp hb
          obtain ⟨h, rfl⟩ := gives_pure.mp hb
          cases h
          change Fits _ _ ([Node.stmt _] ++ (_ ++ _))
          exact .seq hp (fun h => ihi h rfl h₁) fun h => ih h h₂
  | itemsSemi he hs his ihe ih =>
      intro x ss tail x' hb
      rw [Build.stmts] at hb
      obtain ⟨value, y, h₁, hb⟩ := gives_bind.mp hb
      rw [Bool.true_or, if_pos rfl] at hb
      obtain ⟨⟨ss, tail⟩, z, h₂, hb⟩ := gives_bind.mp hb
      obtain ⟨h, rfl⟩ := gives_pure.mp hb
      cases h
      rw [List.append_cons] at hp
      change Fits _ _ ([Node.stmt _] ++ (_ ++ _))
      refine .seq hp (fun h => ?_) fun h => ih h h₂
      exact .node h ((StopsWith.one _).after he.extends) rfl rfl rfl fun h => .before h fun h => ihe h h₁
  | itemsExpr he hend his ihe ih =>
      intro x ss tail x' hb
      rw [Build.stmts] at hb
      obtain ⟨value, y, h₁, hb⟩ := gives_bind.mp hb
      rw [Bool.false_or] at hb
      split at hb
      · obtain ⟨⟨ss, tail⟩, z, h₂, hb⟩ := gives_bind.mp hb
        obtain ⟨h, rfl⟩ := gives_pure.mp hb
        cases h
        change Fits _ _ ([Node.stmt _] ++ (_ ++ _))
        refine .seq hp (fun h => ?_) fun h => ih h h₂
        exact .node h he.extends rfl rfl rfl fun h => ihe h h₁
      · split at hb
        · exact absurd hb not_gives_throw
        · obtain ⟨h, rfl⟩ := gives_pure.mp hb
          cases h
          exact .before hp fun h => ihe h h₁
  | letItem hw hpat hd hv hs ih =>
      intro p declared value e x o x' heq hb
      cases heq
      refine .node hp (Spells.letItem hw hpat hd hv hs).extends rfl rfl rfl fun h => ?_
      refine .after h fun h => .seq h (fits_pat hpat) fun h => .behind h fun h => ?_
      exact .before h fun h => ih h hb
  | initNone =>
      intro x o x' hb
      obtain ⟨rfl, rfl⟩ := gives_none.mp hb
      exact .empty hp
  | init hq he ih =>
      intro x o x' hb
      obtain ⟨t, h₁, rfl⟩ := gives_some.mp hb
      exact .after hp fun h => ih h h₁

theorem fits_params {file : Option String} {ps : List Surface.Param} {ws : List Lexeme}
    (h : SpellsParams ps ws) {a b : Nat} (hp : Placed a ws b) :
    Fits a b ((ps.map (param file)).map .param) := by
  induction h generalizing a b with
  | nil => exact .empty hp
  | last hpar => exact .before hp (fits_param hpar)
  | cons hpar hd hc hps ih => exact .seq hp (fits_param hpar) fun h => .after h ih

theorem SpellsFunction.of {f : Surface.Function} {ws : List Lexeme} (h : SpellsFunction f ws) :
    f.extent.Of ws := by
  cases h with
  | mk hw hn ho hps hr hb => exact hb.extends.stops.append.append.cons.cons.across

theorem fits_function {file : Option String} {f : Surface.Function} {ws : List Lexeme}
    (h : SpellsFunction f ws) {x x' : Expansions} {t : Function}
    (hb : Gives (function file f) x t x') {a b : Nat} (hp : Placed a ws b) :
    Fits a b [.function t] := by
  have hof := SpellsFunction.of h
  rw [Build.function] at hb
  obtain ⟨body, y, h₁, hb⟩ := gives_bind.mp hb
  obtain ⟨rfl, rfl⟩ := gives_pure.mp hb
  cases h with
  | mk hw hn ho hps hr hblk =>
      refine .node hp hof rfl rfl rfl fun h => ?_
      refine .after h fun h => .after h fun h => .after h fun h => ?_
      exact .seq h (fits_params hps) fun h => .behind h fun h => fits hblk h h₁

theorem fits_functions {file : Option String} {fs : List Surface.Function} {ws : List Lexeme}
    (h : SpellsFunctions fs ws) {x x' : Expansions} {ts : List Function}
    (hb : Gives (functions file fs) x ts x') {a b : Nat} (hp : Placed a ws b) :
    Fits a b (ts.map .function) := by
  induction h generalizing x ts a b with
  | nil =>
      obtain ⟨rfl, rfl⟩ := gives_pure.mp hb
      exact .empty hp
  | cons hf hfs ih =>
      rw [Build.functions] at hb
      obtain ⟨t, y, h₁, hb⟩ := gives_bind.mp hb
      obtain ⟨ts, z, h₂, hb⟩ := gives_bind.mp hb
      obtain ⟨rfl, rfl⟩ := gives_pure.mp hb
      change Fits _ _ ([Node.function _] ++ _)
      exact .seq hp (fun h => fits_function hf h₁ h) fun h => ih h₂ h

namespace Module

theorem ofText_eq_ok {file : Option String} {text : List Char} {x : Expansions} {m : Module} :
    (ofText file text x).1 = .ok m ↔ ∃ sm tokens x', parse text = .ok (sm, tokens) ∧
      Gives (Build.module file sm) x m x' := by
  unfold ofText
  cases hparse : parse text with
  | error e =>
      constructor
      · intro h
        cases h
      · rintro ⟨sm, tokens, x', h, -⟩
        cases h
  | ok r =>
      obtain ⟨sm, tokens⟩ := r
      simp only
      rcases hrun : (Build.module file sm).run.run x with ⟨e | t, x'⟩
      · constructor
        · intro h
          cases h
        · rintro ⟨sm', tokens', x'', h, h'⟩
          cases h
          rw [Gives, hrun] at h'
          cases h'
      · constructor
        · intro h
          cases h
          exact ⟨sm, tokens, x', rfl, hrun⟩
        · rintro ⟨sm', tokens', x'', h, h'⟩
          cases h
          rw [Gives, hrun] at h'
          cases h'
          rfl

theorem fits_ofText {file : Option String} {text : List Char} {x : Expansions} {m : Module}
    (h : (ofText file text x).1 = .ok m) :
    ∃ b : Nat, Fits 0 b (m.functions.map .function) := by
  obtain ⟨sm, tokens, x', hparse, hb⟩ := ofText_eq_ok.mp h
  obtain ⟨ws, s, hcuts, -, hs⟩ := parse_cuts hparse
  obtain ⟨fs, hfs, rfl⟩ := gives_module.mp hb
  exact ⟨s.place.offset, fits_functions hs hfs (placed_of_cuts hcuts)⟩

end Module

end ChainLint.Tree
