import ChainLint.Proofs.Grammar.Moving

namespace ChainLint.Surface

def Hold (ws : List Lexeme) (es : List Expr) : Prop :=
  ∀ e ∈ es, ∃ receiver name args x we, e = .methodCall receiver name args x ∧ we <:+: ws ∧
    Spells (.expr e) we

namespace Hold

variable {ws ws' : List Lexeme} {es es' : List Expr}

theorem nil (ws : List Lexeme) : Hold ws [] := nofun

theorem mono (h : Hold ws es) (hin : ws <:+: ws') : Hold ws' es := fun e he =>
  let ⟨receiver, name, args, x, we, heq, hwe, hs⟩ := h e he
  ⟨receiver, name, args, x, we, heq, hwe.trans hin, hs⟩

theorem append (h : Hold ws es) (h' : Hold ws' es') : Hold (ws ++ ws') (es ++ es') := by
  intro e he
  rcases List.mem_append.mp he with he | he
  · exact h.mono (List.prefix_append ws ws').isInfix e he
  · exact h'.mono (List.suffix_append ws ws').isInfix e he

theorem cons (w : Lexeme) (h : Hold ws es) : Hold (w :: ws) es :=
  h.mono (List.suffix_cons w ws).isInfix

theorem after (h : Hold ws es) (ws' : List Lexeme) : Hold (ws' ++ ws) es :=
  h.mono (List.suffix_append ws' ws).isInfix

theorem before (h : Hold ws es) (ws' : List Lexeme) : Hold (ws ++ ws') es :=
  h.mono (List.prefix_append ws ws').isInfix

theorem self {receiver : Expr} {name : Token} {args : List Expr} {x : Extent}
    (he : Spells (.expr (.methodCall receiver name args x)) ws) (h : Hold ws es) :
    Hold ws (.methodCall receiver name args x :: es) := by
  intro e' he'
  rcases List.mem_cons.mp he' with rfl | he'
  · exact ⟨receiver, name, args, x, ws, rfl, List.infix_rfl, he⟩
  · exact h e' he'

end Hold

theorem Spells.calls {p : Phrase} {ws : List Lexeme} (h : Spells p ws) : Hold ws p.calls := by
  induction h with
  | int | float | string | true | false | path | retNone | brk | cont | rangeAll | argsNil | itemsNil
  | initNone => exact .nil _
  | bracketMacro _ _ _ _ ih | macroCall _ _ _ _ ih => exact ((ih.cons _).cons _).cons _
  | paren _ _ _ ih => exact (ih.before _).cons _
  | tuple _ _ _ _ ih ihs => exact (ih.append (ihs.cons _)).cons _
  | array _ _ ih | loop _ _ ih | ret _ _ ih | rangeTo _ _ _ ih | itemsEmpty _ _ ih | init _ _ ih =>
      exact ih.cons _
  | block _ ih => exact ih
  | cond _ _ _ _ ih ihyes =>
      refine Hold.cons _ ?_
      simpa [Phrase.calls, Expr.calls, callsOption] using ih.append ihyes
  | condElse _ _ _ _ _ _ ih ihyes ihno | condElseIf _ _ _ _ _ _ _ ih ihyes ihno =>
      exact (ih.append (ihyes.append (ihno.cons _))).cons _
  | whileLoop _ _ _ _ ih ihbody => exact (ih.append ihbody).cons _
  | forLoop _ _ _ _ _ _ ih ihbody => exact (((ih.append ihbody).cons _).after _).cons _
  | unary _ _ _ ih => exact ih.after _
  | binary _ _ _ _ _ _ ih ihr => exact ih.append (ihr.cons _)
  | rangeFrom _ _ _ _ ih => exact ih.append (.nil _)
  | range _ _ _ _ _ _ ih ihu => exact ih.append (ihu.cons _)
  | call _ _ _ _ _ ih ihs => exact ih.append (ihs.cons _)
  | methodCall hf hr hedge hd hn ho hes ih ihs =>
      exact .self (.methodCall hf hr hedge hd hn ho hes) (ih.append (((ihs.cons _).cons _).cons _))
  | field _ _ _ _ _ ih => exact ih.before _
  | index _ _ _ _ _ _ ih ihp => exact ih.append ((ihp.before _).cons _)
  | closure _ _ _ ih => exact (ih.after _).after _
  | argsLast _ _ ih => exact ih.append (.nil _)
  | argsCons _ _ _ ih ihs => exact ih.append (ihs.cons _)
  | mkBlock _ _ _ ih => exact (ih.before _).cons _
  | itemsLet _ _ ih ihs | itemsExpr _ _ _ ih ihs => exact ih.append ihs
  | itemsSemi _ _ _ ih ihs => exact ih.append (ihs.cons _)
  | letItem _ _ _ _ _ ih => exact (((ih.before _).after _).after _).cons _

theorem SpellsFunctions.calls {fs : List Function} {ws : List Lexeme} (h : SpellsFunctions fs ws) :
    Hold ws (fs.flatMap fun f => f.body.calls) := by
  induction h with
  | nil => exact .nil _
  | cons hf _ ih =>
      rw [List.flatMap_cons]
      refine .append ?_ ih
      cases hf with
      | mk _ _ _ _ _ hb => exact ((((hb.calls.after _).after _).cons _).cons _).cons _

theorem SpellsFunctions.join (picks : Int → Bool) (text : List Char) {fs : List Function}
    {ws : List Lexeme} (h : SpellsFunctions fs ws) :
    ∃ vs, SpellsFunctions (fs.map (Function.join picks)) vs ∧
      Remade picks text ws (fs.flatMap fun f => f.body.calls) vs := by
  induction h with
  | nil => exact ⟨[], .nil, .kept _⟩
  | cons hf _ ih =>
      obtain ⟨vs, hfs, hrest⟩ := ih
      cases hf with
      | @mk word name opening ps result body ws ws' ws'' hw hn ho hps hr hb =>
          obtain ⟨⟨us, hus, hremade⟩, -⟩ := @Spells.join picks text _ _ hb
          have h := SpellsFunction.mk hw hn ho hps hr hus
          rw [body.extent_join] at h
          refine ⟨_, .cons h hfs, ?_⟩
          rw [List.flatMap_cons]
          exact ((((hremade.after _).after _).cons _).cons _).cons _ |>.append hrest

theorem Spells.bare_eq {e : Expr} {ws : List Lexeme} (h : Spells (.expr e) ws) {a b : Nat}
    (hp : Placed a ws b) (hstart : e.bare.extent.start.offset ≤ e.extent.start.offset) :
    e.bare = e := by
  cases e with
  | paren inner x =>
      cases h with
      | @paren opening closing _ ws ho he hc =>
          exfalso
          obtain ⟨ws', hin, hbare⟩ := Spells.bare inner he
          obtain ⟨-, hlt, hrest⟩ := hp
          obtain ⟨m, hinner, -⟩ := placed_append.mp hrest
          have hx := hbare.extends
          obtain ⟨hle, -⟩ := (hinner.isInfix hin).tight hx.1
          rw [← hx.2.1] at hle
          exact absurd (hlt.trans_le (hle.trans hstart)) (lt_irrefl _)
  | _ => rfl

section

variable (picks : Int → Bool)

mutual

theorem Expr.join_eq_self : (e : Expr) → (∀ c ∈ e.calls, c.joins? picks = none) → e.join picks = e
  | .methodCall receiver name args x, h => by
      obtain ⟨-, hjoin⟩ | ⟨p, y, hsome, -⟩ := Expr.join_call picks receiver name args x
      · have hrest (c : Expr) (hc : c ∈ receiver.calls ++ callsAll args) : c.joins? picks = none :=
          h c (List.mem_cons_of_mem _ hc)
        rw [hjoin, receiver.join_eq_self fun c hc => hrest c (List.mem_append_left _ hc),
          joinAll_eq_self args fun c hc => hrest c (List.mem_append_right _ hc)]
      · rw [h _ List.mem_cons_self] at hsome
        cases hsome
  | .int _, _ | .float _, _ | .string _, _ | .bool _ _, _ | .path _ _, _ | .brk _, _ | .cont _, _ => rfl
  | .macroCall _ args _, h => congrArg (Expr.macroCall _ · _) (joinAll_eq_self args h)
  | .paren inner _, h => congrArg (Expr.paren · _) (inner.join_eq_self h)
  | .tuple elems _, h => congrArg (Expr.tuple · _) (joinAll_eq_self elems h)
  | .array elems _, h => congrArg (Expr.array · _) (joinAll_eq_self elems h)
  | .block body, h => congrArg Expr.block (body.join_eq_self h)
  | .cond test yes no x, h => by
      simp only [Expr.calls, List.forall_mem_append] at h
      rw [Expr.join, test.join_eq_self h.1, yes.join_eq_self h.2.1, joinOption_eq_self no h.2.2]
  | .whileLoop test body x, h => by
      simp only [Expr.calls, List.forall_mem_append] at h
      rw [Expr.join, test.join_eq_self h.1, body.join_eq_self h.2]
  | .loop body _, h => congrArg (Expr.loop · _) (body.join_eq_self h)
  | .forLoop p iterable body x, h => by
      simp only [Expr.calls, List.forall_mem_append] at h
      rw [Expr.join, iterable.join_eq_self h.1, body.join_eq_self h.2]
  | .ret value _, h => congrArg (Expr.ret · _) (joinOption_eq_self value h)
  | .unary _ operand _, h => congrArg (Expr.unary _ · _) (operand.join_eq_self h)
  | .binary op left right x, h => by
      simp only [Expr.calls, List.forall_mem_append] at h
      rw [Expr.join, left.join_eq_self h.1, right.join_eq_self h.2]
  | .range lower upper x, h => by
      simp only [Expr.calls, List.forall_mem_append] at h
      rw [Expr.join, joinOption_eq_self lower h.1, joinOption_eq_self upper h.2]
  | .call callee args x, h => by
      simp only [Expr.calls, List.forall_mem_append] at h
      rw [Expr.join, callee.join_eq_self h.1, joinAll_eq_self args h.2]
  | .field subject _ _, h => congrArg (Expr.field · _ _) (subject.join_eq_self h)
  | .index subject position x, h => by
      simp only [Expr.calls, List.forall_mem_append] at h
      rw [Expr.join, subject.join_eq_self h.1, position.join_eq_self h.2]
  | .closure _ _ body _, h => congrArg (Expr.closure _ _ · _) (body.join_eq_self h)

theorem joinAll_eq_self : (es : List Expr) → (∀ c ∈ callsAll es, c.joins? picks = none) →
    joinAll picks es = es
  | [], _ => rfl
  | e :: es, h => by
      simp only [callsAll, List.forall_mem_append] at h
      rw [joinAll, e.join_eq_self h.1, joinAll_eq_self es h.2]

theorem joinOption_eq_self : (o : Option Expr) → (∀ c ∈ callsOption o, c.joins? picks = none) →
    joinOption picks o = o
  | none, _ => rfl
  | some e, h => congrArg some (e.join_eq_self h)

theorem Block.join_eq_self : (b : Block) → (∀ c ∈ b.calls, c.joins? picks = none) → b.join picks = b
  | .mk items _, h => congrArg (Block.mk · _) (joinItems_eq_self items h)

theorem Item.join_eq_self : (i : Item) → (∀ c ∈ i.calls, c.joins? picks = none) → i.join picks = i
  | .empty _, _ => rfl
  | .letItem _ _ value _, h => congrArg (Item.letItem _ _ · _) (joinOption_eq_self value h)
  | .exprItem value _ _, h => congrArg (Item.exprItem · _ _) (value.join_eq_self h)

theorem joinItems_eq_self : (is : List Item) → (∀ c ∈ callsItems is, c.joins? picks = none) →
    joinItems picks is = is
  | [], _ => rfl
  | i :: is, h => by
      simp only [callsItems, List.forall_mem_append] at h
      rw [joinItems, i.join_eq_self h.1, joinItems_eq_self is h.2]

end

end

end ChainLint.Surface
