import ChainLint.Proofs.Tree.Nesting
import ChainLint.Proofs.Tree.Numbering
import ChainLint.Proofs.Tree.Plain
import ChainLint.Proofs.Tree.Spans

namespace ChainLint

namespace Expansions

def Extends (x x' : Expansions) : Prop := x.entries.toList <+: x'.entries.toList

namespace Extends

variable {x y z : Expansions}

theorem refl (x : Expansions) : Extends x x := List.prefix_rfl

theorem trans (h : Extends x y) (h' : Extends y z) : Extends x z := List.IsPrefix.trans h h'

theorem push (x : Expansions) (e : Expansion) : Extends x (x.push e).2 := by
  rw [Extends, Expansions.push, Array.toList_push]
  exact List.prefix_append _ _

theorem nextContext_le (h : Extends x y) : x.nextContext ≤ y.nextContext := by
  have := h.length_le
  simp only [Array.length_toList] at this
  simp only [nextContext]
  omega

theorem get? (h : Extends x y) {context : Int} {e : Expansion} (he : x.get? context = some e) :
    y.get? context = some e := by
  unfold Expansions.get? at he ⊢
  split at he
  · cases he
  · next hpos =>
      rw [if_neg hpos]
      rw [← Array.getElem?_toList] at he ⊢
      obtain ⟨more, hmore⟩ := h
      obtain ⟨hlt, -⟩ := List.getElem?_eq_some_iff.mp he
      rw [← hmore, List.getElem?_append_left hlt, he]

end Extends

theorem get?_eq_none {x : Expansions} {context : Int} (h : x.nextContext ≤ context) :
    x.get? context = none := by
  unfold get?
  split
  · rfl
  · simp only [nextContext] at h
    exact Array.getElem?_eq_none (by omega)

end Expansions

namespace Tree

open Build Expansions

def Node.macroCall? : Node → Option (Info × String)
  | .expr (.macroCall i name _) => some (i, name)
  | _ => none

def Node.macroCalls (n : Node) : List (Info × String) := n.preorder.filterMap macroCall?

def Node.IsWritten (n : Node) : Prop := n.macroCall? = none ∧ ∀ s ∈ n.spans, s.context = rootContext

theorem Node.IsWritten.of_span {n : Node} (h : n.macroCall? = none)
    (hs : n.span.context = rootContext) (hi : n.innerSpans = []) : n.IsWritten := by
  refine ⟨h, List.forall_mem_cons.mpr ⟨hs, ?_⟩⟩
  rw [hi]
  exact fun s hs => absurd hs List.not_mem_nil

inductive Allots : Expansions → List Node → Expansions → Prop where
  | nil (x : Expansions) : Allots x [] x
  | written {x x' : Expansions} {v : Node} {vs : List Node} (hv : v.IsWritten)
      (h : Allots x vs x') : Allots x (v :: vs) x'
  | macroCall {x x' : Expansions} {id : NodeId} {site : Span} {name : String} {args : List Expr}
      {vs : List Node} (hsite : site.context = rootContext)
      (h : Allots (x.push ⟨name, site⟩).2 vs x') :
      Allots x (.expr (.macroCall ⟨id, { site with context := x.nextContext }⟩ name args) :: vs) x'

namespace Allots

variable {x y z : Expansions} {vs ws : List Node}

theorem append (h : Allots x vs y) (h' : Allots y ws z) : Allots x (vs ++ ws) z := by
  induction h with
  | nil => exact h'
  | written hv _ ih => exact .written hv (ih h')
  | macroCall hsite _ ih => exact .macroCall hsite (ih h')

theorem written_append (hvs : ∀ v ∈ vs, v.IsWritten) (h : Allots x ws y) :
    Allots x (vs ++ ws) y := by
  induction vs with
  | nil => exact h
  | cons v vs ih =>
      exact .written (hvs v List.mem_cons_self) (ih fun u hu => hvs u (List.mem_cons_of_mem v hu))

theorem grows (h : Allots x vs y) : x.Extends y := by
  induction h with
  | nil => exact .refl _
  | written _ _ ih => exact ih
  | macroCall _ _ ih => exact (Extends.push _ _).trans ih

theorem consecutive (h : Allots x vs y) :
    Consecutive x.nextContext ((vs.filterMap Node.macroCall?).map (·.1.span.context))
      y.nextContext := by
  induction h with
  | nil => exact rfl
  | written hv _ ih =>
      rw [List.filterMap_cons_none hv.1]
      exact ih
  | @macroCall x x' id site name args vs hsite h ih =>
      have hnext : (x.push ⟨name, site⟩).2.nextContext = x.nextContext + 1 := by
        simp [push, nextContext]
      rw [hnext] at ih
      exact ⟨rfl, ih⟩

theorem get? (h : Allots x vs y) : ∀ call ∈ vs.filterMap Node.macroCall?,
    y.get? call.1.span.context = some ⟨call.2, call.1.span.inRoot⟩ := by
  induction h with
  | nil => exact fun call hc => absurd hc List.not_mem_nil
  | written hv _ ih =>
      rw [List.filterMap_cons_none hv.1]
      exact ih
  | @macroCall x x' id site name args vs hsite h ih =>
      have hroot : ({ site with context := x.nextContext } : Span).inRoot = site := by
        rw [Span.inRoot, ← hsite]
      refine List.forall_mem_cons.mpr ⟨?_, ih⟩
      rw [hroot]
      exact h.grows.get? (get?_push x ⟨name, site⟩)

theorem in_root (h : Allots x vs y) : ∀ v ∈ vs,
    (v.macroCall? = none → v.span.context = rootContext) ∧
      ∀ s ∈ v.innerSpans, s.context = rootContext := by
  induction h with
  | nil => exact fun v hv => absurd hv List.not_mem_nil
  | written hv _ ih =>
      exact List.forall_mem_cons.mpr ⟨⟨fun _ => hv.2 _ List.mem_cons_self,
        fun s hs => hv.2 s (List.mem_cons_of_mem _ hs)⟩, ih⟩
  | macroCall _ _ ih =>
      refine List.forall_mem_cons.mpr ⟨⟨fun h => ?_, fun s hs => absurd hs List.not_mem_nil⟩, ih⟩
      cases h

end Allots

theorem Node.root_of_erase (n : Node) (h : n.erase Span.inRoot = n) :
    ∀ v ∈ n.preorder, ∀ s ∈ v.spans, s.context = rootContext := by
  intro v hv s hs
  rw [← h, Node.preorder_erase] at hv
  obtain ⟨u, -, rfl⟩ := List.mem_map.mp hv
  rw [Node.spans_erase] at hs
  obtain ⟨t, -, rfl⟩ := List.mem_map.mp hs
  rfl

theorem Node.macroCall?_pat (p : Pat) : ∀ v ∈ (Node.pat p).preorder, v.macroCall? = none := by
  generalize hn : Node.pat p = n
  induction n using Node.child_induction generalizing p with
  | step n ih =>
      subst hn
      intro v hv
      rcases Node.mem_preorder_iff.mp hv with rfl | ⟨c, hc, hv⟩
      · rfl
      · cases p with
        | tuple i elems =>
            obtain ⟨q, -, rfl⟩ := List.mem_map.mp hc
            exact ih _ hc q rfl v hv
        | _ => cases hc

section

variable (file : Option String)

theorem written_pattern (p : Surface.Pat) :
    ∀ v ∈ (Node.pat (pattern file p)).preorder, v.IsWritten := fun v hv =>
  ⟨Node.macroCall?_pat _ v hv,
    Node.root_of_erase (.pat _) (congrArg Node.pat (Plain.erase_pattern file p)) v hv⟩

theorem root_declared (o : Option Surface.TypeExpr) :
    ∀ s ∈ declaredSpans (o.map (typeExpr file)), s.context = rootContext := by
  intro s hs
  rw [← Plain.erase_declared, declaredSpans_erase] at hs
  obtain ⟨t, -, rfl⟩ := List.mem_map.mp hs
  rfl

theorem written_param (p : Surface.Param) :
    ∀ v ∈ (Node.param (param file p)).preorder, v.IsWritten := by
  intro v hv
  rcases Node.mem_preorder_iff.mp hv with rfl | ⟨c, hc, hv⟩
  · exact ⟨rfl, List.forall_mem_cons.mpr ⟨rfl, root_declared file p.declared⟩⟩
  · cases List.mem_singleton.mp hc
    exact written_pattern file p.pattern v hv

theorem written_params (ps : List Surface.Param) :
    ∀ v ∈ (ps.map (param file)).flatMap fun p => (Node.param p).preorder, v.IsWritten := by
  intro v hv
  obtain ⟨p, hp, hv⟩ := List.mem_flatMap.mp hv
  obtain ⟨q, -, rfl⟩ := List.mem_map.mp hp
  exact written_param file q v hv

end

namespace Build

variable {α β : Type}

structure Tracks (b : Build α) (P : α → List Node → Prop) : Prop where
  gives : ∀ {x a x'}, Gives b x a x' → ∃ vs, P a vs ∧ Allots x vs x'
  grows : ∀ x : Expansions, x.Extends (b.run.run x).2

namespace Tracks

variable {P : α → List Node → Prop}

theorem pure {a : α} (h : P a []) : Tracks (pure a) P where
  gives hb := by
    obtain ⟨rfl, rfl⟩ := gives_pure.mp hb
    exact ⟨[], h, .nil _⟩
  grows := Extends.refl

theorem throw {e : BuildError} : Tracks (throw e) P where
  gives hb := absurd hb not_gives_throw
  grows := Extends.refl

theorem bind {Q : β → List Node → Prop} {b : Build α} {f : α → Build β} (hb : Tracks b P)
    (hf : ∀ a vs, P a vs → Tracks (f a) fun r ws => Q r (vs ++ ws)) : Tracks (b >>= f) Q where
  gives h := by
    obtain ⟨a, y, ha, hr⟩ := gives_bind.mp h
    obtain ⟨vs, hvs, hx⟩ := hb.gives ha
    obtain ⟨ws, hws, hy⟩ := (hf a vs hvs).gives hr
    exact ⟨vs ++ ws, hws, hx.append hy⟩
  grows x := by
    have hx := hb.grows x
    rcases hrun : b.run.run x with ⟨e | a, y⟩
    · rw [run_bind_error hrun]
      rwa [hrun] at hx
    · rw [run_bind_ok hrun]
      rw [hrun] at hx
      obtain ⟨vs, hvs, -⟩ := hb.gives hrun
      exact hx.trans ((hf a vs hvs).grows y)

theorem map {Q : β → List Node → Prop} {b : Build α} {f : α → β} (hb : Tracks b P)
    (hf : ∀ a vs, P a vs → Q (f a) vs) : Tracks (b >>= fun a => Pure.pure (f a)) Q :=
  hb.bind fun a vs ha => .pure (by rw [List.append_nil]; exact hf a vs ha)

theorem mono {Q : α → List Node → Prop} {b : Build α} (hb : Tracks b P)
    (h : ∀ a vs, P a vs → Q a vs) : Tracks b Q where
  gives hg := by
    obtain ⟨vs, hvs, hx⟩ := hb.gives hg
    exact ⟨vs, h _ vs hvs, hx⟩
  grows := hb.grows

theorem after {b : Build α} (front : α → List Node)
    (hb : Tracks b fun a vs => (∀ v ∈ front a, v.IsWritten) ∧ P a (front a ++ vs)) :
    Tracks b P where
  gives h := by
    obtain ⟨vs, ⟨hfront, hvs⟩, hx⟩ := hb.gives h
    exact ⟨_, hvs, hx.written_append hfront⟩
  grows := hb.grows

theorem headed {b : Build α} {node : α → Node}
    (hb : Tracks b fun a vs => (node a).IsWritten ∧ vs = (node a).children.flatMap Node.preorder) :
    Tracks b fun a vs => vs = (node a).preorder :=
  .after (fun a => [node a]) <| hb.mono fun a vs h =>
    ⟨List.forall_mem_singleton.mpr h.1, by rw [Node.preorder_eq, h.2]; rfl⟩

end Tracks

variable (file : Option String)

theorem tracks_macroCall (name : Token) (x : Surface.Extent) {args : List Surface.Expr}
    (hargs : Tracks (exprs file args) fun ts vs => vs = (ts.map Node.expr).flatMap Node.preorder) :
    Tracks (expr file (.macroCall name args x)) fun t vs => vs = (Node.expr t).preorder where
  gives h := by
    obtain ⟨context, y, h₀, h⟩ := gives_bind.mp h
    obtain ⟨ts, z, h₁, h⟩ := gives_bind.mp h
    obtain ⟨rfl, rfl⟩ := gives_pure.mp h
    cases gives_modifyGet.mp h₀
    obtain ⟨vs, rfl, hx⟩ := hargs.gives h₁
    refine ⟨_, rfl, ?_⟩
    rw [Node.preorder_eq]
    exact .macroCall rfl hx
  grows y := by
    have hargs' := hargs.map (Q := fun (_ : Expr) _ => True)
      (f := .macroCall ⟨0, { spanOf file x with context := y.nextContext }⟩ (spell name))
      fun _ _ _ => trivial
    exact (Extends.push y ⟨spell name, spanOf file x⟩).trans (hargs'.grows _)

mutual

theorem tracks_expr : (e : Surface.Expr) →
    Tracks (expr file e) fun t vs => vs = (Node.expr t).preorder
  | .int t => by
      rw [expr]
      cases Numeral.integer? t.text with
      | none => exact .throw
      | some n => exact .headed (.pure ⟨.of_span rfl rfl rfl, rfl⟩)
  | .float _ | .bool _ _ | .path _ _ | .brk _ | .cont _ =>
      .headed (.pure ⟨.of_span rfl rfl rfl, rfl⟩)
  | .string t => by
      rw [expr]
      cases Escape.decode (unquote t.text) with
      | error _ => exact .throw
      | ok value => exact .headed (.pure ⟨.of_span rfl rfl rfl, rfl⟩)
  | .macroCall name args x => tracks_macroCall file name x (tracks_exprs args)
  | .paren inner _ => tracks_expr inner
  | .tuple elems _ | .array elems _ =>
      .headed <| (tracks_exprs elems).map fun ts vs hts => ⟨.of_span rfl rfl rfl, hts⟩
  | .block body =>
      .headed <| (tracks_block body).map fun b vs hb =>
        ⟨.of_span rfl rfl rfl, by rw [hb]; exact (List.append_nil _).symm⟩
  | .cond test yes no _ =>
      .headed <| (tracks_expr test).bind fun t us ht => (tracks_block yes).bind fun y vs hy =>
        (tracks_optional no).map fun n ws hn => ⟨.of_span rfl rfl rfl, by rw [ht, hy, hn]; rfl⟩
  | .whileLoop test body _ =>
      .headed <| (tracks_expr test).bind fun t us ht => (tracks_block body).map fun b vs hb =>
        ⟨.of_span rfl rfl rfl, by simp [ht, hb, Node.children, Expr.children]⟩
  | .loop body _ =>
      .headed <| (tracks_block body).map fun b vs hb =>
        ⟨.of_span rfl rfl rfl, by rw [hb]; exact (List.append_nil _).symm⟩
  | .forLoop p iterable body _ =>
      .headed <| .after (fun _ => (Node.pat (pattern file p)).preorder) <|
        (tracks_expr iterable).bind fun t us ht => (tracks_block body).map fun b vs hb =>
          ⟨written_pattern file p, .of_span rfl rfl rfl,
            by simp [ht, hb, Node.children, Expr.children]⟩
  | .ret value _ =>
      .headed <| (tracks_optional value).map fun o vs ho => ⟨.of_span rfl rfl rfl, ho⟩
  | .unary _ operand _ =>
      .headed <| (tracks_expr operand).map fun t vs ht =>
        ⟨.of_span rfl rfl rfl, by rw [ht]; exact (List.append_nil _).symm⟩
  | .binary _ left right _ =>
      .headed <| (tracks_expr left).bind fun l us hl => (tracks_expr right).map fun r vs hr =>
        ⟨.of_span rfl rfl rfl, by simp [hl, hr, Node.children, Expr.children]⟩
  | .range lower upper _ =>
      .headed <| (tracks_optional lower).bind fun l us hl =>
        (tracks_optional upper).map fun u vs hu =>
          ⟨.of_span rfl rfl rfl, by simp [hl, hu, Node.children, Expr.children]⟩
  | .call callee args _ =>
      .headed <| (tracks_expr callee).bind fun t us ht => (tracks_exprs args).map fun ts vs hts =>
        ⟨.of_span rfl rfl rfl, by rw [ht, hts]; rfl⟩
  | .methodCall receiver _ args _ =>
      .headed <| (tracks_expr receiver).bind fun t us ht =>
        (tracks_exprs args).map fun ts vs hts =>
          ⟨⟨rfl, List.forall_mem_cons.mpr ⟨rfl, List.forall_mem_singleton.mpr rfl⟩⟩,
            by rw [ht, hts]; rfl⟩
  | .field subject _ _ =>
      .headed <| (tracks_expr subject).map fun t vs ht =>
        ⟨.of_span rfl rfl rfl, by rw [ht]; exact (List.append_nil _).symm⟩
  | .index subject position _ =>
      .headed <| (tracks_expr subject).bind fun t us ht => (tracks_expr position).map fun u vs hu =>
        ⟨.of_span rfl rfl rfl, by simp [ht, hu, Node.children, Expr.children]⟩
  | .closure _ params body _ =>
      .headed <| .after (fun _ => (params.map (param file)).flatMap fun p => (Node.param p).preorder) <|
        (tracks_expr body).map fun t vs ht => ⟨written_params file params, .of_span rfl rfl rfl,
          by simp [ht, Node.children, Expr.children, List.flatMap_map]⟩

theorem tracks_exprs : (es : List Surface.Expr) →
    Tracks (exprs file es) fun ts vs => vs = (ts.map Node.expr).flatMap Node.preorder
  | [] => .pure rfl
  | e :: es => (tracks_expr e).bind fun t us ht => (tracks_exprs es).map fun ts vs hts => by
      rw [ht, hts]; rfl

theorem tracks_optional : (o : Option Surface.Expr) →
    Tracks (optional file o) fun t vs => vs = (t.toList.map Node.expr).flatMap Node.preorder
  | none => .pure rfl
  | some e => (tracks_expr e).map fun t vs ht => by rw [ht]; exact (List.append_nil _).symm

theorem tracks_block : (b : Surface.Block) →
    Tracks (block file b) fun t vs => vs = (Node.block t).preorder
  | .mk items _ => .headed <| (tracks_stmts items).map fun _ _ hr => ⟨.of_span rfl rfl rfl, hr⟩

theorem tracks_stmts : (is : List Surface.Item) →
    Tracks (stmts file is) fun r vs =>
      vs = (r.1.map Node.stmt ++ r.2.toList.map Node.expr).flatMap Node.preorder
  | [] => .pure rfl
  | .empty _ :: rest => tracks_stmts rest
  | .letItem p declared value x :: rest =>
      .after (fun r => r.1.head?.toList.flatMap fun s =>
          .stmt s :: (Node.pat (pattern file p)).preorder) <|
        (tracks_optional value).bind fun o us ho => (tracks_stmts rest).map fun _ _ hr => by
          constructor
          · rw [List.head?_cons, Option.toList_some, List.flatMap_singleton]
            exact List.forall_mem_cons.mpr
              ⟨⟨rfl, List.forall_mem_cons.mpr ⟨rfl, root_declared file declared⟩⟩,
                written_pattern file p⟩
          · simp [ho, hr, Node.preorder_eq (.stmt _), Node.children]
  | .exprItem value semi _ :: rest =>
      .after (fun r => r.1.head?.toList.map Node.stmt) <|
        (tracks_expr value).bind fun t us ht => by
          split
          · refine (tracks_stmts rest).map fun _ _ hr =>
              ⟨List.forall_mem_singleton.mpr (.of_span rfl rfl rfl), ?_⟩
            simp [ht, hr, Node.preorder_eq (.stmt _), Node.children]
          · split
            · exact .throw
            · exact .pure ⟨fun v hv => absurd hv List.not_mem_nil, by rw [ht]; rfl⟩

end

theorem tracks_function (f : Surface.Function) :
    Tracks (function file f) fun t vs => vs = (Node.function t).preorder :=
  .headed <| .after (fun _ => (f.params.map (param file)).flatMap fun p => (Node.param p).preorder) <|
    (tracks_block file f.body).map fun b vs hb => ⟨written_params file f.params,
      ⟨rfl, List.forall_mem_cons.mpr ⟨rfl, root_declared file f.result⟩⟩,
      by simp [hb, Node.children, List.flatMap_map]⟩

theorem tracks_functions : (fs : List Surface.Function) →
    Tracks (functions file fs) fun ts vs => vs = (ts.map Node.function).flatMap Node.preorder
  | [] => .pure rfl
  | f :: fs => (tracks_function file f).bind fun t us ht =>
      (tracks_functions fs).map fun ts vs hts => by rw [ht, hts]; rfl

theorem moduleSpan_context (fs : List Surface.Function) :
    (moduleSpan file fs).context = rootContext := by
  unfold moduleSpan
  split <;> rfl

theorem tracks_module (m : Surface.Module) :
    Tracks (module file m) fun t vs => vs = (Node.module t).preorder :=
  .headed <| (tracks_functions file m.functions).map fun _ _ hfs =>
    ⟨.of_span rfl (moduleSpan_context file m.functions) rfl, hfs⟩

end Build

namespace Module

variable {file : Option String} {text : List Char} {x : Expansions}

theorem allots_ofText {m : Module} (h : (ofText file text x).1 = .ok m) :
    Allots x (Node.module m).preorder (ofText file text x).2 := by
  obtain ⟨sm, tokens, x', hparse, hgives⟩ := ofText_eq_ok.mp h
  obtain ⟨vs, rfl, hx⟩ := (tracks_module file sm).gives hgives
  have hx' : (ofText file text x).2 = x' := by
    unfold ofText
    rw [hparse]
    exact congrArg Prod.snd hgives
  rwa [hx']

theorem extends_ofText (file : Option String) (text : List Char) (x : Expansions) :
    x.Extends (ofText file text x).2 := by
  unfold ofText
  cases Surface.parse text with
  | error cause => exact .refl x
  | ok r => exact (tracks_module file r.1).grows x

end Module

end Tree

end ChainLint
