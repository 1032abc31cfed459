import ChainLint.Proofs.Grammar.Excerpt
import ChainLint.Proofs.Tree.Lines
import ChainLint.Proofs.Tree.Reads
import ChainLint.Proofs.Tree.Renumbering

namespace ChainLint

structure Shift where
  place : Position
  contexts : Int
  nodes : Int
  line_pos : 0 < place.line
  column_pos : 0 < place.column

namespace Shift

variable (d : Shift)

def line : Option Int → Option Int := Option.map fun l => d.place.line + l - 1

def column (line : Option Int) : Option Int → Option Int :=
  if line = some 1 then Option.map fun c => d.place.column + c - 1 else id

def context (c : Int) : Int := if c = rootContext then rootContext else d.contexts + c

def span (s : Span) : Span where
  file := s.file
  line := d.line s.line
  column := d.column s.line s.column
  endLine := d.line s.endLine
  endColumn := d.column s.endLine s.endColumn
  lo := d.place.offset + s.lo
  hi := d.place.offset + s.hi
  context := d.context s.context

def node (n : Tree.NodeId) : Tree.NodeId := d.nodes + n

def relabelling : Tree.Relabelling := .following d.span d.node

theorem node_injective : Function.Injective d.node := fun _ _ h => Int.add_left_cancel h

theorem span_join (s t : Span) : (d.span s).join (d.span t) = d.span (s.join t) := rfl

theorem line_after (x : Position) :
    some ((d.place.after x).line : Int) = d.line (some (x.line : Int)) := by
  have := d.line_pos
  refine congrArg some ?_
  simp only [Position.after]
  omega

theorem column_after (x : Position) : some ((d.place.after x).column : Int) =
    d.column (some (x.line : Int)) (some (x.column : Int)) := by
  have := d.column_pos
  unfold column
  by_cases h : x.line = 1
  · rw [if_pos (by rw [h]; rfl)]
    refine congrArg some ?_
    simp only [Position.after, h, if_true]
    omega
  · rw [if_neg fun heq => h (by simpa using heq)]
    simp only [Position.after, h, if_false, id_eq]

theorem span_between (file : Option String) (x y : Position) :
    Span.between file (d.place.after x) (d.place.after y) = d.span (.between file x y) := by
  simp only [Span.between, line_after, column_after]
  rfl

end Shift

end ChainLint

namespace ChainLint.Tree

open Build

theorem respans_shift (file : Option String) (d : Shift) :
    Respans file (.after d.place) d.span Span.inRoot where
  extent x := by
    rw [spanOf, spanOf]
    exact congrArg Span.inRoot (d.span_between file x.start x.stop)
  join {s t s' t'} hs ht := by
    change s'.inRoot.join t'.inRoot = (d.span s).join (d.span t)
    rw [hs, ht]

namespace Build

section

variable {α β γ δ : Type} {k : Int}

def Shifts (k : Int) (φ : α → β) (b : Build α) (b' : Build β) : Prop :=
  ∀ x x' a y, x'.nextContext = k + x.nextContext → Gives b x a y →
    ∃ y', Gives b' x' (φ a) y' ∧ y'.nextContext = k + y.nextContext

theorem Shifts.pure {φ : α → β} {x : α} {y : β} (h : y = φ x) :
    Shifts k φ (pure x) (pure y) := by
  intro e e' a z hnext hgives
  obtain ⟨rfl, rfl⟩ := gives_pure.mp hgives
  exact ⟨e', gives_pure.mpr ⟨h, rfl⟩, hnext⟩

theorem Shifts.throw {φ : α → β} {e : BuildError} {b : Build β} : Shifts k φ (throw e) b :=
  fun _ _ _ _ _ h => absurd h not_gives_throw

theorem Shifts.bind {φ : α → β} {ψ : γ → δ} {b : Build α} {b' : Build β} {u : α → Build γ}
    {v : β → Build δ} (h : Shifts k φ b b') (huv : ∀ a, Shifts k ψ (u a) (v (φ a))) :
    Shifts k ψ (b >>= u) (b' >>= v) := by
  intro x x' r z hnext hgives
  obtain ⟨a, y, hb, hu⟩ := gives_bind.mp hgives
  obtain ⟨y', hb', hnext'⟩ := h x x' a y hnext hb
  obtain ⟨z', hv, hlast⟩ := huv a y y' r z hnext' hu
  exact ⟨z', gives_bind.mpr ⟨_, _, hb', hv⟩, hlast⟩

theorem Shifts.map {φ : α → β} {ψ : γ → δ} {b : Build α} {b' : Build β} {u : α → γ} {v : β → δ}
    (h : Shifts k φ b b') (huv : ∀ a, v (φ a) = ψ (u a)) :
    Shifts k ψ (b >>= fun a => Pure.pure (u a)) (b' >>= fun a => Pure.pure (v a)) :=
  h.bind fun a => .pure (huv a)

end

section

variable (file : Option String) (d : Shift)

theorem shifts_push (e e' : Expansion) :
    Shifts d.contexts d.context (modifyGet fun x : Expansions => x.push e)
      (modifyGet fun x : Expansions => x.push e') := by
  intro x x' c y hnext hgives
  obtain ⟨rfl, rfl⟩ := Prod.mk.inj (gives_modifyGet.mp hgives)
  have hroot : x.nextContext ≠ rootContext := by
    simp only [Expansions.nextContext, rootContext]
    omega
  refine ⟨(x'.push e').2, gives_modifyGet.mpr (Prod.ext ?_ rfl), ?_⟩
  · change x'.nextContext = d.context x.nextContext
    rw [hnext, Shift.context, if_neg hroot]
  · simp only [Expansions.push, Expansions.nextContext, Array.size_push] at hnext ⊢
    omega

omit file in
theorem token_text (t : Token) : ((Placing.after d.place).token t).text = t.text := rfl

theorem infoOf_shift (x : Surface.Extent) :
    infoOf file ((Placing.after d.place).extent x) = (infoOf file x).erase d.span :=
  congrArg (Info.mk 0) (d.span_between file x.start x.stop)

theorem declared_shift (o : Option Surface.TypeExpr) :
    (o.map (Surface.TypeExpr.place (.after d.place))).map (typeExpr file) =
      (o.map (typeExpr file)).map (TypeExpr.erase d.span) := by
  rw [← Plain.declared_place (respans_shift file d), Plain.erase_declared]

theorem pattern_shift (p : Surface.Pat) :
    pattern file (p.place (.after d.place)) = (pattern file p).erase d.span := by
  rw [← Plain.pattern_place (respans_shift file d), Plain.erase_pattern]

theorem params_shift (ps : List Surface.Param) :
    (ps.map (Surface.Param.place (.after d.place))).map (param file) =
      (ps.map (param file)).map (Param.erase d.span) := by
  rw [← Plain.params_place (respans_shift file d), Plain.erase_params]

mutual

theorem shifts_expr : (e : Surface.Expr) → Shifts d.contexts (Expr.erase d.span) (expr file e)
    (expr file (e.place (.after d.place)))
  | .int t => by
      rw [Surface.Expr.place, expr, expr, token_text]
      cases Numeral.integer? t.text with
      | none => exact .throw
      | some n => exact .pure (congrArg (Expr.int · n.value n.suffix) (infoOf_shift file d (.ofToken t)))
  | .float t => .pure (congrArg (Expr.float · _ _) (infoOf_shift file d (.ofToken t)))
  | .string t => by
      rw [Surface.Expr.place, expr, expr, token_text]
      cases Escape.decode (unquote t.text) with
      | error _ => exact .throw
      | ok value => exact .pure (congrArg (Expr.string · value) (infoOf_shift file d (.ofToken t)))
  | .bool value t => .pure (congrArg (Expr.bool · value) (infoOf_shift file d (.ofToken t)))
  | .path segments x =>
      .pure (congrArg₂ (Expr.var · · none) (infoOf_shift file d x) (Plain.pathName_place _ segments))
  | .macroCall name args x => (shifts_push d _ _).bind fun c => (shifts_exprs args).map fun ts => by
      have hspan : spanOf file ((Placing.after d.place).extent x) = d.span (spanOf file x) :=
        d.span_between file x.start x.stop
      rw [hspan]
      rfl
  | .paren inner _ => shifts_expr inner
  | .tuple elems x => (shifts_exprs elems).map fun ts => by rw [infoOf_shift]; rfl
  | .array elems x => (shifts_exprs elems).map fun ts => by rw [infoOf_shift]; rfl
  | .block body => (shifts_block body).map fun b => by
      rw [Surface.Block.extent_place, infoOf_shift]; rfl
  | .cond test yes no x =>
      (shifts_expr test).bind fun t => (shifts_block yes).bind fun y =>
        (shifts_optional no).map fun n => by rw [infoOf_shift]; rfl
  | .whileLoop test body x =>
      (shifts_expr test).bind fun t => (shifts_block body).map fun b => by rw [infoOf_shift]; rfl
  | .loop body x => (shifts_block body).map fun b => by rw [infoOf_shift]; rfl
  | .forLoop p iterable body x =>
      (shifts_expr iterable).bind fun t => (shifts_block body).map fun b => by
        rw [infoOf_shift, pattern_shift]; rfl
  | .ret value x => (shifts_optional value).map fun o => by rw [infoOf_shift]; rfl
  | .brk x => .pure (congrArg Expr.brk (infoOf_shift file d x))
  | .cont x => .pure (congrArg Expr.cont (infoOf_shift file d x))
  | .unary op operand x => (shifts_expr operand).map fun t => by rw [infoOf_shift]; rfl
  | .binary op left right _ =>
      (shifts_expr left).bind fun l => (shifts_expr right).map fun r => by
        rw [Expr.span_erase, Expr.span_erase, d.span_join]; rfl
  | .range lower upper x =>
      (shifts_optional lower).bind fun l => (shifts_optional upper).map fun u => by
        rw [infoOf_shift]; rfl
  | .call callee args x =>
      (shifts_expr callee).bind fun t => (shifts_exprs args).map fun ts => by
        rw [infoOf_shift]; rfl
  | .methodCall receiver name args x =>
      (shifts_expr receiver).bind fun t => (shifts_exprs args).map fun ts => by
        have hspan : spanOf file ((Placing.after d.place).extent (.ofToken name)) =
            d.span (spanOf file (.ofToken name)) := d.span_between file name.start name.stop
        rw [infoOf_shift]
        exact congrArg (Expr.methodCall _ _ _ · _) hspan
  | .field subject name x => (shifts_expr subject).map fun t => by rw [infoOf_shift]; rfl
  | .index subject position x =>
      (shifts_expr subject).bind fun t => (shifts_expr position).map fun u => by
        rw [infoOf_shift]; rfl
  | .closure _ params body x => (shifts_expr body).map fun t => by
      rw [infoOf_shift, params_shift]; rfl

theorem shifts_exprs : (es : List Surface.Expr) → Shifts d.contexts (eraseExprs d.span)
    (exprs file es) (exprs file (Surface.placeExprs (.after d.place) es))
  | [] => .pure rfl
  | e :: es => (shifts_expr e).bind fun _ => (shifts_exprs es).map fun _ => rfl

theorem shifts_optional : (o : Option Surface.Expr) → Shifts d.contexts (eraseOption d.span)
    (optional file o) (optional file (Surface.placeOption (.after d.place) o))
  | none => .pure rfl
  | some e => (shifts_expr e).map fun _ => rfl

theorem shifts_block : (b : Surface.Block) → Shifts d.contexts (Block.erase d.span)
    (block file b) (block file (b.place (.after d.place)))
  | .mk items x => (shifts_stmts items).map fun r => by
      rw [infoOf_shift]; rfl

theorem shifts_stmts : (is : List Surface.Item) →
    Shifts d.contexts (Prod.map (eraseStmts d.span) (eraseOption d.span)) (stmts file is)
      (stmts file (Surface.placeItems (.after d.place) is))
  | [] => .pure rfl
  | .empty _ :: rest => shifts_stmts rest
  | .letItem p declared value x :: rest =>
      (shifts_optional value).bind fun o => (shifts_stmts rest).map fun r => by
        rw [infoOf_shift, pattern_shift, declared_shift]; rfl
  | .exprItem value semi x :: rest => by
      refine (shifts_expr value).bind fun t => ?_
      rw [Plain.moreItems_place, Expr.isBlockLike_erase]
      split
      · exact (shifts_stmts rest).map fun r => by
          rw [infoOf_shift]; rfl
      · cases moreItems rest with
        | true => exact .throw
        | false => exact .pure rfl

end

theorem shifts_function (h : Surface.Function) : Shifts d.contexts (Function.erase d.span)
    (function file h) (function file (h.place (.after d.place))) :=
  (shifts_block file d h.body).map fun b => by
    rw [Surface.Function.place]
    simp only
    rw [infoOf_shift, params_shift, declared_shift]
    rfl

end

theorem exists_gives_function {file : Option String} {fs : List Surface.Function}
    {ts : List Function} {x x' : Expansions} (h : Gives (functions file fs) x ts x') {t : Function}
    (ht : t ∈ ts) : ∃ f ∈ fs, ∃ y y', Gives (function file f) y t y' := by
  induction fs generalizing x ts with
  | nil =>
      obtain ⟨rfl, -⟩ := gives_pure.mp h
      cases ht
  | cons f fs ih =>
      rw [functions] at h
      obtain ⟨u, y, hu, h⟩ := gives_bind.mp h
      obtain ⟨us, z, hus, h⟩ := gives_bind.mp h
      obtain ⟨rfl, rfl⟩ := gives_pure.mp h
      rcases List.mem_cons.mp ht with rfl | ht
      · exact ⟨f, List.mem_cons_self, x, y, hu⟩
      · obtain ⟨f', hf', hgives⟩ := ih hus ht
        exact ⟨f', List.mem_cons_of_mem _ hf', hgives⟩

end Build

theorem Numbering.exists_function {ts : List Function} {k : NodeId} {t' : Function}
    (h : t' ∈ ((functions ts).run k).1) : ∃ t ∈ ts, ∃ n, t' = ((function t).run n).1 := by
  induction ts generalizing k with
  | nil => cases h
  | cons t ts ih =>
      rcases List.mem_cons.mp h with rfl | h
      · exact ⟨t, List.mem_cons_self, k, rfl⟩
      · obtain ⟨u, hu, hn⟩ := ih h
        exact ⟨u, List.mem_cons_of_mem _ hu, hn⟩

open Build in
theorem Module.ofText_excerpt {file : Option String} {text : List Char} {x : Expansions} {m : Module}
    (h : (ofText file text x).1 = .ok m) {f : Function}
    (hf : f ∈ (Analysis.ofModule m).module.functions) : ∃ (m₀ : Module) (f₀ : Function) (d : Shift),
      (ofText file (slice text f.info.span.lo.toNat f.info.span.hi.toNat) .empty).1 = .ok m₀ ∧
        (Analysis.ofModule m₀).module.functions = [f₀] ∧ f = f₀.relabel d.relabelling ∧
          f₀.info.span.lo = 0 := by
  obtain ⟨sm, tokens, x', hparse, hgives⟩ := ofText_eq_ok.mp h
  obtain ⟨ws, s, hcuts, hblank, hspells⟩ := Surface.parse_cuts hparse
  obtain ⟨ts, hts, rfl⟩ := gives_module.mp hgives
  obtain ⟨t', ht', rfl⟩ := List.mem_map.mp hf
  obtain ⟨t, ht, n, rfl⟩ := Numbering.exists_function ht'
  obtain ⟨sf, hsf, y, y', hgives⟩ := exists_gives_function hts ht
  obtain ⟨alone, tokens', hparse', hplaced⟩ := Surface.parse_excerpt hcuts hblank hspells hsf
  have hstart : Position.ofOffset text sf.extent.start.offset = sf.extent.start := by
    have hsame := (place_located hparse).trans (List.map_id _).symm
    exact congrArg (fun f => f.extent.start) (List.map_inj_left.mp hsame sf hsf)
  obtain ⟨hline, hcolumn⟩ := Position.start_le_advance (text.take sf.extent.start.offset)
  rw [← Position.ofOffset, hstart] at hline hcolumn
  let d : Shift := ⟨sf.extent.start, y.nextContext - 1, n - 2, hline, hcolumn⟩
  obtain ⟨P, z, hP, -⟩ : ∃ P z, Gives (function file alone) .empty P z ∧
      P.erase Span.inRoot = Plain.function file alone := by
    refine (meets_function file alone .empty).1 ?_
    rw [← Builds.block_place (.after sf.extent.start)]
    have := ((meets_function file sf y).2 _ _ hgives).1
    rw [hplaced] at this
    exact this
  have ht : t = P.erase d.span := by
    have hnext : y.nextContext = d.contexts + Expansions.empty.nextContext := by
      change y.nextContext = y.nextContext - 1 + 1
      omega
    obtain ⟨w, hw, -⟩ := shifts_function file d alone .empty y P z hnext hP
    rw [hplaced] at hgives
    exact Except.ok.inj (Prod.mk.inj (hgives.symm.trans hw)).1
  have hnumber : ((Numbering.function t).run n).1 =
      ((Numbering.function P).run 2).1.relabel (.unbound d.span d.node) := by
    have hfollows := Numbering.follows_function d.span (g := d.node)
      (fun k => (Int.add_assoc _ _ _).symm) P 2
    rw [← ht, show d.node 2 = n from Int.sub_add_cancel n 2] at hfollows
    exact congrArg Prod.fst hfollows
  have hspan : P.info.span = spanOf file alone.extent := by
    rw [Build.function] at hP
    obtain ⟨body, w, -, hpure⟩ := gives_bind.mp hP
    obtain ⟨rfl, -⟩ := gives_pure.mp hpure
    rfl
  have hextent : (Scope.function ((Numbering.function t).run n).1).info.span =
      spanOf file sf.extent := by
    rw [hnumber]
    change d.span P.info.span = _
    rw [hspan, hplaced]
    exact (d.span_between file alone.extent.start alone.extent.stop).symm
  refine ⟨⟨⟨0, moduleSpan file [alone]⟩, file, [P]⟩,
    Scope.function ((Numbering.function P).run 2).1, d, ?_, rfl, ?_, ?_⟩
  · rw [hextent]
    exact ofText_eq_ok.mpr ⟨_, _, z, hparse', gives_module.mpr ⟨[P], gives_bind.mpr
      ⟨P, z, hP, gives_bind.mpr ⟨[], z, gives_pure.mpr ⟨rfl, rfl⟩, gives_pure.mpr ⟨rfl, rfl⟩⟩⟩, rfl⟩⟩
  · rw [hnumber]
    exact Scope.function_relabel (.unbound d.span d.node) _
  · have hoffset := congrArg (fun f => f.extent.start.offset) hplaced
    have hzero : alone.extent.start.offset = 0 := Nat.left_eq_add.mp hoffset
    change P.info.span.lo = 0
    rw [hspan, spanOf_lo, hzero]
    rfl

end ChainLint.Tree
