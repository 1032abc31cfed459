import ChainLint.Proofs.Grammar.Extents
import ChainLint.Proofs.Grammar.Words
import Mathlib.Data.List.Nodup

namespace ChainLint

structure Placing where
  start : Position → Position
  stop : Position → Position

namespace Placing

def token (g : Placing) (t : Token) : Token := ⟨t.terminal, t.text, g.start t.start, g.stop t.stop⟩

theorem terminal (g : Placing) {t : Token} {k : Terminal} (h : t.terminal = k) :
    (g.token t).terminal = k := h

def lexeme (g : Placing) (w : Lexeme) : Lexeme := ⟨g.token w.token, w.next⟩

def extent (g : Placing) (x : Surface.Extent) : Surface.Extent := ⟨g.start x.start, g.stop x.stop⟩

end Placing

namespace Surface

variable (g : Placing)

mutual

@[simp] def Pat.place : Pat → Pat
  | .binding isMut name x => .binding isMut (g.token name) (g.extent x)
  | .wild x => .wild (g.extent x)
  | .tuple elems x => .tuple (placePats elems) (g.extent x)

@[simp] def placePats : List Pat → List Pat
  | [] => []
  | p :: ps => p.place :: placePats ps

end

mutual

@[simp] def TypeExpr.place : TypeExpr → TypeExpr
  | .named path args x => .named (path.map g.token) (placeTypes args) (g.extent x)
  | .ref isMut target x => .ref isMut target.place (g.extent x)
  | .slice elem x => .slice elem.place (g.extent x)
  | .unit x => .unit (g.extent x)
  | .tuple elems x => .tuple (placeTypes elems) (g.extent x)

@[simp] def placeTypes : List TypeExpr → List TypeExpr
  | [] => []
  | t :: ts => t.place :: placeTypes ts

end

def Param.place (p : Param) : Param :=
  ⟨p.pattern.place g, p.declared.map (TypeExpr.place g), g.extent p.extent⟩

mutual

@[simp] def Expr.place : Expr → Expr
  | .int t => .int (g.token t)
  | .float t => .float (g.token t)
  | .string t => .string (g.token t)
  | .bool value t => .bool value (g.token t)
  | .path segments x => .path (segments.map g.token) (g.extent x)
  | .macroCall name args x => .macroCall (g.token name) (placeExprs args) (g.extent x)
  | .paren inner x => .paren inner.place (g.extent x)
  | .tuple elems x => .tuple (placeExprs elems) (g.extent x)
  | .array elems x => .array (placeExprs elems) (g.extent x)
  | .block body => .block body.place
  | .cond test yes no x => .cond test.place yes.place (placeOption no) (g.extent x)
  | .whileLoop test body x => .whileLoop test.place body.place (g.extent x)
  | .loop body x => .loop body.place (g.extent x)
  | .forLoop p iterable body x =>
      .forLoop (p.place g) iterable.place body.place (g.extent x)
  | .ret value x => .ret (placeOption value) (g.extent x)
  | .brk x => .brk (g.extent x)
  | .cont x => .cont (g.extent x)
  | .unary op operand x => .unary op operand.place (g.extent x)
  | .binary op left right x => .binary op left.place right.place (g.extent x)
  | .range lower upper x => .range (placeOption lower) (placeOption upper) (g.extent x)
  | .call callee args x => .call callee.place (placeExprs args) (g.extent x)
  | .methodCall receiver name args x =>
      .methodCall receiver.place (g.token name) (placeExprs args) (g.extent x)
  | .field subject name x => .field subject.place (g.token name) (g.extent x)
  | .index subject position x => .index subject.place position.place (g.extent x)
  | .closure isMove params body x =>
      .closure isMove (params.map (Param.place g)) body.place (g.extent x)

@[simp] def placeExprs : List Expr → List Expr
  | [] => []
  | e :: es => e.place :: placeExprs es

@[simp] def placeOption : Option Expr → Option Expr
  | none => none
  | some e => some e.place

@[simp] def Block.place : Block → Block
  | .mk items x => .mk (placeItems items) (g.extent x)

@[simp] def Item.place : Item → Item
  | .empty x => .empty (g.extent x)
  | .letItem p declared value x =>
      .letItem (p.place g) (declared.map (TypeExpr.place g)) (placeOption value) (g.extent x)
  | .exprItem value semi x => .exprItem value.place semi (g.extent x)

@[simp] def placeItems : List Item → List Item
  | [] => []
  | i :: is => i.place :: placeItems is

end

def Function.place (f : Function) : Function :=
  ⟨g.token f.name, f.params.map (Param.place g), f.result.map (TypeExpr.place g), f.body.place g,
    g.extent f.extent⟩

@[simp] theorem Pat.extent_place (p : Pat) : (p.place g).extent = g.extent p.extent := by
  cases p <;> rfl

@[simp] theorem TypeExpr.extent_place (t : TypeExpr) : (t.place g).extent = g.extent t.extent := by
  cases t <;> rfl

@[simp] theorem Block.extent_place (b : Block) : (b.place g).extent = g.extent b.extent := by
  cases b
  rfl

@[simp] theorem Expr.extent_place (e : Expr) : (e.place g).extent = g.extent e.extent := by
  cases e with
  | block b => exact b.extent_place g
  | _ => rfl

@[simp] theorem Expr.rank_place (e : Expr) : (e.place g).rank = e.rank := by
  cases e <;> rfl

mutual

@[simp] theorem Expr.edge_place (t : Terminal) : (e : Expr) → (e.place g).edge t = e.edge t
  | .path [] _ | .path [_] _ | .path (_ :: _ :: _) _ => rfl
  | .cond _ _ no _ => elseEdge_place t no
  | .ret none _ | .range _ none _ | .field _ _ _ => rfl
  | .ret (some value) _ => congrArg₂ or (value.edge_place t) (by rw [value.rank_place])
  | .range _ (some upper) _ => congrArg₂ or (upper.edge_place t) (by rw [upper.rank_place])
  | .unary _ operand _ => congrArg₂ or (operand.edge_place t) (by rw [operand.rank_place])
  | .binary _ _ right _ => congrArg₂ or (right.edge_place t) (by rw [right.rank_place])
  | .closure _ _ body _ => congrArg₂ or (body.edge_place t) (by rw [body.rank_place])
  | .int _ | .float _ | .string _ | .bool _ _ | .macroCall _ _ _ | .paren _ _ | .tuple _ _
  | .array _ _ | .block _ | .whileLoop _ _ _ | .loop _ _ | .forLoop _ _ _ _ | .brk _ | .cont _
  | .call _ _ _ | .methodCall _ _ _ _ | .index _ _ _ => rfl

theorem elseEdge_place (t : Terminal) : (o : Option Expr) →
    elseEdge t (placeOption g o) = elseEdge t o
  | none => rfl
  | some no => no.edge_place t

end

@[simp] theorem Expr.opens_place (k : Nat) (e : Expr) (t : Terminal) :
    (e.place g).opens k t = e.opens k t := by
  rw [opens, opens, e.edge_place, e.rank_place]

@[simp] theorem startOf_place {ws : List Lexeme} (h : ws ≠ []) :
    startOf (ws.map g.lexeme) = g.start (startOf ws) := by
  cases ws with
  | nil => exact absurd rfl h
  | cons w ws => rfl

theorem lastStop_place (t : Token) (ts : List Token) :
    Parser.lastStop (g.token t) (ts.map g.token) = g.stop (Parser.lastStop t ts) := by
  rw [Parser.lastStop, Parser.lastStop, List.getLast?_map]
  cases ts.getLast? <;> rfl

theorem SpellsSegments.place {ts : List Token} {ws : List Lexeme} (h : SpellsSegments ts ws) :
    SpellsSegments (ts.map g.token) (ws.map g.lexeme) := by
  induction h with
  | nil => exact .nil
  | cons hsep ht _ ih => exact .cons (g.terminal hsep) (g.terminal ht) ih

def PatPhrase.place : PatPhrase → PatPhrase
  | .one p => .one (p.place g)
  | .elems ps stop => .elems (placePats g ps) (g.stop stop)

theorem SpellsPat.place {p : PatPhrase} {ws : List Lexeme} (h : SpellsPat p ws) :
    SpellsPat (p.place g) (ws.map g.lexeme) := by
  induction h with
  | binding ht => exact .binding (g.terminal ht)
  | mutBinding hm ht => exact .mutBinding (g.terminal hm) (g.terminal ht)
  | wild ht => exact .wild (g.terminal ht)
  | tuple ho _ ih => exact .tuple (g.terminal ho) ih
  | elemsNil hc => exact .elemsNil (g.terminal hc)
  | elemsLast _ hc ih =>
      rw [List.map_append]
      exact .elemsLast ih (g.terminal hc)
  | elemsCons _ hc _ ih ihs =>
      rw [List.map_append]
      exact .elemsCons ih (g.terminal hc) ihs

def TypePhrase.place : TypePhrase → TypePhrase
  | .one t => .one (t.place g)
  | .args ts stop => .args (placeTypes g ts) (g.stop stop)
  | .elems ts stop => .elems (placeTypes g ts) (g.stop stop)

theorem SpellsType.place {p : TypePhrase} {ws : List Lexeme} (h : SpellsType p ws) :
    SpellsType (p.place g) (ws.map g.lexeme) := by
  induction h with
  | @name t ts ws ht hts =>
      have h := SpellsType.name (g.terminal ht) (hts.place g)
      rw [lastStop_place] at h
      exact h
  | applied ht hts hl _ ih =>
      rw [List.map_cons, List.map_append]
      exact .applied (g.terminal ht) (hts.place g) (g.terminal hl) ih
  | @ref amp u ws ha _ ih =>
      have h := SpellsType.ref (g.terminal ha) ih
      rw [u.extent_place] at h
      exact h
  | @mutRef amp m u ws ha hm _ ih =>
      have h := SpellsType.mutRef (g.terminal ha) (g.terminal hm) ih
      rw [u.extent_place] at h
      exact h
  | slice ho _ hc ih =>
      rw [List.map_cons, List.map_append]
      exact .slice (g.terminal ho) ih (g.terminal hc)
  | unit ho hc => exact .unit (g.terminal ho) (g.terminal hc)
  | tuple ho _ hc _ ih ihs =>
      rw [List.map_cons, List.map_append]
      exact .tuple (g.terminal ho) ih (g.terminal hc) ihs
  | argsLast _ hc ih =>
      rw [List.map_append]
      exact .argsLast ih (g.terminal hc)
  | argsCons _ hc _ ih ihs =>
      rw [List.map_append]
      exact .argsCons ih (g.terminal hc) ihs
  | elemsNil hc => exact .elemsNil (g.terminal hc)
  | elemsLast _ hc ih =>
      rw [List.map_append]
      exact .elemsLast ih (g.terminal hc)
  | elemsCons _ hc _ ih ihs =>
      rw [List.map_append]
      exact .elemsCons ih (g.terminal hc) ihs

theorem SpellsDeclared.place {o : Option TypeExpr} {ws : List Lexeme} (h : SpellsDeclared o ws) :
    SpellsDeclared (o.map (TypeExpr.place g)) (ws.map g.lexeme) := by
  cases h with
  | none => exact .none
  | some hc hu => exact .some (g.terminal hc) (hu.place g)

theorem SpellsParam.place {p : Param} {ws : List Lexeme} (h : SpellsParam p ws) :
    SpellsParam (p.place g) (ws.map g.lexeme) := by
  cases h with
  | @mk p o ws ws' hp ho =>
      have h := SpellsParam.mk (hp.place g) (ho.place g)
      have heq : Param.across (p.place g) (o.map (TypeExpr.place g)) =
          (Param.across p o).place g := by
        cases o <;> simp [Param.across, Param.place, Placing.extent]
      rw [List.map_append, ← heq]
      exact h

theorem SpellsBars.place {ps : List Param} {ws : List Lexeme} (h : SpellsBars ps ws) :
    SpellsBars (ps.map (Param.place g)) (ws.map g.lexeme) := by
  induction h with
  | last hp hc =>
      rw [List.map_append]
      exact .last (hp.place g) (g.terminal hc)
  | cons hp hc _ ih =>
      rw [List.map_append]
      exact .cons (hp.place g) (g.terminal hc) ih

theorem SpellsHead.place {ps : List Param} {ws : List Lexeme} (h : SpellsHead ps ws) :
    SpellsHead (ps.map (Param.place g)) (ws.map g.lexeme) := by
  cases h with
  | joined hb => exact .joined (g.terminal hb)
  | empty ho hc => exact .empty (g.terminal ho) (g.terminal hc)
  | params ho hps => exact .params (g.terminal ho) (hps.place g)

theorem SpellsMove.place {isMove : Bool} {ws : List Lexeme} (h : SpellsMove isMove ws) :
    SpellsMove isMove (ws.map g.lexeme) := by
  cases h with
  | none => exact .none
  | some hw => exact .some (g.terminal hw)

theorem SpellsPrefix.place {op : UnaryOp} {ws : List Lexeme} (h : SpellsPrefix op ws) :
    SpellsPrefix op (ws.map g.lexeme) := by
  cases h with
  | neg ht => exact .neg (g.terminal ht)
  | not ht => exact .not (g.terminal ht)
  | deref ht => exact .deref (g.terminal ht)
  | ref ht => exact .ref (g.terminal ht)
  | refMut ht hm => exact .refMut (g.terminal ht) (g.terminal hm)

def Phrase.place : Phrase → Phrase
  | .expr e => .expr (e.place g)
  | .args close es stop => .args close (placeExprs g es) (g.stop stop)
  | .block b => .block (b.place g)
  | .items is => .items (placeItems g is)
  | .letItem i => .letItem (i.place g)
  | .init o => .init (placeOption g o)

theorem EndsBefore.place {e : Expr} {ws : List Lexeme} (h : EndsBefore e ws) :
    EndsBefore (e.place g) (ws.map g.lexeme) := by
  cases ws with
  | nil => exact nofun
  | cons w ws =>
      intro v hv
      cases hv
      rw [e.opens_place]
      exact h w rfl

theorem Spells.place {p : Phrase} {ws : List Lexeme} (h : Spells p ws) :
    Spells (p.place g) (ws.map g.lexeme) := by
  induction h with
  | int ht => exact .int (g.terminal ht)
  | float ht => exact .float (g.terminal ht)
  | string ht => exact .string (g.terminal ht)
  | true ht => exact .true (g.terminal ht)
  | false ht => exact .false (g.terminal ht)
  | @path t ts ws ht hts =>
      have h := Spells.path (g.terminal ht) (hts.place g)
      rw [lastStop_place] at h
      exact h
  | bracketMacro ht hb ho _ ih =>
      exact .bracketMacro (g.terminal ht) (g.terminal hb) (g.terminal ho) ih
  | macroCall ht hb ho _ ih =>
      exact .macroCall (g.terminal ht) (g.terminal hb) (g.terminal ho) ih
  | paren ho _ hc ih =>
      rw [List.map_cons, List.map_append]
      exact .paren (g.terminal ho) ih (g.terminal hc)
  | tuple ho _ hc _ ih ihs =>
      rw [List.map_cons, List.map_append]
      exact .tuple (g.terminal ho) ih (g.terminal hc) ihs
  | array ho _ ih => exact .array (g.terminal ho) ih
  | block _ ih => exact .block ih
  | @cond word test yes ws ws' hw _ hedge _ ih ihyes =>
      have h := Spells.cond (g.terminal hw) ih ((test.edge_place g _).trans hedge) ihyes
      rw [yes.extent_place] at h
      rw [List.map_cons, List.map_append]
      exact h
  | @condElse word other test yes no ws ws' ws'' hw _ hedge _ ho _ ih ihyes ihno =>
      have h := Spells.condElse (g.terminal hw) ih
        ((test.edge_place g _).trans hedge) ihyes (g.terminal ho) ihno
      rw [no.extent_place] at h
      rw [List.map_cons, List.map_append, List.map_append]
      exact h
  | @condElseIf word other word' test test' yes yes' no' x ws ws' ws'' hw _ hedge _ ho hw' _ ih ihyes
      ihno =>
      have h := Spells.condElseIf (g.terminal hw) ih ((test.edge_place g _).trans hedge) ihyes (g.terminal ho) (g.terminal hw') ihno
      rw [List.map_cons, List.map_append, List.map_append]
      exact h
  | @whileLoop word test body ws ws' hw _ hedge _ ih ihbody =>
      have h := Spells.whileLoop (g.terminal hw) ih ((test.edge_place g _).trans hedge)
        ihbody
      rw [body.extent_place] at h
      rw [List.map_cons, List.map_append]
      exact h
  | @loop word body ws hw _ ih =>
      have h := Spells.loop (g.terminal hw) ih
      rw [body.extent_place] at h
      exact h
  | @forLoop word inward p iterable body ws ws' ws'' hw hp hi _ hedge _ ih ihbody =>
      have h := Spells.forLoop (g.terminal hw) (hp.place g) (g.terminal hi)
        ih ((iterable.edge_place g _).trans hedge) ihbody
      rw [body.extent_place] at h
      rw [List.map_cons, List.map_append, List.map_cons, List.map_append]
      exact h
  | retNone hw => exact .retNone (g.terminal hw)
  | @ret word value ws hw _ ih =>
      have h := Spells.ret (g.terminal hw) ih
      rw [value.extent_place] at h
      exact h
  | brk hw => exact .brk (g.terminal hw)
  | cont hw => exact .cont (g.terminal hw)
  | @unary op e ws ws' hop _ hr ih =>
      have hne : ws ≠ [] := by cases hop <;> exact List.cons_ne_nil _ _
      have h := Spells.unary (hop.place g) ih (by rwa [e.rank_place])
      rw [e.extent_place, startOf_place g hne] at h
      rw [List.map_append]
      exact h
  | @binary op t left right ws ws' hop _ hlr hedge _ hrr ih ihr =>
      have h := Spells.binary (t := g.token t) hop ih (by rwa [left.rank_place])
        ((left.edge_place g _).trans hedge) ihr (by rwa [right.rank_place])
      rw [left.extent_place, right.extent_place] at h
      rw [List.map_append]
      exact h
  | rangeAll hd => exact .rangeAll (g.terminal hd)
  | @rangeTo dots upper ws hd _ hur ih =>
      have h := Spells.rangeTo (g.terminal hd) ih (by rwa [upper.rank_place])
      rw [upper.extent_place] at h
      exact h
  | @rangeFrom dots lower ws hd _ hlr hedge ih =>
      have h := Spells.rangeFrom (g.terminal hd) ih (by rwa [lower.rank_place])
        ((lower.edge_place g _).trans hedge)
      rw [lower.extent_place] at h
      rw [List.map_append]
      exact h
  | @range dots lower upper ws ws' hd _ hlr hedge _ hur ih ihu =>
      have h := Spells.range (g.terminal hd) ih (by rwa [lower.rank_place])
        ((lower.edge_place g _).trans hedge) ihu (by rwa [upper.rank_place])
      rw [lower.extent_place, upper.extent_place] at h
      rw [List.map_append]
      exact h
  | @call opening callee es stop ws ws' _ hr hedge ho _ ih ihs =>
      have h := Spells.call ih ((callee.rank_place g).trans hr)
        ((callee.edge_place g _).trans hedge) (g.terminal ho) ihs
      rw [callee.extent_place] at h
      rw [List.map_append]
      exact h
  | @methodCall dot name opening receiver es stop ws ws' _ hr hedge hd hn ho _ ih ihs =>
      have h := Spells.methodCall ih ((receiver.rank_place g).trans hr)
        ((receiver.edge_place g _).trans hedge) (g.terminal hd) (g.terminal hn) (g.terminal ho) ihs
      rw [receiver.extent_place] at h
      rw [List.map_append]
      exact h
  | @field dot name subject ws _ hr hedge hd hn ih =>
      have h := Spells.field ih
        ((subject.rank_place g).trans hr) ((subject.edge_place g _).trans hedge) (g.terminal hd) (hn.imp g.terminal g.terminal)
      rw [subject.extent_place] at h
      rw [List.map_append]
      exact h
  | @index opening closing subject position ws ws' _ hr hedge ho _ hc ih ihp =>
      have h := Spells.index ih
        ((subject.rank_place g).trans hr) ((subject.edge_place g _).trans hedge) (g.terminal ho) ihp (g.terminal hc)
      rw [subject.extent_place] at h
      rw [List.map_append, List.map_cons, List.map_append]
      exact h
  | @closure isMove ps body ws ws' ws'' hm hh _ ih =>
      have hne : ws ++ ws' ≠ [] := by
        cases hh <;> simp
      have h := Spells.closure (hm.place g) (hh.place g) ih
      rw [body.extent_place, ← List.map_append, startOf_place g hne] at h
      rw [List.map_append, List.map_append]
      exact h
  | argsNil hc => exact .argsNil (g.terminal hc)
  | argsLast _ hc ih =>
      rw [List.map_append]
      exact .argsLast ih (g.terminal hc)
  | argsCons _ hc _ ih ihs =>
      rw [List.map_append]
      exact .argsCons ih (g.terminal hc) ihs
  | mkBlock ho _ hc ih =>
      rw [List.map_cons, List.map_append]
      exact .mkBlock (g.terminal ho) ih (g.terminal hc)
  | itemsNil => exact .itemsNil
  | itemsEmpty hs _ ih => exact .itemsEmpty (g.terminal hs) ih
  | itemsLet _ _ ih ihs =>
      rw [List.map_append]
      exact .itemsLet ih ihs
  | @itemsSemi semi e is ws ws' _ hs _ ih ihs =>
      have h := Spells.itemsSemi ih (g.terminal hs) ihs
      rw [e.extent_place] at h
      rw [List.map_append]
      exact h
  | @itemsExpr e is ws ws' _ hend _ ih ihs =>
      have h := Spells.itemsExpr ih (hend.place g) ihs
      rw [e.extent_place] at h
      rw [List.map_append]
      exact h
  | letItem hw hp hd _ hs ih =>
      rw [List.map_cons, List.map_append, List.map_append, List.map_append]
      exact .letItem (g.terminal hw) (hp.place g) (hd.place g) ih (g.terminal hs)
  | initNone => exact .initNone
  | init hq _ ih => exact .init (g.terminal hq) ih

theorem SpellsParams.place {ps : List Param} {ws : List Lexeme} (h : SpellsParams ps ws) :
    SpellsParams (ps.map (Param.place g)) (ws.map g.lexeme) := by
  have hdeclared {p : Param} (hd : p.declared.isSome = true) :
      (p.place g).declared.isSome = true := by
    rwa [Param.place, Option.isSome_map]
  induction h with
  | nil hc => exact .nil (g.terminal hc)
  | last hp hd hc =>
      rw [List.map_append]
      exact .last (hp.place g) (hdeclared hd) (g.terminal hc)
  | cons hp hd hc _ ih =>
      rw [List.map_append]
      exact .cons (hp.place g) (hdeclared hd) (g.terminal hc) ih

theorem SpellsResult.place {o : Option TypeExpr} {ws : List Lexeme} (h : SpellsResult o ws) :
    SpellsResult (o.map (TypeExpr.place g)) (ws.map g.lexeme) := by
  cases h with
  | none => exact .none
  | some ha hu => exact .some (g.terminal ha) (hu.place g)

theorem SpellsFunction.place {f : Function} {ws : List Lexeme} (h : SpellsFunction f ws) :
    SpellsFunction (f.place g) (ws.map g.lexeme) := by
  cases h with
  | @mk word name opening ps result body ws ws' ws'' hw hn ho hps hr hb =>
      have h := SpellsFunction.mk (g.terminal hw) (g.terminal hn) (g.terminal ho) (hps.place g) (hr.place g) (hb.place g)
      rw [body.extent_place] at h
      rw [List.map_cons, List.map_cons, List.map_cons, List.map_append, List.map_append]
      exact h

theorem SpellsFunctions.place {fs : List Function} {ws : List Lexeme} (h : SpellsFunctions fs ws) :
    SpellsFunctions (fs.map (Function.place g)) (ws.map g.lexeme) := by
  induction h with
  | nil => exact .nil
  | cons hf _ ih =>
      rw [List.map_append]
      exact .cons (hf.place g) ih

theorem Placed.le_start {a b : Nat} {ws : List Lexeme} (h : Placed a ws b) :
    ∀ w ∈ ws, a ≤ w.token.start.offset ∧ a < w.token.stop.offset := by
  induction ws generalizing a with
  | nil => exact nofun
  | cons w ws ih =>
      obtain ⟨h₁, h₂, h₃⟩ := h
      refine List.forall_mem_cons.mpr ⟨⟨h₁, by omega⟩, fun v hv => ?_⟩
      have := ih h₃ v hv
      omega

theorem Placed.nodup {a b : Nat} {ws : List Lexeme} (h : Placed a ws b) :
    (ws.map fun w => w.token.start).Nodup ∧ (ws.map fun w => w.token.stop).Nodup := by
  induction ws generalizing a with
  | nil => exact ⟨.nil, .nil⟩
  | cons w ws ih =>
      obtain ⟨h₁, h₂, h₃⟩ := h
      obtain ⟨hstart, hstop⟩ := ih h₃
      refine ⟨List.nodup_cons.mpr ⟨fun hmem => ?_, hstart⟩, List.nodup_cons.mpr ⟨fun hmem => ?_, hstop⟩⟩
      · obtain ⟨v, hv, heq⟩ := List.mem_map.mp hmem
        have heq : v.token.start = w.token.start := heq
        have := (h₃.le_start v hv).1
        rw [heq] at this
        omega
      · obtain ⟨v, hv, heq⟩ := List.mem_map.mp hmem
        have heq : v.token.stop = w.token.stop := heq
        have := (h₃.le_start v hv).2
        rw [heq] at this
        omega

end Surface

theorem exists_map_eq {α : Type} [DecidableEq α] {xs ys : List α} (hxs : xs.Nodup)
    (h : xs.length = ys.length) : ∃ f : α → α, xs.map f = ys := by
  induction xs generalizing ys with
  | nil => exact ⟨id, (List.eq_nil_of_length_eq_zero h.symm).symm⟩
  | cons x xs ih =>
      cases ys with
      | nil => cases h
      | cons y ys =>
          obtain ⟨hx, hxs⟩ := List.nodup_cons.mp hxs
          obtain ⟨f, hf⟩ := ih hxs (Nat.succ.inj h)
          refine ⟨fun a => if a = x then y else f a, ?_⟩
          rw [List.map_cons, if_pos rfl, ← hf]
          congr 1
          refine List.map_congr_left fun a ha => if_neg ?_
          rintro rfl
          exact hx ha

namespace Placing

theorem lexeme_eq {g : Placing} {ws us : List Lexeme} (hword : us.map Lexeme.word = ws.map Lexeme.word)
    (hstart : (ws.map fun w => g.start w.token.start) = us.map fun w => w.token.start)
    (hstop : (ws.map fun w => g.stop w.token.stop) = us.map fun w => w.token.stop) :
    ws.map g.lexeme = us := by
  induction ws generalizing us with
  | nil => exact (List.map_eq_nil_iff.mp hword).symm
  | cons w ws ih =>
      cases us with
      | nil => cases hword
      | cons u us =>
          simp only [List.map_cons, List.cons.injEq] at hword hstart hstop ⊢
          refine ⟨?_, ih hword.2 hstart.2 hstop.2⟩
          obtain ⟨⟨t, l, start, stop⟩, next⟩ := u
          obtain ⟨⟨t', l', start', stop'⟩, next'⟩ := w
          obtain ⟨rfl, rfl, rfl⟩ := Word.mk.inj hword.1
          have hstart : g.start start' = start := hstart.1
          have hstop : g.stop stop' = stop := hstop.1
          change Lexeme.mk ⟨t, l, g.start start', g.stop stop'⟩ next = _
          rw [hstart, hstop]

theorem exists_lexemes {ws us : List Lexeme} (hword : us.map Lexeme.word = ws.map Lexeme.word)
    (hstart : (ws.map fun w => w.token.start).Nodup) (hstop : (ws.map fun w => w.token.stop).Nodup) :
    ∃ g : Placing, ws.map g.lexeme = us := by
  have hlength : us.length = ws.length := by simpa using congrArg List.length hword
  have hlength' (key : Lexeme → Position) : (ws.map key).length = (us.map key).length := by
    rw [List.length_map, List.length_map, hlength]
  obtain ⟨f, hf⟩ := exists_map_eq hstart (hlength' fun w => w.token.start)
  obtain ⟨f', hf'⟩ := exists_map_eq hstop (hlength' fun w => w.token.stop)
  rw [List.map_map] at hf hf'
  exact ⟨⟨f, f'⟩, lexeme_eq hword hf hf'⟩

end Placing

end ChainLint
