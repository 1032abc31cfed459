import ChainLint.Proofs.Report.Changes
import ChainLint.Proofs.Tree.Covering

namespace ChainLint

def Token.respell (t : Token) (l : String) : Token := ⟨t.terminal, l.toList, t.start, t.stop⟩

namespace Surface

open Tree.Build

structure CallPair where
  receiver : Expr
  method : Token
  mapper : Expr
  fallback : Expr

def CallPair.of? (receiver : Expr) (name : Token) (args : List Expr) : Option CallPair :=
  match receiver, args with
  | .methodCall r m [f] _, [a] =>
      if spell m = "map" ∧ spell name = "unwrap_or" then some ⟨r, m, f, a⟩ else none
  | _, _ => none

def Expr.pair? : Expr → Option CallPair
  | .methodCall receiver name args _ => CallPair.of? receiver name args
  | _ => none

mutual

def Expr.calls : Expr → List Expr
  | .methodCall receiver name args x =>
      .methodCall receiver name args x :: (receiver.calls ++ callsAll args)
  | .int _ | .float _ | .string _ | .bool _ _ | .path _ _ | .brk _ | .cont _ => []
  | .macroCall _ args _ | .tuple args _ | .array args _ => callsAll args
  | .paren inner _ => inner.calls
  | .block body | .loop body _ => body.calls
  | .cond test yes no _ => test.calls ++ (yes.calls ++ callsOption no)
  | .whileLoop test body _ => test.calls ++ body.calls
  | .forLoop _ iterable body _ => iterable.calls ++ body.calls
  | .ret value _ => callsOption value
  | .unary _ operand _ => operand.calls
  | .binary _ left right _ => left.calls ++ right.calls
  | .range lower upper _ => callsOption lower ++ callsOption upper
  | .call callee args _ => callee.calls ++ callsAll args
  | .field subject _ _ => subject.calls
  | .index subject position _ => subject.calls ++ position.calls
  | .closure _ _ body _ => body.calls

def callsAll : List Expr → List Expr
  | [] => []
  | e :: es => e.calls ++ callsAll es

def callsOption : Option Expr → List Expr
  | none => []
  | some e => e.calls

def Block.calls : Block → List Expr
  | .mk items _ => callsItems items

def Item.calls : Item → List Expr
  | .empty _ => []
  | .letItem _ _ value _ => callsOption value
  | .exprItem value _ _ => value.calls

def callsItems : List Item → List Expr
  | [] => []
  | i :: is => i.calls ++ callsItems is

end

section

variable (picks : Int → Bool)

def Expr.isPicked (e : Expr) : Bool := e.pair?.any fun p => picks p.method.start.offset

def Expr.joins? (e : Expr) : Option CallPair :=
  e.pair?.filter fun p =>
    picks p.method.start.offset && p.fallback.calls.all fun c => !c.isPicked picks

def CallPair.fallsToNone (p : CallPair) : Bool :=
  match p.fallback.bare with
  | .path segments _ => pathName segments = "None"
  | _ => false

def CallPair.join (p : CallPair) (x : Extent) : Expr → Expr
  | .methodCall receiver _ [mapper] _ =>
      if p.fallsToNone then .methodCall receiver (p.method.respell "and_then") [mapper] x
      else .methodCall receiver (p.method.respell "map_or") [p.fallback.bare, mapper] x
  | e => e

mutual

def Expr.join : Expr → Expr
  | .methodCall receiver name args x =>
      match Expr.joins? picks (.methodCall receiver name args x) with
      | some p => p.join x receiver.join
      | none => .methodCall receiver.join name (joinAll args) x
  | .int t => .int t
  | .float t => .float t
  | .string t => .string t
  | .bool value t => .bool value t
  | .path segments x => .path segments x
  | .macroCall name args x => .macroCall name (joinAll args) x
  | .paren inner x => .paren inner.join x
  | .tuple elems x => .tuple (joinAll elems) x
  | .array elems x => .array (joinAll elems) x
  | .block body => .block body.join
  | .cond test yes no x => .cond test.join yes.join (joinOption no) x
  | .whileLoop test body x => .whileLoop test.join body.join x
  | .loop body x => .loop body.join x
  | .forLoop p iterable body x => .forLoop p iterable.join body.join x
  | .ret value x => .ret (joinOption value) x
  | .brk x => .brk x
  | .cont x => .cont x
  | .unary op operand x => .unary op operand.join x
  | .binary op left right x => .binary op left.join right.join x
  | .range lower upper x => .range (joinOption lower) (joinOption upper) x
  | .call callee args x => .call callee.join (joinAll args) x
  | .field subject name x => .field subject.join name x
  | .index subject position x => .index subject.join position.join x
  | .closure isMove params body x => .closure isMove params body.join x

def joinAll : List Expr → List Expr
  | [] => []
  | e :: es => e.join :: joinAll es

def joinOption : Option Expr → Option Expr
  | none => none
  | some e => some e.join

def Block.join : Block → Block
  | .mk items x => .mk (joinItems items) x

def Item.join : Item → Item
  | .empty x => .empty x
  | .letItem p declared value x => .letItem p declared (joinOption value) x
  | .exprItem value semi x => .exprItem value.join semi x

def joinItems : List Item → List Item
  | [] => []
  | i :: is => i.join :: joinItems is

end

def Function.join (f : Function) : Function :=
  ⟨f.name, f.params, f.result, f.body.join picks, f.extent⟩

theorem CallPair.of?_eq_some {receiver : Expr} {name : Token} {args : List Expr} {p : CallPair}
    (h : CallPair.of? receiver name args = some p) : spell p.method = "map" ∧
      spell name = "unwrap_or" ∧ args = [p.fallback] ∧
        ∃ y, receiver = .methodCall p.receiver p.method [p.mapper] y := by
  unfold CallPair.of? at h
  split at h
  · next r m f y a =>
      split at h
      · next hnames =>
          cases h
          exact ⟨hnames.1, hnames.2, rfl, y, rfl⟩
      · cases h
  · cases h

theorem Expr.joins?_eq_some {e : Expr} {p : CallPair} (h : e.joins? picks = some p) :
    e.pair? = some p ∧ picks p.method.start.offset = true ∧
      ∀ c ∈ p.fallback.calls, c.isPicked picks = false := by
  obtain ⟨hp, hcond⟩ := Option.filter_eq_some_iff.mp h
  rw [Bool.and_eq_true, List.all_eq_true] at hcond
  exact ⟨hp, hcond.1, fun c hc => by simpa using hcond.2 c hc⟩

theorem Expr.joins?_none {receiver : Expr} {name : Token} {args : List Expr} {x : Extent}
    (h : spell name ≠ "unwrap_or") :
    Expr.joins? picks (.methodCall receiver name args x) = none := by
  cases hp : Expr.joins? picks (.methodCall receiver name args x) with
  | none => rfl
  | some p => exact absurd (CallPair.of?_eq_some (Expr.joins?_eq_some picks hp).1).2.1 h

theorem Expr.join_map {r f : Expr} {m : Token} {y : Extent} (h : spell m = "map") :
    Expr.join picks (.methodCall r m [f] y) = .methodCall (r.join picks) m [f.join picks] y := by
  have hne : spell m ≠ "unwrap_or" := by
    rw [h]
    decide
  rw [Expr.join, Expr.joins?_none picks hne]
  rfl

theorem Expr.join_call (receiver : Expr) (name : Token) (args : List Expr) (x : Extent) :
    (Expr.joins? picks (.methodCall receiver name args x) = none ∧
      Expr.join picks (.methodCall receiver name args x) =
        .methodCall (receiver.join picks) name (joinAll picks args) x) ∨
    ∃ p y, Expr.joins? picks (.methodCall receiver name args x) = some p ∧
      spell p.method = "map" ∧ args = [p.fallback] ∧
      receiver = .methodCall p.receiver p.method [p.mapper] y ∧
      Expr.join picks (.methodCall receiver name args x) =
        if p.fallsToNone then
          .methodCall (p.receiver.join picks) (p.method.respell "and_then") [p.mapper.join picks] x
        else .methodCall (p.receiver.join picks) (p.method.respell "map_or")
          [p.fallback.bare, p.mapper.join picks] x := by
  cases hp : Expr.joins? picks (.methodCall receiver name args x) with
  | none =>
      left
      exact ⟨rfl, by rw [Expr.join, hp]⟩
  | some p =>
      right
      obtain ⟨hm, -, hargs, y, hr⟩ := CallPair.of?_eq_some (Expr.joins?_eq_some picks hp).1
      refine ⟨p, y, rfl, hm, hargs, hr, ?_⟩
      rw [Expr.join, hp, hr]
      simp only
      rw [Expr.join_map picks hm]
      rfl

@[simp] theorem Expr.extent_join (e : Expr) : (e.join picks).extent = e.extent := by
  cases e with
  | methodCall receiver name args x =>
      obtain ⟨-, h⟩ | ⟨p, y, -, -, -, -, h⟩ := Expr.join_call picks receiver name args x
      · rw [h]
        rfl
      · rw [h]
        split <;> rfl
  | block b =>
      cases b
      rfl
  | _ => rfl

@[simp] theorem Block.extent_join (b : Block) : (b.join picks).extent = b.extent := by
  cases b
  rfl

@[simp] theorem Expr.rank_join (e : Expr) : (e.join picks).rank = e.rank := by
  cases e with
  | methodCall receiver name args x =>
      obtain ⟨-, h⟩ | ⟨p, y, -, -, -, -, h⟩ := Expr.join_call picks receiver name args x
      · rw [h]
        rfl
      · rw [h]
        split <;> rfl
  | _ => rfl

mutual

@[simp] theorem Expr.edge_join (t : Terminal) : (e : Expr) → (e.join picks).edge t = e.edge t
  | .methodCall receiver name args x => by
      obtain ⟨-, h⟩ | ⟨p, y, -, -, -, -, h⟩ := Expr.join_call picks receiver name args x
      · rw [h]
        rfl
      · rw [h]
        split <;> rfl
  | .path [] _ | .path [_] _ | .path (_ :: _ :: _) _ => rfl
  | .cond _ _ no _ => elseEdge_join t no
  | .ret none _ | .range _ none _ | .field _ _ _ => rfl
  | .ret (some value) _ => congrArg₂ or (value.edge_join t) (by rw [value.rank_join])
  | .range _ (some upper) _ => congrArg₂ or (upper.edge_join t) (by rw [upper.rank_join])
  | .unary _ operand _ => congrArg₂ or (operand.edge_join t) (by rw [operand.rank_join])
  | .binary _ _ right _ => congrArg₂ or (right.edge_join t) (by rw [right.rank_join])
  | .closure _ _ body _ => congrArg₂ or (body.edge_join t) (by rw [body.rank_join])
  | .int _ | .float _ | .string _ | .bool _ _ | .macroCall _ _ _ | .paren _ _ | .tuple _ _
  | .array _ _ | .block _ | .whileLoop _ _ _ | .loop _ _ | .forLoop _ _ _ _ | .brk _ | .cont _
  | .call _ _ _ | .index _ _ _ => rfl

theorem elseEdge_join (t : Terminal) : (o : Option Expr) →
    elseEdge t (joinOption picks o) = elseEdge t o
  | none => rfl
  | some no => no.edge_join t

end

@[simp] theorem Expr.opens_join (k : Nat) (e : Expr) (t : Terminal) :
    (e.join picks).opens k t = e.opens k t := by
  rw [opens, opens, e.edge_join, e.rank_join]

theorem EndsBefore.join {e : Expr} {ws ws' : List Lexeme} (h : EndsBefore e ws)
    (hhead : ws'.head?.map Lexeme.word = ws.head?.map Lexeme.word) :
    EndsBefore (e.join picks) ws' := by
  intro v hv
  rw [e.opens_join]
  rw [Option.mem_def.mp hv, Option.map_some] at hhead
  obtain ⟨w, hw, hword⟩ := Option.map_eq_some_iff.mp hhead.symm
  obtain ⟨ht, -, -⟩ := Word.mk.inj hword
  rw [← ht]
  exact h w hw

end

end Surface

end ChainLint
