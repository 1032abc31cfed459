import ChainLint.Proofs.Tree.Scoping
import ChainLint.Ty.Infer

namespace ChainLint

open Tree

namespace CallRule

def after (callee : Option Expected) (rule : CallRule) : CallRule :=
  ⟨callee :: rule.first, rule.others, fun tys => rule.result tys.tail⟩

end CallRule

namespace Infer

def paramTypes : List Param → List Ty → List Ty
  | [], _ => []
  | p :: ps, hints =>
      (match p.declared with
        | some t => Ty.ofExpr t
        | none => hints.headD .unknown) :: paramTypes ps hints.tail

theorem length_paramTypes (ps : List Param) (hints : List Ty) :
    (paramTypes ps hints).length = ps.length := by
  induction ps generalizing hints with
  | nil => rfl
  | cons p ps ih => rw [paramTypes, List.length_cons, List.length_cons, ih]

theorem length_partTypes (ty : Ty) (n : Nat) : (partTypes ty n).length = n := by
  unfold partTypes
  split
  · split
    · assumption
    · exact List.length_replicate
  · exact List.length_replicate

def toBind (tys : List Ty) : List (Option Expected) := tys.map fun t => some (.type t)

def exprRule (τ : Typing) (x : Expected) (parts : List Ty) : Expr → CallRule
  | .int _ _ suffix => .free (intType suffix x)
  | .float _ _ suffix => .free (floatType suffix)
  | .string .. => .free (.ref false .str)
  | .bool .. => .free (.scalar .bool)
  | .var _ name binding => .free (varType τ name binding x)
  | .call _ callee args =>
      match pathRule? callee args.length x with
      | some rule => rule.after none
      | none => (CallRule.ofCallee (parts.headD .unknown)).after (some .nothing)
  | .methodCall _ _ name _ args =>
      (CallRule.ofMethod (parts.headD .unknown).peel name args.length).after (some .nothing)
  | .field _ _ name => ⟨[], some .nothing, fun tys => fieldType (tys.headD .unknown).peel name⟩
  | .index .. => ⟨[], some .nothing, fun tys =>
      indexType (tys.headD .unknown).peel (tys.tail.headD .unknown)⟩
  | .unary _ op _ => ⟨[], some .nothing, fun tys => unaryType op (tys.headD .unknown)⟩
  | .binary _ op _ _ => ⟨[some .nothing], some (.type (parts.headD .unknown)), fun tys =>
      if op.isLogical then .scalar .bool else tys.headD .unknown⟩
  | .range .. => ⟨[], some .nothing, fun tys => .range (tys.headD .unknown)⟩
  | .array .. => ⟨[], some .nothing, fun tys => .array (tys.headD .unknown)⟩
  | .tuple _ elems => ⟨elemHints x elems.length, some .nothing, .ofElems⟩
  | .closure _ ps _ _ =>
      let tys := paramTypes ps x.params
      ⟨toBind tys, some .nothing, fun parts =>
        .closure tys ((parts.drop tys.length).headD .unknown)⟩
  | .macroCall _ name _ => ⟨[], some .nothing, CallRule.macroResult name⟩
  | .block .. => ⟨[], some x.forValue, fun tys => tys.headD .unknown⟩
  | .cond _ _ _ no => ⟨[some .nothing, some x.forValue], some (.type (parts.tail.headD .unknown)),
      fun tys => if no.isSome then tys.tail.headD .unknown else .unit⟩
  | .whileLoop .. => .free .unit
  | .loop .. => .free .unknown
  | .forLoop .. =>
      ⟨[some (.type (iteratedType (parts.tail.headD .unknown)))], some .nothing, fun _ => .unit⟩
  | .ret .. | .brk _ | .cont _ => .free .unknown

def stmtRule (parts : List Ty) : Stmt → CallRule
  | .expr .. => .free .unit
  | .letIn _ _ declared _ =>
      let declared := declared.map Ty.ofExpr
      let hint := match declared with
        | some t => Expected.type t
        | none => .nothing
      ⟨[some (.type (declared.getD (parts.tail.headD .unknown)))], some hint, fun _ => .unit⟩

def patRule (ty : Ty) : Pat → CallRule
  | .tuple _ elems => ⟨toBind (partTypes ty elems.length), some .nothing, fun _ => ty⟩
  | _ => .free ty

def rule (τ : Typing) (x : Expected) (parts : List Ty) : Node → CallRule
  | .module _ => .free .unit
  | .function f =>
      ⟨toBind (f.params.map fun p => Ty.declared p.declared), some .nothing, fun _ => .unit⟩
  | .param _ => ⟨[], some x, fun _ => x.type?.getD .unknown⟩
  | .pat p => patRule (x.type?.getD .unknown) p
  | .block _ => ⟨[], some x, fun tys => tys.getLastD .unit⟩
  | .stmt s => stmtRule parts s
  | .expr e => exprRule τ x parts e

def Says (τ : Typing) (x : Expected) (parts : List Ty) (ty : Ty) : Node → Prop
  | .expr (.var _ _ (some b)) => (b, ty) ∈ τ.bindings
  | n => ty = (rule τ x parts n).result parts

def Noted (τ : Typing) (ty : Ty) : Node → Prop
  | .expr e => (e.info.id, ty) ∈ τ.exprs
  | .pat (.binding i _ _) => (i.id, ty) ∈ τ.bindings
  | _ => True

def noted : Node → List Node
  | .expr e => [.expr e]
  | .pat (.binding i name isMut) => [.pat (.binding i name isMut)]
  | _ => []

/-- The nodes have these types where this is expected of the first and the others; of those where
nothing at all is expected the type is not asked for. The last list holds the nodes of which a type is
noted. -/
inductive Typed (τ : Typing) :
    List Node → List (Option Expected) → Option Expected → List Ty → List Node → Prop
  | nil {first : List (Option Expected)} {others : Option Expected} : Typed τ [] first others [] []
  | skip {n : Node} {ns : List Node} {first : List (Option Expected)} {others : Option Expected}
      {tys : List Ty} {vs : List Node} (hskip : first.headD others = none)
      (hlater : Typed τ ns first.tail others tys vs) :
      Typed τ (n :: ns) first others (.unknown :: tys) vs
  | cons {n : Node} {ns : List Node} {first : List (Option Expected)} {others : Option Expected}
      {x : Expected} {parts : List Ty} {ty : Ty} {tys : List Ty} {us vs : List Node}
      (hx : first.headD others = some x)
      (hparts : Typed τ n.children (rule τ x parts n).first (rule τ x parts n).others parts us)
      (hsaid : Says τ x parts ty n) (hnoted : Noted τ ty n)
      (hlater : Typed τ ns first.tail others tys vs) :
      Typed τ (n :: ns) first others (ty :: tys) (us ++ noted n ++ vs)

structure Judged (τ : Typing) (n : Node) (x : Expected) (ty : Ty) (vs : List Node) : Prop where
  exists_parts : ∃ parts us, Typed τ n.children (rule τ x parts n).first (rule τ x parts n).others
    parts us ∧ Says τ x parts ty n ∧ vs = us ++ noted n
  noted : Noted τ ty n

namespace Typed

variable {τ : Typing} {n : Node} {ns ms : List Node} {first : List (Option Expected)}
  {others : Option Expected} {x : Expected} {ty : Ty} {tys tys' : List Ty} {us vs : List Node}

theorem of_judged (hx : first.headD others = some x) (h : Judged τ n x ty us)
    (hlater : Typed τ ns first.tail others tys vs) :
    Typed τ (n :: ns) first others (ty :: tys) (us ++ vs) := by
  obtain ⟨⟨parts, us, hparts, hsaid, rfl⟩, hnoted⟩ := h
  exact .cons hx hparts hsaid hnoted hlater

theorem one (hx : first.headD others = some x) (h : Judged τ n x ty us) :
    Typed τ [n] first others [ty] us := by
  have hone := of_judged hx h .nil
  rwa [List.append_nil] at hone

theorem append (h : Typed τ ns first others tys us)
    (h' : Typed τ ms (first.drop ns.length) others tys' vs) :
    Typed τ (ns ++ ms) first others (tys ++ tys') (us ++ vs) := by
  induction h with
  | nil => exact h'
  | skip hskip _ ih =>
      refine .skip hskip (ih ?_)
      rwa [List.drop_tail]
  | cons hx hparts hsaid hnoted _ _ ih =>
      have hlater := ih (by rwa [List.drop_tail])
      rw [List.append_assoc]
      exact .cons hx hparts hsaid hnoted hlater

theorem concat (h : Typed τ ns first (some x) tys us) (hdrop : first.drop ns.length = [])
    (hn : Judged τ n x ty vs) : Typed τ (ns ++ [n]) first (some x) (tys ++ [ty]) (us ++ vs) := by
  refine h.append ?_
  rw [hdrop]
  exact .one rfl hn

end Typed

end Infer

end ChainLint
