import ChainLint.Lint.Analysis

namespace ChainLint.MapUnwrapOr

open ChainLint.Tree

def code : String := "map_unwrap_or"

def callOf? (method : String) (arity : Nat) : Expr → Option (Expr × Span × List Expr)
  | .methodCall _ receiver name nameSpan args =>
      if name = method ∧ args.length = arity then some (receiver, nameSpan, args) else none
  | _ => none

structure Chain where
  whole : Node
  receiver : Node
  mapCall : Node
  mapper : Node
  fallback : Node
  nameSpan : Span

def Chain.ofExpr? (e : Expr) : Option Chain :=
  match callOf? "unwrap_or" 1 e with
  | some (mapCall, _, [fallback]) =>
      match callOf? "map" 1 mapCall with
      | some (receiver, nameSpan, [mapper]) =>
          some ⟨.expr e, .expr receiver, .expr mapCall, .expr mapper, .expr fallback, nameSpan⟩
      | _ => none
  | _ => none

def Chain.ofNode? : Node → Option Chain
  | .expr e => Chain.ofExpr? e
  | _ => none

def namesNone : Node → Bool
  | .expr (.var _ name none) => name = "None"
  | _ => false

inductive Merge where
  | mapOr
  | andThen
  deriving DecidableEq, Repr

namespace Merge

def methodName : Merge → String
  | .mapOr => "map_or"
  | .andThen => "and_then"

def call : Merge → String
  | .mapOr => "map_or(<a>, <f>)"
  | .andThen => "and_then(<f>)"

def fallbackText : Merge → String
  | .mapOr => "<a>"
  | .andThen => "None"

def message (m : Merge) : String :=
  "called `map(<f>).unwrap_or(" ++ m.fallbackText ++ ")` on an `Option` value. " ++
    "This can be done more directly by calling `" ++ m.call ++ "` instead"

def help (m : Merge) : String := "use `" ++ m.call ++ "` instead"

end Merge

/-- The merged call evaluates the fallback first. The order of the text stands for the order in which
locals are used. -/
def canMoveForward (a : Analysis) (body : Option Node) (c : Chain) : Bool :=
  (a.typeOf c.fallback).isCopy ||
    !body.any fun b =>
      Analysis.hasUseBefore b (Analysis.usedBindings c.fallback) c.fallback.span.lo

/-- `None` can only be the fallback if mapping gives an option of an option. -/
def fallbackFits (a : Analysis) (c : Chain) : Bool :=
  !namesNone c.fallback ||
    match a.typeOf c.mapCall with
    | .option (.option _) => true
    | _ => false

def applies (a : Analysis) (body : Option Node) (c : Chain) : Bool :=
  (a.typeOf c.receiver).isOption && fallbackFits a c && canMoveForward a body c &&
    c.fallback.span.context == c.nameSpan.context

def suggestion (sources : Sources) (c : Chain) : Merge × Suggestion :=
  let (text, applicability) := sources.quote c.fallback.span "..".toList
    .machineApplicable
  let merge := if text = "None".toList then Merge.andThen else .mapOr
  let rename : Edit := ⟨c.nameSpan, merge.methodName.toList⟩
  let remove : Edit := ⟨c.whole.span.startingAt c.mapCall.span.hi, []⟩
  let insert : Edit := ⟨c.mapper.span.atStart, text ++ ", ".toList⟩
  let parts := match merge with
    | .andThen => [rename, remove]
    | .mapOr => [rename, remove, insert]
  (merge, ⟨merge.help, parts, applicability⟩)

def check (a : Analysis) (sources : Sources) (levels : LintLevels) (body : Option Node)
    (c : Chain) : Option Diagnostic :=
  if applies a body c then
    let (merge, s) := suggestion sources c
    let report (severity : Severity) : Diagnostic := {
      message := merge.message
      code := some code
      phase := .lint
      severity := severity
      span := c.whole.span
      suggestions := [s] }
    match levels.get code with
    | .allow => none
    | .warn => some (report .warning)
    | .deny => some (report .error)
  else none

def run (a : Analysis) (sources : Sources) (levels : LintLevels) : List Diagnostic :=
  a.entries.toList.filterMap fun e =>
    (Chain.ofNode? e.node).bind fun c => check a sources levels (a.body? e) c

end ChainLint.MapUnwrapOr
