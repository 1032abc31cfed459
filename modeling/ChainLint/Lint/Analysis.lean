import ChainLint.Lint.Level
import ChainLint.Source.Sources
import ChainLint.Tree.Number
import ChainLint.Tree.Preorder
import ChainLint.Tree.Scope
import ChainLint.Ty.Infer

namespace ChainLint

open ChainLint.Tree

structure Analysis where
  module : Module
  entries : Array Entry
  typing : Typing

namespace Analysis

def ofModule (m : Module) : Analysis :=
  let m := (m.number 1).1.resolve
  ⟨m, m.entries.toArray, .ofModule m⟩

def entry? (a : Analysis) (id : NodeId) : Option Entry :=
  if 0 < id then a.entries[(id - 1).toNat]? else none

def node? (a : Analysis) (id : NodeId) : Option Node := (a.entry? id).map Entry.node

def body? (a : Analysis) (e : Entry) : Option Node := e.body.bind a.node?

def typeOf (a : Analysis) (n : Node) : Ty := (a.typing.exprType? n.id).getD .unknown

def usedBinding? : Node → Option NodeId
  | .expr (.var _ _ binding) => binding
  | _ => none

def usedBindings (n : Node) : List NodeId := n.preorder.filterMap usedBinding?

def hasUseBefore (body : Node) (bindings : List NodeId) (lo : Int) : Bool :=
  body.preorder.any fun n =>
    n.span.lo < lo && (usedBinding? n).any bindings.contains

end Analysis

end ChainLint
