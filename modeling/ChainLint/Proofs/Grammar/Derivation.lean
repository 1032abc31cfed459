import ChainLint.Proofs.Grammar.Edge
import ChainLint.Proofs.Grammar.Reading

namespace ChainLint.Surface

inductive SpellsSegments : List Token → List Lexeme → Prop where
  | nil : SpellsSegments [] []
  | cons {sep t : Token} {ts : List Token} {ws : List Lexeme} (hsep : sep.terminal = .pathSep)
      (ht : t.terminal = .name) (hts : SpellsSegments ts ws) :
      SpellsSegments (t :: ts) (⟨sep, .nameOnly⟩ :: ⟨t, .afterSegment⟩ :: ws)

inductive PatPhrase where
  | one (p : Pat)
  | elems (ps : List Pat) (stop : Position)

inductive SpellsPat : PatPhrase → List Lexeme → Prop where
  | binding {t : Token} (ht : t.terminal = .name) :
      SpellsPat (.one (.binding false t (.ofToken t))) [⟨t, .afterPattern⟩]
  | mutBinding {m t : Token} (hm : m.terminal = .mutWord) (ht : t.terminal = .name) :
      SpellsPat (.one (.binding true t ⟨m.start, t.stop⟩))
        [⟨m, .nameOnly⟩, ⟨t, .afterPattern⟩]
  | wild {t : Token} (ht : t.terminal = .underscore) :
      SpellsPat (.one (.wild (.ofToken t))) [⟨t, .afterPattern⟩]
  | tuple {opening : Token} {ps : List Pat} {stop : Position} {ws : List Lexeme}
      (ho : opening.terminal = .lparen) (hps : SpellsPat (.elems ps stop) ws) :
      SpellsPat (.one (.tuple ps ⟨opening.start, stop⟩)) (⟨opening, .patternOrClose⟩ :: ws)
  | elemsNil {closing : Token} (hc : closing.terminal = .rparen) :
      SpellsPat (.elems [] closing.stop) [⟨closing, .afterPattern⟩]
  | elemsLast {p : Pat} {closing : Token} {ws : List Lexeme} (hp : SpellsPat (.one p) ws)
      (hc : closing.terminal = .rparen) :
      SpellsPat (.elems [p] closing.stop) (ws ++ [⟨closing, .afterPattern⟩])
  | elemsCons {p : Pat} {ps : List Pat} {stop : Position} {comma : Token} {ws ws' : List Lexeme}
      (hp : SpellsPat (.one p) ws) (hc : comma.terminal = .comma)
      (hps : SpellsPat (.elems ps stop) ws') :
      SpellsPat (.elems (p :: ps) stop) (ws ++ ⟨comma, .patternOrClose⟩ :: ws')

inductive TypePhrase where
  | one (t : TypeExpr)
  | args (ts : List TypeExpr) (stop : Position)
  | elems (ts : List TypeExpr) (stop : Position)

inductive SpellsType : TypePhrase → List Lexeme → Prop where
  | name {t : Token} {ts : List Token} {ws : List Lexeme} (ht : t.terminal = .name)
      (hts : SpellsSegments ts ws) :
      SpellsType (.one (.named (t :: ts) [] ⟨t.start, Parser.lastStop t ts⟩))
        (⟨t, .afterTypeName⟩ :: ws)
  | applied {t less : Token} {ts : List Token} {args : List TypeExpr} {stop : Position}
      {ws ws' : List Lexeme} (ht : t.terminal = .name) (hts : SpellsSegments ts ws)
      (hl : less.terminal = .less) (hargs : SpellsType (.args args stop) ws') :
      SpellsType (.one (.named (t :: ts) args ⟨t.start, stop⟩))
        (⟨t, .afterTypeName⟩ :: (ws ++ ⟨less, .typeExpr⟩ :: ws'))
  | ref {amp : Token} {u : TypeExpr} {ws : List Lexeme} (ha : amp.terminal = .amp)
      (hu : SpellsType (.one u) ws) :
      SpellsType (.one (.ref false u ⟨amp.start, u.extent.stop⟩)) (⟨amp, .typeOrMut⟩ :: ws)
  | mutRef {amp m : Token} {u : TypeExpr} {ws : List Lexeme} (ha : amp.terminal = .amp)
      (hm : m.terminal = .mutWord) (hu : SpellsType (.one u) ws) :
      SpellsType (.one (.ref true u ⟨amp.start, u.extent.stop⟩))
        (⟨amp, .typeOrMut⟩ :: ⟨m, .typeExpr⟩ :: ws)
  | slice {opening closing : Token} {u : TypeExpr} {ws : List Lexeme}
      (ho : opening.terminal = .lbracket) (hu : SpellsType (.one u) ws)
      (hc : closing.terminal = .rbracket) :
      SpellsType (.one (.slice u ⟨opening.start, closing.stop⟩))
        (⟨opening, .typeExpr⟩ :: (ws ++ [⟨closing, .afterType⟩]))
  | unit {opening closing : Token} (ho : opening.terminal = .lparen)
      (hc : closing.terminal = .rparen) :
      SpellsType (.one (.unit ⟨opening.start, closing.stop⟩))
        [⟨opening, .typeOrClose⟩, ⟨closing, .afterType⟩]
  | tuple {opening comma : Token} {u : TypeExpr} {us : List TypeExpr} {stop : Position}
      {ws ws' : List Lexeme} (ho : opening.terminal = .lparen) (hu : SpellsType (.one u) ws)
      (hc : comma.terminal = .comma) (hus : SpellsType (.elems us stop) ws') :
      SpellsType (.one (.tuple (u :: us) ⟨opening.start, stop⟩))
        (⟨opening, .typeOrClose⟩ :: (ws ++ ⟨comma, .typeOrClose⟩ :: ws'))
  | argsLast {u : TypeExpr} {closing : Token} {ws : List Lexeme} (hu : SpellsType (.one u) ws)
      (hc : closing.terminal = .greater) :
      SpellsType (.args [u] closing.stop) (ws ++ [⟨closing, .afterType⟩])
  | argsCons {u : TypeExpr} {us : List TypeExpr} {stop : Position} {comma : Token}
      {ws ws' : List Lexeme} (hu : SpellsType (.one u) ws) (hc : comma.terminal = .comma)
      (hus : SpellsType (.args us stop) ws') :
      SpellsType (.args (u :: us) stop) (ws ++ ⟨comma, .typeExpr⟩ :: ws')
  | elemsNil {closing : Token} (hc : closing.terminal = .rparen) :
      SpellsType (.elems [] closing.stop) [⟨closing, .afterType⟩]
  | elemsLast {u : TypeExpr} {closing : Token} {ws : List Lexeme} (hu : SpellsType (.one u) ws)
      (hc : closing.terminal = .rparen) :
      SpellsType (.elems [u] closing.stop) (ws ++ [⟨closing, .afterType⟩])
  | elemsCons {u : TypeExpr} {us : List TypeExpr} {stop : Position} {comma : Token}
      {ws ws' : List Lexeme} (hu : SpellsType (.one u) ws) (hc : comma.terminal = .comma)
      (hus : SpellsType (.elems us stop) ws') :
      SpellsType (.elems (u :: us) stop) (ws ++ ⟨comma, .typeOrClose⟩ :: ws')

inductive SpellsDeclared : Option TypeExpr → List Lexeme → Prop where
  | none : SpellsDeclared none []
  | some {colon : Token} {u : TypeExpr} {ws : List Lexeme} (hc : colon.terminal = .colon)
      (hu : SpellsType (.one u) ws) : SpellsDeclared (some u) (⟨colon, .typeExpr⟩ :: ws)

def Param.across (p : Pat) (declared : Option TypeExpr) : Param :=
  ⟨p, declared, ⟨p.extent.start, (declared.map fun u => u.extent.stop).getD p.extent.stop⟩⟩

inductive SpellsParam : Param → List Lexeme → Prop where
  | mk {p : Pat} {o : Option TypeExpr} {ws ws' : List Lexeme} (hp : SpellsPat (.one p) ws)
      (ho : SpellsDeclared o ws') : SpellsParam (.across p o) (ws ++ ws')

inductive SpellsBars : List Param → List Lexeme → Prop where
  | last {p : Param} {closing : Token} {ws : List Lexeme} (hp : SpellsParam p ws)
      (hc : closing.terminal = .bar) : SpellsBars [p] (ws ++ [⟨closing, .expression⟩])
  | cons {p : Param} {ps : List Param} {comma : Token} {ws ws' : List Lexeme}
      (hp : SpellsParam p ws) (hc : comma.terminal = .comma) (hps : SpellsBars ps ws') :
      SpellsBars (p :: ps) (ws ++ ⟨comma, .pattern⟩ :: ws')

inductive SpellsHead : List Param → List Lexeme → Prop where
  | joined {bars : Token} (hb : bars.terminal = .orOr) : SpellsHead [] [⟨bars, .expression⟩]
  | empty {opening closing : Token} (ho : opening.terminal = .bar) (hc : closing.terminal = .bar) :
      SpellsHead [] [⟨opening, .patternOrBar⟩, ⟨closing, .expression⟩]
  | params {opening : Token} {ps : List Param} {ws : List Lexeme} (ho : opening.terminal = .bar)
      (hps : SpellsBars ps ws) : SpellsHead ps (⟨opening, .patternOrBar⟩ :: ws)

inductive SpellsMove : Bool → List Lexeme → Prop where
  | none : SpellsMove false []
  | some {word : Token} (hw : word.terminal = .moveWord) : SpellsMove true [⟨word, .closureBars⟩]

inductive SpellsPrefix : UnaryOp → List Lexeme → Prop where
  | neg {t : Token} (ht : t.terminal = .minus) : SpellsPrefix .neg [⟨t, .operand⟩]
  | not {t : Token} (ht : t.terminal = .bang) : SpellsPrefix .not [⟨t, .operand⟩]
  | deref {t : Token} (ht : t.terminal = .star) : SpellsPrefix .deref [⟨t, .operand⟩]
  | ref {t : Token} (ht : t.terminal = .amp) : SpellsPrefix .ref [⟨t, .operandOrMut⟩]
  | refMut {t m : Token} (ht : t.terminal = .amp) (hm : m.terminal = .mutWord) :
      SpellsPrefix .refMut [⟨t, .operandOrMut⟩, ⟨m, .operand⟩]

def startOf (ws : List Lexeme) : Position := (ws.head?.map fun w => w.token.start).getD .start

theorem startOf_append {ws ws' : List Lexeme} (h : ws ≠ []) : startOf (ws ++ ws') = startOf ws := by
  cases ws with
  | nil => exact absurd rfl h
  | cons w ws => rfl

theorem startOf_eq {ws : List Lexeme} {c d : Cursor} (h : Cursor.Reads ws c d) (hne : ws ≠ []) :
    startOf ws = c.token.start := by
  cases ws with
  | nil => exact absurd rfl hne
  | cons w ws => rw [startOf, h.head]; rfl

inductive Phrase where
  | expr (e : Expr)
  | args (close : Terminal) (es : List Expr) (stop : Position)
  | block (b : Block)
  | items (is : List Item)
  | letItem (i : Item)
  | init (o : Option Expr)

def EndsBefore (e : Expr) (ws : List Lexeme) : Prop :=
  ∀ w ∈ ws.head?, e.opens 0 w.terminal = false ∧ w.terminal ≠ .semi

inductive Spells : Phrase → List Lexeme → Prop where
  | int {t : Token} (ht : t.terminal = .int) : Spells (.expr (.int t)) [⟨t, .afterOperand⟩]
  | float {t : Token} (ht : t.terminal = .float) : Spells (.expr (.float t)) [⟨t, .afterOperand⟩]
  | string {t : Token} (ht : t.terminal = .string) :
      Spells (.expr (.string t)) [⟨t, .afterOperand⟩]
  | true {t : Token} (ht : t.terminal = .trueWord) :
      Spells (.expr (.bool true t)) [⟨t, .afterOperand⟩]
  | false {t : Token} (ht : t.terminal = .falseWord) :
      Spells (.expr (.bool false t)) [⟨t, .afterOperand⟩]
  | path {t : Token} {ts : List Token} {ws : List Lexeme} (ht : t.terminal = .name)
      (hts : SpellsSegments ts ws) :
      Spells (.expr (.path (t :: ts) ⟨t.start, Parser.lastStop t ts⟩)) (⟨t, .afterName⟩ :: ws)
  | bracketMacro {t bang opening : Token} {es : List Expr} {stop : Position} {ws : List Lexeme}
      (ht : t.terminal = .name) (hb : bang.terminal = .bang) (ho : opening.terminal = .lbracket)
      (hes : Spells (.args .rbracket es stop) ws) :
      Spells (.expr (.macroCall t es ⟨t.start, stop⟩))
        (⟨t, .afterName⟩ :: ⟨bang, .macroOpen⟩ :: ⟨opening, .expressionOrBracket⟩ :: ws)
  | macroCall {t bang opening : Token} {es : List Expr} {stop : Position} {ws : List Lexeme}
      (ht : t.terminal = .name) (hb : bang.terminal = .bang) (ho : opening.terminal = .lparen)
      (hes : Spells (.args .rparen es stop) ws) :
      Spells (.expr (.macroCall t es ⟨t.start, stop⟩))
        (⟨t, .afterName⟩ :: ⟨bang, .macroOpen⟩ :: ⟨opening, .expressionOrParen⟩ :: ws)
  | paren {opening closing : Token} {e : Expr} {ws : List Lexeme} (ho : opening.terminal = .lparen)
      (he : Spells (.expr e) ws) (hc : closing.terminal = .rparen) :
      Spells (.expr (.paren e ⟨opening.start, closing.stop⟩))
        (⟨opening, .expression⟩ :: (ws ++ [⟨closing, .afterOperand⟩]))
  | tuple {opening comma : Token} {e : Expr} {es : List Expr} {stop : Position}
      {ws ws' : List Lexeme} (ho : opening.terminal = .lparen) (he : Spells (.expr e) ws)
      (hc : comma.terminal = .comma) (hes : Spells (.args .rparen es stop) ws') :
      Spells (.expr (.tuple (e :: es) ⟨opening.start, stop⟩))
        (⟨opening, .expression⟩ :: (ws ++ ⟨comma, .expressionOrParen⟩ :: ws'))
  | array {opening : Token} {es : List Expr} {stop : Position} {ws : List Lexeme}
      (ho : opening.terminal = .lbracket) (hes : Spells (.args .rbracket es stop) ws) :
      Spells (.expr (.array es ⟨opening.start, stop⟩)) (⟨opening, .expressionOrBracket⟩ :: ws)
  | block {b : Block} {ws : List Lexeme} (hb : Spells (.block b) ws) :
      Spells (.expr (.block b)) ws
  | cond {word : Token} {test : Expr} {yes : Block} {ws ws' : List Lexeme}
      (hw : word.terminal = .ifWord) (htest : Spells (.expr test) ws)
      (hedge : test.edge .lbrace = false) (hyes : Spells (.block yes) ws') :
      Spells (.expr (.cond test yes none ⟨word.start, yes.extent.stop⟩))
        (⟨word, .expression⟩ :: (ws ++ ws'))
  | condElse {word other : Token} {test : Expr} {yes no : Block} {ws ws' ws'' : List Lexeme}
      (hw : word.terminal = .ifWord) (htest : Spells (.expr test) ws)
      (hedge : test.edge .lbrace = false) (hyes : Spells (.block yes) ws')
      (ho : other.terminal = .elseWord) (hno : Spells (.block no) ws'') :
      Spells (.expr (.cond test yes (some (.block no)) ⟨word.start, no.extent.stop⟩))
        (⟨word, .expression⟩ :: (ws ++ (ws' ++ ⟨other, .elseBranch⟩ :: ws'')))
  | condElseIf {word other word' : Token} {test test' : Expr} {yes yes' : Block}
      {no' : Option Expr} {x : Extent} {ws ws' ws'' : List Lexeme}
      (hw : word.terminal = .ifWord) (htest : Spells (.expr test) ws)
      (hedge : test.edge .lbrace = false) (hyes : Spells (.block yes) ws')
      (ho : other.terminal = .elseWord) (hw' : word'.terminal = .ifWord)
      (hno : Spells (.expr (.cond test' yes' no' x)) (⟨word', .expression⟩ :: ws'')) :
      Spells (.expr (.cond test yes (some (.cond test' yes' no' x)) ⟨word.start, x.stop⟩))
        (⟨word, .expression⟩ ::
          (ws ++ (ws' ++ ⟨other, .elseBranch⟩ :: ⟨word', .expression⟩ :: ws'')))
  | whileLoop {word : Token} {test : Expr} {body : Block} {ws ws' : List Lexeme}
      (hw : word.terminal = .whileWord) (htest : Spells (.expr test) ws)
      (hedge : test.edge .lbrace = false) (hbody : Spells (.block body) ws') :
      Spells (.expr (.whileLoop test body ⟨word.start, body.extent.stop⟩))
        (⟨word, .expression⟩ :: (ws ++ ws'))
  | loop {word : Token} {body : Block} {ws : List Lexeme} (hw : word.terminal = .loopWord)
      (hbody : Spells (.block body) ws) :
      Spells (.expr (.loop body ⟨word.start, body.extent.stop⟩)) (⟨word, .bodyOnly⟩ :: ws)
  | forLoop {word inward : Token} {p : Pat} {iterable : Expr} {body : Block}
      {ws ws' ws'' : List Lexeme} (hw : word.terminal = .forWord) (hp : SpellsPat (.one p) ws)
      (hi : inward.terminal = .inWord) (hiter : Spells (.expr iterable) ws')
      (hedge : iterable.edge .lbrace = false) (hbody : Spells (.block body) ws'') :
      Spells (.expr (.forLoop p iterable body ⟨word.start, body.extent.stop⟩))
        (⟨word, .pattern⟩ :: (ws ++ ⟨inward, .expression⟩ :: (ws' ++ ws'')))
  | retNone {word : Token} (hw : word.terminal = .returnWord) :
      Spells (.expr (.ret none (.ofToken word))) [⟨word, .afterOperand⟩]
  | ret {word : Token} {value : Expr} {ws : List Lexeme} (hw : word.terminal = .returnWord)
      (hv : Spells (.expr value) ws) :
      Spells (.expr (.ret (some value) ⟨word.start, value.extent.stop⟩))
        (⟨word, .afterOperand⟩ :: ws)
  | brk {word : Token} (hw : word.terminal = .breakWord) :
      Spells (.expr (.brk (.ofToken word))) [⟨word, .afterOperand⟩]
  | cont {word : Token} (hw : word.terminal = .continueWord) :
      Spells (.expr (.cont (.ofToken word))) [⟨word, .afterOperand⟩]
  | unary {op : UnaryOp} {e : Expr} {ws ws' : List Lexeme} (hop : SpellsPrefix op ws)
      (he : Spells (.expr e) ws') (hr : 6 ≤ e.rank) :
      Spells (.expr (.unary op e ⟨startOf ws, e.extent.stop⟩)) (ws ++ ws')
  | binary {op : BinaryOp} {t : Token} {left right : Expr} {ws ws' : List Lexeme}
      (hop : op.level.operator? t.terminal = some op) (hl : Spells (.expr left) ws)
      (hlr : op.level.rank < left.rank ∨ op.level.rank = left.rank ∧ op.level.chains = true)
      (hedge : left.edge t.terminal = false) (hr : Spells (.expr right) ws')
      (hrr : op.level.rank < right.rank) :
      Spells (.expr (.binary op left right ⟨left.extent.start, right.extent.stop⟩))
        (ws ++ ⟨t, .operand⟩ :: ws')
  | rangeAll {dots : Token} (hd : dots.terminal = .dotDot) :
      Spells (.expr (.range none none (.ofToken dots))) [⟨dots, .afterOperand⟩]
  | rangeTo {dots : Token} {upper : Expr} {ws : List Lexeme} (hd : dots.terminal = .dotDot)
      (hu : Spells (.expr upper) ws) (hur : 1 ≤ upper.rank) :
      Spells (.expr (.range none (some upper) ⟨dots.start, upper.extent.stop⟩))
        (⟨dots, .afterOperand⟩ :: ws)
  | rangeFrom {dots : Token} {lower : Expr} {ws : List Lexeme} (hd : dots.terminal = .dotDot)
      (hl : Spells (.expr lower) ws) (hlr : 1 ≤ lower.rank) (hedge : lower.edge .dotDot = false) :
      Spells (.expr (.range (some lower) none ⟨lower.extent.start, dots.stop⟩))
        (ws ++ [⟨dots, .afterOperand⟩])
  | range {dots : Token} {lower upper : Expr} {ws ws' : List Lexeme} (hd : dots.terminal = .dotDot)
      (hl : Spells (.expr lower) ws) (hlr : 1 ≤ lower.rank) (hedge : lower.edge .dotDot = false)
      (hu : Spells (.expr upper) ws') (hur : 1 ≤ upper.rank) :
      Spells (.expr (.range (some lower) (some upper) ⟨lower.extent.start, upper.extent.stop⟩))
        (ws ++ ⟨dots, .afterOperand⟩ :: ws')
  | call {opening : Token} {callee : Expr} {es : List Expr} {stop : Position} {ws ws' : List Lexeme}
      (hf : Spells (.expr callee) ws) (hr : callee.rank = 7) (hedge : callee.edge .lparen = false)
      (ho : opening.terminal = .lparen) (hes : Spells (.args .rparen es stop) ws') :
      Spells (.expr (.call callee es ⟨callee.extent.start, stop⟩))
        (ws ++ ⟨opening, .expressionOrParen⟩ :: ws')
  | methodCall {dot name opening : Token} {receiver : Expr} {es : List Expr} {stop : Position}
      {ws ws' : List Lexeme} (hf : Spells (.expr receiver) ws) (hr : receiver.rank = 7)
      (hedge : receiver.edge .dot = false) (hd : dot.terminal = .dot)
      (hn : name.terminal = .name) (ho : opening.terminal = .lparen)
      (hes : Spells (.args .rparen es stop) ws') :
      Spells (.expr (.methodCall receiver name es ⟨receiver.extent.start, stop⟩))
        (ws ++ ⟨dot, .memberName⟩ :: ⟨name, .afterOperand⟩ :: ⟨opening, .expressionOrParen⟩ :: ws')
  | field {dot name : Token} {subject : Expr} {ws : List Lexeme} (hf : Spells (.expr subject) ws)
      (hr : subject.rank = 7) (hedge : subject.edge .dot = false) (hd : dot.terminal = .dot)
      (hn : name.terminal = .name ∨ name.terminal = .int) :
      Spells (.expr (.field subject name ⟨subject.extent.start, name.stop⟩))
        (ws ++ [⟨dot, .memberName⟩, ⟨name, .afterOperand⟩])
  | index {opening closing : Token} {subject position : Expr} {ws ws' : List Lexeme}
      (hf : Spells (.expr subject) ws) (hr : subject.rank = 7)
      (hedge : subject.edge .lbracket = false) (ho : opening.terminal = .lbracket)
      (hp : Spells (.expr position) ws') (hc : closing.terminal = .rbracket) :
      Spells (.expr (.index subject position ⟨subject.extent.start, closing.stop⟩))
        (ws ++ ⟨opening, .expression⟩ :: (ws' ++ [⟨closing, .afterOperand⟩]))
  | closure {isMove : Bool} {ps : List Param} {body : Expr} {ws ws' ws'' : List Lexeme}
      (hm : SpellsMove isMove ws) (hh : SpellsHead ps ws') (hb : Spells (.expr body) ws'') :
      Spells (.expr (.closure isMove ps body ⟨startOf (ws ++ ws'), body.extent.stop⟩))
        (ws ++ (ws' ++ ws''))
  | argsNil {close : Terminal} {closing : Token} (hc : closing.terminal = close) :
      Spells (.args close [] closing.stop) [⟨closing, .afterOperand⟩]
  | argsLast {close : Terminal} {closing : Token} {e : Expr} {ws : List Lexeme}
      (he : Spells (.expr e) ws) (hc : closing.terminal = close) :
      Spells (.args close [e] closing.stop) (ws ++ [⟨closing, .afterOperand⟩])
  | argsCons {close : Terminal} {comma : Token} {e : Expr} {es : List Expr} {stop : Position}
      {ws ws' : List Lexeme} (he : Spells (.expr e) ws) (hc : comma.terminal = .comma)
      (hes : Spells (.args close es stop) ws') :
      Spells (.args close (e :: es) stop) (ws ++ ⟨comma, .expressionOrClose⟩ :: ws')
  | mkBlock {opening closing : Token} {is : List Item} {ws : List Lexeme}
      (ho : opening.terminal = .lbrace) (his : Spells (.items is) ws)
      (hc : closing.terminal = .rbrace) :
      Spells (.block (.mk is ⟨opening.start, closing.stop⟩))
        (⟨opening, .statement⟩ :: (ws ++ [⟨closing, .afterBlock⟩]))
  | itemsNil : Spells (.items []) []
  | itemsEmpty {semi : Token} {is : List Item} {ws : List Lexeme} (hs : semi.terminal = .semi)
      (his : Spells (.items is) ws) :
      Spells (.items (.empty (.ofToken semi) :: is)) (⟨semi, .statement⟩ :: ws)
  | itemsLet {i : Item} {is : List Item} {ws ws' : List Lexeme} (hi : Spells (.letItem i) ws)
      (his : Spells (.items is) ws') : Spells (.items (i :: is)) (ws ++ ws')
  | itemsSemi {semi : Token} {e : Expr} {is : List Item} {ws ws' : List Lexeme}
      (he : Spells (.expr e) ws) (hs : semi.terminal = .semi) (his : Spells (.items is) ws') :
      Spells (.items (.exprItem e true ⟨e.extent.start, semi.stop⟩ :: is))
        (ws ++ ⟨semi, .statement⟩ :: ws')
  | itemsExpr {e : Expr} {is : List Item} {ws ws' : List Lexeme} (he : Spells (.expr e) ws)
      (hend : EndsBefore e ws') (his : Spells (.items is) ws') :
      Spells (.items (.exprItem e false e.extent :: is)) (ws ++ ws')
  | letItem {word semi : Token} {p : Pat} {declared : Option TypeExpr} {value : Option Expr}
      {ws ws' ws'' : List Lexeme} (hw : word.terminal = .letWord) (hp : SpellsPat (.one p) ws)
      (hd : SpellsDeclared declared ws') (hv : Spells (.init value) ws'')
      (hs : semi.terminal = .semi) :
      Spells (.letItem (.letItem p declared value ⟨word.start, semi.stop⟩))
        (⟨word, .pattern⟩ :: (ws ++ (ws' ++ (ws'' ++ [⟨semi, .statement⟩]))))
  | initNone : Spells (.init none) []
  | init {equals : Token} {e : Expr} {ws : List Lexeme} (hq : equals.terminal = .equals)
      (he : Spells (.expr e) ws) : Spells (.init (some e)) (⟨equals, .expression⟩ :: ws)

inductive SpellsParams : List Param → List Lexeme → Prop where
  | nil {closing : Token} (hc : closing.terminal = .rparen) :
      SpellsParams [] [⟨closing, .arrowOrBody⟩]
  | last {p : Param} {closing : Token} {ws : List Lexeme} (hp : SpellsParam p ws)
      (hd : p.declared.isSome = true) (hc : closing.terminal = .rparen) :
      SpellsParams [p] (ws ++ [⟨closing, .arrowOrBody⟩])
  | cons {p : Param} {ps : List Param} {comma : Token} {ws ws' : List Lexeme}
      (hp : SpellsParam p ws) (hd : p.declared.isSome = true) (hc : comma.terminal = .comma)
      (hps : SpellsParams ps ws') : SpellsParams (p :: ps) (ws ++ ⟨comma, .patternOrClose⟩ :: ws')

inductive SpellsResult : Option TypeExpr → List Lexeme → Prop where
  | none : SpellsResult none []
  | some {arrow : Token} {u : TypeExpr} {ws : List Lexeme} (ha : arrow.terminal = .arrow)
      (hu : SpellsType (.one u) ws) : SpellsResult (some u) (⟨arrow, .typeExpr⟩ :: ws)

inductive SpellsFunction : Function → List Lexeme → Prop where
  | mk {word name opening : Token} {ps : List Param} {result : Option TypeExpr} {body : Block}
      {ws ws' ws'' : List Lexeme} (hw : word.terminal = .fnWord) (hn : name.terminal = .name)
      (ho : opening.terminal = .lparen) (hps : SpellsParams ps ws) (hr : SpellsResult result ws')
      (hb : Spells (.block body) ws'') :
      SpellsFunction ⟨name, ps, result, body, ⟨word.start, body.extent.stop⟩⟩
        (⟨word, .nameOnly⟩ :: ⟨name, .openParen⟩ :: ⟨opening, .patternOrClose⟩ ::
          (ws ++ (ws' ++ ws'')))

inductive SpellsFunctions : List Function → List Lexeme → Prop where
  | nil : SpellsFunctions [] []
  | cons {f : Function} {fs : List Function} {ws ws' : List Lexeme} (hf : SpellsFunction f ws)
      (hfs : SpellsFunctions fs ws') : SpellsFunctions (f :: fs) (ws ++ ws')

end ChainLint.Surface
