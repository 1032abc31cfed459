import ChainLint.Source.Span
import ChainLint.Token.Expectation

namespace ChainLint

structure Token where
  terminal : Terminal
  text : List Char
  start : Position
  stop : Position
  deriving DecidableEq, Repr

namespace Lexer

def isBlank (c : Char) : Bool :=
  c = ' ' || c = '\t' || c = '\n' || c = '\r' || c = '\x0c'

def isNameStart (c : Char) : Bool := c.isAlpha || c = '_'

def isNamePart (c : Char) : Bool := c.isAlphanum || c = '_'

def isNumberPart (c : Char) : Bool := c.isDigit || c = '_'

def blankRun : Bool → List Char → List Char
  | _, [] => []
  | true, c :: cs => c :: blankRun (c ≠ '\n') cs
  | false, c :: cs =>
      if isBlank c then c :: blankRun false cs
      else if c = '/' ∧ cs.head? = some '/' then c :: blankRun true cs
      else []

theorem blankRun_isPrefix (b : Bool) (cs : List Char) : blankRun b cs <+: cs := by
  induction cs generalizing b with
  | nil => cases b <;> exact List.prefix_rfl
  | cons c cs ih =>
      cases b with
      | true => exact List.cons_prefix_cons.mpr ⟨rfl, ih _⟩
      | false =>
          unfold blankRun
          split
          · exact List.cons_prefix_cons.mpr ⟨rfl, ih _⟩
          · split
            · exact List.cons_prefix_cons.mpr ⟨rfl, ih _⟩
            · exact List.nil_prefix

def name? : List Char → Option (List Char)
  | [] => none
  | c :: cs => if isNameStart c then some (c :: cs.takeWhile isNamePart) else none

theorem name?_isPrefix {cs lexeme : List Char} (h : name? cs = some lexeme) :
    lexeme ≠ [] ∧ lexeme <+: cs := by
  cases cs with
  | nil => simp [name?] at h
  | cons c cs =>
      simp only [name?] at h
      split at h
      · cases h
        exact ⟨List.cons_ne_nil _ _, List.cons_prefix_cons.mpr ⟨rfl, List.takeWhile_prefix _⟩⟩
      · cases h

def digits? : List Char → Option (List Char)
  | [] => none
  | c :: cs => if c.isDigit then some (c :: cs.takeWhile isNumberPart) else none

theorem digits?_isPrefix {cs lexeme : List Char} (h : digits? cs = some lexeme) :
    lexeme ≠ [] ∧ lexeme <+: cs := by
  cases cs with
  | nil => simp [digits?] at h
  | cons c cs =>
      simp only [digits?] at h
      split at h
      · cases h
        exact ⟨List.cons_ne_nil _ _, List.cons_prefix_cons.mpr ⟨rfl, List.takeWhile_prefix _⟩⟩
      · cases h

def intSuffixes : List (List Char) :=
  [['i', '8'], ['i', '1', '6'], ['i', '3', '2'], ['i', '6', '4'], ['i', '1', '2', '8'],
    ['i', 's', 'i', 'z', 'e'], ['u', '8'], ['u', '1', '6'], ['u', '3', '2'], ['u', '6', '4'],
    ['u', '1', '2', '8'], ['u', 's', 'i', 'z', 'e']]

def floatSuffixes : List (List Char) := [['f', '3', '2'], ['f', '6', '4']]

def suffixOf (suffixes : List (List Char)) (cs : List Char) : List Char :=
  (suffixes.find? (·.isPrefixOf cs)).getD []

theorem suffixOf_isPrefix (suffixes : List (List Char)) (cs : List Char) :
    suffixOf suffixes cs <+: cs := by
  unfold suffixOf
  cases h : suffixes.find? (·.isPrefixOf cs) with
  | none => exact List.nil_prefix
  | some s =>
      have hs := (List.find?_eq_some_iff_append.mp h).1
      exact List.isPrefixOf_iff_prefix.mp hs

theorem append_isPrefix_of_drop {a b cs : List Char} (ha : a <+: cs)
    (hb : b <+: cs.drop a.length) : a ++ b <+: cs := by
  obtain ⟨r, rfl⟩ := ha
  rw [List.drop_left] at hb
  obtain ⟨s, rfl⟩ := hb
  exact ⟨s, by simp⟩

def int? (cs : List Char) : Option (List Char) :=
  (digits? cs).map fun whole => whole ++ suffixOf intSuffixes (cs.drop whole.length)

theorem int?_isPrefix {cs lexeme : List Char} (h : int? cs = some lexeme) :
    lexeme ≠ [] ∧ lexeme <+: cs := by
  obtain ⟨whole, hw, rfl⟩ := Option.map_eq_some_iff.mp h
  obtain ⟨hne, hp⟩ := digits?_isPrefix hw
  exact ⟨by simp [hne], append_isPrefix_of_drop hp (suffixOf_isPrefix _ _)⟩

def float? (cs : List Char) : Option (List Char) :=
  match digits? cs with
  | none => none
  | some whole =>
      match cs.drop whole.length with
      | '.' :: rest =>
          (digits? rest).map fun part =>
            whole ++ '.' :: part ++ suffixOf floatSuffixes (rest.drop part.length)
      | _ => none

theorem float?_isPrefix {cs lexeme : List Char} (h : float? cs = some lexeme) :
    lexeme ≠ [] ∧ lexeme <+: cs := by
  unfold float? at h
  split at h
  · cases h
  · next whole hw =>
      obtain ⟨hne, hp⟩ := digits?_isPrefix hw
      split at h
      · next rest hr =>
          obtain ⟨part, hpart, rfl⟩ := Option.map_eq_some_iff.mp h
          refine ⟨by simp, ?_⟩
          rw [List.append_assoc]
          refine append_isPrefix_of_drop hp ?_
          rw [hr]
          exact List.cons_prefix_cons.mpr ⟨rfl,
            append_isPrefix_of_drop (digits?_isPrefix hpart).2 (suffixOf_isPrefix _ _)⟩
      · cases h

def stringBody : List Char → Option (List Char)
  | [] => none
  | '"' :: _ => some ['"']
  | ['\\'] => none
  | '\\' :: c :: cs => if c = '\n' then none else (stringBody cs).map ('\\' :: c :: ·)
  | c :: cs => (stringBody cs).map (c :: ·)

theorem stringBody_isPrefix {cs lexeme : List Char} (h : stringBody cs = some lexeme) :
    lexeme <+: cs := by
  fun_induction stringBody cs generalizing lexeme with
  | case1 => cases h
  | case2 cs => cases h; exact List.cons_prefix_cons.mpr ⟨rfl, List.nil_prefix⟩
  | case3 => cases h
  | case4 => cases h
  | case5 c cs hc ih =>
      obtain ⟨r, hr, rfl⟩ := Option.map_eq_some_iff.mp h
      exact List.cons_prefix_cons.mpr ⟨rfl, List.cons_prefix_cons.mpr ⟨rfl, ih hr⟩⟩
  | case6 c cs _ _ _ ih =>
      obtain ⟨r, hr, rfl⟩ := Option.map_eq_some_iff.mp h
      exact List.cons_prefix_cons.mpr ⟨rfl, ih hr⟩

def string? : List Char → Option (List Char)
  | '"' :: cs => (stringBody cs).map ('"' :: ·)
  | _ => none

theorem string?_isPrefix {cs lexeme : List Char} (h : string? cs = some lexeme) :
    lexeme ≠ [] ∧ lexeme <+: cs := by
  unfold string? at h
  split at h
  · obtain ⟨r, hr, rfl⟩ := Option.map_eq_some_iff.mp h
    exact ⟨List.cons_ne_nil _ _, List.cons_prefix_cons.mpr ⟨rfl, stringBody_isPrefix hr⟩⟩
  · cases h

def longest : List Terminal → Option Terminal
  | [] => none
  | t :: ts =>
      match longest ts with
      | none => some t
      | some u => if u.spelling.length ≤ t.spelling.length then some t else some u

theorem longest_mem {ts : List Terminal} {t : Terminal} (h : longest ts = some t) : t ∈ ts := by
  induction ts generalizing t with
  | nil => cases h
  | cons u us ih =>
      unfold longest at h
      split at h
      · cases h; exact List.mem_cons_self
      · next v hv =>
          split at h
          · cases h; exact List.mem_cons_self
          · cases h; exact List.mem_cons_of_mem _ (ih hv)

def fixed? (expected : List Terminal) (cs : List Char) : Option Terminal :=
  longest (expected.filter fun t => !t.spelling.isEmpty && t.spelling.isPrefixOf cs)

theorem fixed?_isPrefix {expected : List Terminal} {cs : List Char} {t : Terminal}
    (h : fixed? expected cs = some t) : t ∈ expected ∧ t.spelling ≠ [] ∧ t.spelling <+: cs := by
  have hm := longest_mem h
  simp only [List.mem_filter, Bool.and_eq_true, Bool.not_eq_true'] at hm
  exact ⟨hm.1, by simpa using hm.2.1, List.isPrefixOf_iff_prefix.mp hm.2.2⟩

def classify (expected : List Terminal) (lexeme : List Char) : Terminal :=
  let words := Terminal.words.filter fun t => expected.contains t
  (words.find? fun t => t.spelling = lexeme).getD .name

def ifExpected (expected : List Terminal) (t : Terminal) (lexeme : Option (List Char)) :
    Option (Terminal × List Char) :=
  if expected.contains t then lexeme.map ((t, ·)) else none

theorem ifExpected_eq_some {expected : List Terminal} {t u : Terminal} {o : Option (List Char)}
    {lexeme : List Char} (h : ifExpected expected t o = some (u, lexeme)) :
    t ∈ expected ∧ u = t ∧ o = some lexeme := by
  unfold ifExpected at h
  split at h
  · next ht =>
      obtain ⟨l, hl, he⟩ := Option.map_eq_some_iff.mp h
      cases he
      exact ⟨by simpa using ht, rfl, hl⟩
  · cases h

def scan (expected : List Terminal) (cs : List Char) : Option (Terminal × List Char) :=
  ifExpected expected .float (float? cs)
    <|> (ifExpected expected .name (name? cs)).map (fun m => (classify expected m.2, m.2))
    <|> ifExpected expected .int (int? cs)
    <|> ifExpected expected .string (string? cs)
    <|> (fixed? expected cs).map fun t => (t, t.spelling)

theorem scan_isPrefix {expected : List Terminal} {cs lexeme : List Char} {t : Terminal}
    (h : scan expected cs = some (t, lexeme)) : lexeme ≠ [] ∧ lexeme <+: cs := by
  simp only [scan, Option.orElse_eq_orElse, Option.orElse_eq_or, Option.or_eq_some_iff] at h
  rcases h with h | ⟨-, h | ⟨-, h | ⟨-, h | ⟨-, h⟩⟩⟩⟩
  · exact float?_isPrefix (ifExpected_eq_some h).2.2
  · obtain ⟨⟨u, l⟩, hm, he⟩ := Option.map_eq_some_iff.mp h
    cases he
    exact name?_isPrefix (ifExpected_eq_some hm).2.2
  · exact int?_isPrefix (ifExpected_eq_some h).2.2
  · exact string?_isPrefix (ifExpected_eq_some h).2.2
  · obtain ⟨u, hu, he⟩ := Option.map_eq_some_iff.mp h
    cases he
    exact (fixed?_isPrefix hu).2

end Lexer

inductive SyntaxError where
  | unexpectedEnd (place : Position)
  | unexpectedToken (text : List Char) (place : Position)
  | unexpectedChar (c : Char) (place : Position)
  deriving DecidableEq, Repr

namespace SyntaxError

def place : SyntaxError → Position
  | .unexpectedEnd p => p
  | .unexpectedToken _ p => p
  | .unexpectedChar _ p => p

def message : SyntaxError → String
  | .unexpectedEnd _ => "unexpected end of input"
  | .unexpectedToken text _ => "unexpected token '" ++ String.ofList text ++ "'"
  | .unexpectedChar c _ => "unexpected character '" ++ c.toString ++ "'"

end SyntaxError

structure Cursor where
  past : List Token
  token : Token
  rest : List Char
  deriving Repr

namespace Cursor

/-- The end of a text is reported where its last token starts. -/
def endPlace (past : List Token) : Position := (past.head?.map Token.start).getD .start

/-- Cuts the next token off a text. Where nothing expected is found, any token at all names the
error. -/
def next (expected : Expectation) (past : List Token) (place : Position) (cs : List Char) :
    Except SyntaxError Cursor :=
  let blank := Lexer.blankRun false cs
  let place := place.advance blank
  match cs.drop blank.length with
  | [] => .ok ⟨past, ⟨.eof, [], endPlace past, endPlace past⟩, []⟩
  | c :: rest =>
      match Lexer.scan expected.terminals (c :: rest) with
      | some (t, lexeme) =>
          .ok ⟨past, ⟨t, lexeme, place, place.advance lexeme⟩, (c :: rest).drop lexeme.length⟩
      | none =>
          match Lexer.scan Terminal.all (c :: rest) with
          | some (_, lexeme) => .error (.unexpectedToken lexeme place)
          | none => .error (.unexpectedChar c place)

theorem next_past {expected : Expectation} {past : List Token} {place : Position}
    {cs : List Char} {c : Cursor} (h : next expected past place cs = .ok c) : c.past = past := by
  unfold next at h
  simp only at h
  split at h
  · cases h; rfl
  · split at h
    · cases h; rfl
    · split at h <;> cases h

theorem next_text {expected : Expectation} {past : List Token} {place : Position}
    {cs : List Char} {c : Cursor} (h : next expected past place cs = .ok c) :
    Lexer.blankRun false cs ++ c.token.text ++ c.rest = cs := by
  have hb := List.prefix_iff_eq_append.mp (Lexer.blankRun_isPrefix false cs)
  unfold next at h
  simp only at h
  split at h
  · next hd =>
      cases h
      rw [hd, List.append_nil] at hb
      simpa using hb
  · next x rest hd =>
      split at h
      · next t lexeme hs =>
          cases h
          obtain ⟨-, hp⟩ := Lexer.scan_isPrefix hs
          have hl := List.prefix_iff_eq_append.mp hp
          rw [List.append_assoc]
          simp only
          rw [hl, ← hd, hb]
      · split at h <;> cases h

def ofText (cs : List Char) : Except SyntaxError Cursor := next .fileStart [] .start cs

def advance (expected : Expectation) (c : Cursor) : Except SyntaxError Cursor :=
  next expected (c.token :: c.past) c.token.stop c.rest

def unexpected (c : Cursor) : SyntaxError :=
  if c.token.terminal = .eof then .unexpectedEnd c.token.start
  else .unexpectedToken c.token.text c.token.start

end Cursor

end ChainLint
