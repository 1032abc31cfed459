import ChainLint.Lint.Level
import ChainLint.Text.DecimalDigit
import ChainLint.Text.Quoted

namespace ChainLint

/-- The rules for arguments have two editions, which differ on `--level=--` and on a word that goes on
after `-h`. -/
inductive Edition where
  | early
  | late
  deriving DecidableEq, Repr

inductive Switch where
  | help
  | json
  | fix
  | level
  deriving DecidableEq, Repr

namespace Switch

def all : List Switch := [.help, .json, .fix, .level]

def spelling : Switch → String
  | .help => "--help"
  | .json => "--json"
  | .fix => "--fix"
  | .level => "--level"

def label : Switch → String
  | .help => "-h/--help"
  | s => s.spelling

def startingWith (head : List Char) : List Switch :=
  all.filter fun s => head.isPrefixOf s.spelling.toList

end Switch

inductive UsageError where
  | ambiguous (word : String) (candidates : List Switch)
  | missingLevel
  | unknownLevel (given : String)
  | needlessValue (s : Switch) (value : String)
  | missingSource
  | unrecognized (words : List String)
  deriving DecidableEq, Repr

def UsageError.message : UsageError → String
  | .ambiguous word candidates =>
      "ambiguous option: " ++ word ++ " could match " ++
        ", ".intercalate (candidates.map Switch.spelling)
  | .missingLevel => "argument --level: expected one argument"
  | .unknownLevel given =>
      "argument --level: invalid choice: " ++ Quoted.encode given ++ " (choose from " ++
        ", ".intercalate (LintLevel.all.map fun l => Quoted.encode l.label) ++ ")"
  | .needlessValue s value =>
      "argument " ++ s.label ++ ": ignored explicit argument " ++ Quoted.encode value
  | .missingSource => "the following arguments are required: source"
  | .unrecognized words => "unrecognized arguments: " ++ " ".intercalate words

structure Options where
  json : Bool := false
  fix : Bool := false
  /-- None after `--level=--` in the early edition, where the two dashes are dropped and leave no
  level. -/
  level : Option LintLevel := some .warn
  sources : List String := []
  deriving DecidableEq, Repr

inductive NoOptions where
  | help
  | usage (e : UsageError)
  deriving DecidableEq, Repr

namespace Options

inductive Word where
  | separator
  | plain (text : String)
  | switch (s : Switch) (value : Option String)
  | helpLetter (tail : List Char)
  | unknown (text : String)
  deriving DecidableEq, Repr

def isNumber (cs : List Char) : Bool :=
  let whole := cs.takeWhile isDecimalDigit
  match cs.drop whole.length with
  | [] => !whole.isEmpty
  | '.' :: ds => !ds.isEmpty && ds.all isDecimalDigit
  | _ => false

def withoutLineEnd (cs : List Char) : List Char :=
  if cs.getLast? = some '\n' then cs.dropLast else cs

/-- A line feed may end the number. -/
def isNegativeNumber : List Char → Bool
  | '-' :: cs => isNumber (withoutLineEnd cs)
  | _ => false

def valueOf (cs : List Char) : Option String :=
  match cs.dropWhile (· ≠ '=') with
  | [] => none
  | _ :: value => some (String.ofList value)

def classifyOther (text : String) (cs : List Char) : Word :=
  if cs.head? ≠ some '-' || cs.length = 1 || isNegativeNumber cs || cs.contains ' ' then .plain text
  else .unknown text

/-- A switch may be cut short where no other switch begins alike. -/
def classify (text : String) : Except UsageError Word :=
  match text.toList with
  | '-' :: '-' :: cs =>
      match Switch.startingWith ('-' :: '-' :: cs.takeWhile (· ≠ '=')) with
      | [] => .ok (classifyOther text ('-' :: '-' :: cs))
      | [s] => .ok (.switch s (valueOf cs))
      | candidates => .error (.ambiguous text candidates)
  | '-' :: 'h' :: tail => .ok (.helpLetter tail)
  | cs => .ok (classifyOther text cs)

def classifyAll : List String → Except UsageError (List Word)
  | [] => .ok []
  | w :: ws =>
      if w = "--" then .ok (.separator :: ws.map .plain)
      else do return (← classify w) :: (← classifyAll ws)

namespace Word

def operand? : Word → Option String
  | .separator => some "--"
  | .plain t => some t
  | _ => none

def isPlain : Word → Bool
  | .plain _ => true
  | _ => false

end Word

structure Reading where
  options : Options := {}
  extra : List String := []

def needlessTail (cs : List Char) : NoOptions := .usage (.needlessValue .help (String.ofList cs))

def moreLetters : List Char → NoOptions
  | [] => .help
  | 'h' :: cs => moreLetters cs
  | cs => needlessTail cs

def helpTail : Edition → List Char → NoOptions
  | .early, ['='] => needlessTail []
  | .early, '=' :: cs => moreLetters cs
  | .early, cs => moreLetters cs
  | .late, '=' :: cs => needlessTail cs
  | .late, '-' :: cs => needlessTail ('-' :: cs)
  | .late, 'h' :: cs => helpTail .late cs
  | .late, _ => .help

def setLevel (edition : Edition) (r : Reading) (given : String) : Except NoOptions Reading :=
  match LintLevel.ofLabel? given with
  | some l => .ok { r with options := { r.options with level := some l } }
  | none =>
      if edition = .early ∧ given = "--" then .ok { r with options := { r.options with level := none } }
      else .error (.usage (.unknownLevel given))

def takeOperands (r : Reading) (run : List Word) : Reading :=
  let texts := run.filterMap Word.operand?
  if r.options.sources.isEmpty && run.any Word.isPlain then
    { r with options := { r.options with sources := texts.erase "--" } }
  else { r with extra := r.extra ++ texts }

/-- Reads words in order. The first argument is at least their number. -/
def read (edition : Edition) : Nat → List Word → Reading → Except NoOptions Reading
  | 0, _, r => .ok r
  | _, [], r => .ok r
  | n + 1, .unknown t :: ws, r => read edition n ws { r with extra := r.extra ++ [t] }
  | n + 1, .switch .json none :: ws, r =>
      read edition n ws { r with options := { r.options with json := true } }
  | n + 1, .switch .fix none :: ws, r =>
      read edition n ws { r with options := { r.options with fix := true } }
  | n + 1, .switch .level (some v) :: ws, r =>
      match setLevel edition r v with
      | .error e => .error e
      | .ok r => read edition n ws r
  | n + 1, .switch .level none :: .plain v :: ws, r =>
      match setLevel edition r v with
      | .error e => .error e
      | .ok r => read edition n ws r
  | _ + 1, .switch .level none :: _, _ => .error (.usage .missingLevel)
  | _ + 1, .switch .help none :: _, _ => .error .help
  | _ + 1, .switch s (some v) :: _, _ => .error (.usage (.needlessValue s v))
  | _ + 1, .helpLetter tail :: _, _ => .error (helpTail edition tail)
  | n + 1, w :: ws, r =>
      let run := (w :: ws).takeWhile fun w => w.operand?.isSome
      read edition n ((w :: ws).drop run.length) (takeOperands r run)

def Reading.finish (r : Reading) : Except NoOptions Options :=
  if r.options.sources.isEmpty then .error (.usage .missingSource)
  else if r.extra.isEmpty then .ok r.options
  else .error (.usage (.unrecognized r.extra))

def ofArgs (args : List String) (edition : Edition := .early) : Except NoOptions Options :=
  match classifyAll args with
  | .error e => .error (.usage e)
  | .ok words =>
      match read edition args.length words {} with
      | .error e => .error e
      | .ok r => r.finish

end Options

end ChainLint
