import ChainLint.Text.Quoted

namespace ChainLint

inductive Json where
  | null
  | number (n : Int)
  | string (s : String)
  | array (items : List Json)
  | object (fields : List (String × Json))

namespace Json

def escapeChar (c : Char) : List Char :=
  let n := c.toNat
  if c = '"' then ['\\', '"']
  else if c = '\\' then ['\\', '\\']
  else if c = '\n' then ['\\', 'n']
  else if c = '\r' then ['\\', 'r']
  else if c = '\t' then ['\\', 't']
  else if c = '\x0c' then ['\\', 'f']
  else if c = '\x08' then ['\\', 'b']
  else if 0x20 ≤ n && n < 0x7F then [c]
  else if n < 0x10000 then '\\' :: 'u' :: Quoted.hex 4 n
  else
    let m := n - 0x10000
    '\\' :: 'u' :: Quoted.hex 4 (0xD800 + m / 0x400) ++
      '\\' :: 'u' :: Quoted.hex 4 (0xDC00 + m % 0x400)

def renderString (s : String) : List Char :=
  '"' :: s.toList.flatMap escapeChar ++ ['"']

mutual

def render : Json → List Char
  | .null => "null".toList
  | .number n => (toString n).toList
  | .string s => renderString s
  | .array items => '[' :: renderItems items ++ [']']
  | .object fields => '\x7b' :: renderFields fields ++ ['\x7d']

def renderItems : List Json → List Char
  | [] => []
  | [j] => render j
  | j :: js => render j ++ ", ".toList ++ renderItems js

def renderFields : List (String × Json) → List Char
  | [] => []
  | [(k, j)] => renderString k ++ ": ".toList ++ render j
  | (k, j) :: fs => renderString k ++ ": ".toList ++ render j ++ ", ".toList ++ renderFields fs

end

end Json

end ChainLint
