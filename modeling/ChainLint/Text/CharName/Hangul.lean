import ChainLint.Text.CharName.Lead

namespace ChainLint.CharName

def initials : List String :=
  ["G", "GG", "N", "D", "DD", "R", "M", "B", "BB", "S", "SS", "", "J", "JJ", "C", "K", "T", "P",
    "H"]

def vowels : List String :=
  ["A", "AE", "YA", "YAE", "EO", "E", "YEO", "YE", "O", "WA", "WAE", "OE", "YO", "U", "WEO", "WE",
    "WI", "YU", "EU", "YI", "I"]

def finals : List String :=
  ["", "G", "GG", "GS", "N", "NJ", "NH", "D", "L", "LG", "LM", "LB", "LS", "LT", "LP", "LH", "M",
    "B", "BS", "S", "SS", "NG", "J", "C", "K", "T", "P", "H"]

def letter? (letters : List String) (text : List Char) : Option (Nat × List Char) :=
  letters.zipIdx.foldl (fun best (letter, place) =>
    match afterLead? letter text, best with
    | none, _ => best
    | some rest, none => some (place, rest)
    | some rest, some b => if rest.length < b.2.length then some (place, rest) else best) none

def syllable? (text : List Char) : Option Nat :=
  match letter? initials text with
  | none => none
  | some (l, text) =>
      match letter? vowels text with
      | none => none
      | some (v, text) =>
          match letter? finals text with
          | some (t, []) => some (0xAC00 + (l * vowels.length + v) * finals.length + t)
          | _ => none

end ChainLint.CharName
