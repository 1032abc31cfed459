import ChainLint.Text.CharName.Africa
import ChainLint.Text.CharName.Alias
import ChainLint.Text.CharName.America
import ChainLint.Text.CharName.Ancient
import ChainLint.Text.CharName.EastAsia
import ChainLint.Text.CharName.Europe
import ChainLint.Text.CharName.Hangul
import ChainLint.Text.CharName.Ideograph
import ChainLint.Text.CharName.NearEast
import ChainLint.Text.CharName.Pictures
import ChainLint.Text.CharName.SouthAsia
import ChainLint.Text.CharName.SoutheastAsia
import ChainLint.Text.CharName.Symbols
import ChainLint.Text.CharName.Transcription

namespace ChainLint.CharName

def tables : List (List Row) :=
  [europe, nearEast, africa, southAsia, southeastAsia, eastAsia, america, ancient, symbols,
    transcription, pictures, aliases]

def listed? (name : List Char) : Option Nat :=
  match series.findSome? fun s => s.code? name with
  | some code => some code
  | none => tables.findSome? fun rows => rows.findSome? fun r => r.code? name

def code? (name : List Char) : Option Nat :=
  match afterLead? "HANGUL SYLLABLE " name with
  | some rest => syllable? rest
  | none =>
      if (afterLead? unified.lead name).isSome then unified.code? name
      else listed? (name.map Char.toUpper)

end ChainLint.CharName
