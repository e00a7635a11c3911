import CyberLegends.Lib.Strip

/-! Texts: the white space that the validation strips, and the bounds on a length. -/

namespace CyberLegends.Core

open Lib

/-- White space as Unicode has it. -/
def isWhiteSpace (c : Char) : Bool :=
  ('\t' ≤ c ∧ c ≤ '\r') ∨ c = ' ' ∨ c = '\u0085' ∨ c = '\u00a0' ∨ c = '\u1680' ∨
    ('\u2000' ≤ c ∧ c ≤ '\u200a') ∨ c = '\u2028' ∨ c = '\u2029' ∨ c = '\u202f' ∨ c = '\u205f' ∨
      c = '\u3000'

/-- The text without the white space at its ends. -/
def stripWhitespace (value : String) : String := String.ofList (strip isWhiteSpace value.toList)

@[simp] theorem toList_stripWhitespace (value : String) :
    (stripWhitespace value).toList = strip isWhiteSpace value.toList := String.toList_ofList

/-- Letters in lower case where they are plain ones. -/
def asciiLower (text : String) : String := String.ofList (text.toList.map Char.toLower)

end CyberLegends.Core
