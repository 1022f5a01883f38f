import OpReturn.Text.Ascii
import OpReturn.Text.Printable

/-!
# Quoted text

A text between quotes in which every character can be seen: backslashes, the quote in use and
characters that do not print are written as escapes. Single quotes are used unless the text holds
single quotes and no double ones.
-/

namespace OpReturn.Quoted

/-- A character inside quotes of the given kind. -/
def escape (quote c : Char) : List Char :=
  if c = quote ∨ c = '\\' then ['\\', c]
  else if c = '\n' then ['\\', 'n']
  else if c = '\r' then ['\\', 'r']
  else if c = '\t' then ['\\', 't']
  else if Printable.isPrintable c then [c]
  else (Ascii.escape c).toList

/-- A code point inside quotes of the given kind. Half of a surrogate pair is no character and is
written as an escape. -/
def escapeCode (quote : Char) (n : Nat) : List Char :=
  if 0xD800 ≤ n ∧ n ≤ 0xDFFF then '\\' :: 'u' :: (Ascii.hexPadded 4 n).toList
  else escape quote (Char.ofNat n)

/-- The quote for a text. -/
def quoteFor (text : List Char) : Char :=
  if text.contains '\'' && !text.contains '"' then '"' else '\''

/-- The text between quotes. -/
def encode (text : String) : String :=
  let chars := text.toList
  let quote := quoteFor chars
  String.ofList (quote :: chars.flatMap (escape quote) ++ [quote])

/-- The text of some code points between quotes. -/
def encodeCodes (codes : List Nat) : String :=
  let quote := quoteFor (codes.map Char.ofNat)
  String.ofList (quote :: codes.flatMap (escapeCode quote) ++ [quote])

end OpReturn.Quoted
