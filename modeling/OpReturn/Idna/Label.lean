import OpReturn.Idna.Direction
import OpReturn.Idna.Eligible
import OpReturn.Idna.Joining
import OpReturn.Idna.Punycode
import OpReturn.Text.Composed
import OpReturn.Text.Quoted

/-!
# Labels of domain names

A label is what stands between the dots of a domain name. One with characters outside ASCII is
sent in an ASCII form, behind a prefix of its own.

* `Label.check`: do code points make a label, and if not, why?
* `Label.encode`: the form in which a label is sent.
* `Label.decode`: the code points of the label that was sent.
-/

namespace OpReturn.Idna

/-! ## Writing systems that some signs belong to -/

/-- Greek. -/
def greek : CodeSet := [
  (0x370, 0x373), (0x375, 0x377), (0x37A, 0x37D), (0x37F, 0x37F), (0x384, 0x384), (0x386, 0x386),
  (0x388, 0x38A), (0x38C, 0x38C), (0x38E, 0x3A1), (0x3A3, 0x3E1), (0x3F0, 0x3FF), (0x1D26, 0x1D2A),
  (0x1D5D, 0x1D61), (0x1D66, 0x1D6A), (0x1DBF, 0x1DBF), (0x1F00, 0x1F15), (0x1F18, 0x1F1D),
  (0x1F20, 0x1F45), (0x1F48, 0x1F4D), (0x1F50, 0x1F57), (0x1F59, 0x1F59), (0x1F5B, 0x1F5B),
  (0x1F5D, 0x1F5D), (0x1F5F, 0x1F7D), (0x1F80, 0x1FB4), (0x1FB6, 0x1FC4), (0x1FC6, 0x1FD3),
  (0x1FD6, 0x1FDB), (0x1FDD, 0x1FEF), (0x1FF2, 0x1FF4), (0x1FF6, 0x1FFE), (0x2126, 0x2126),
  (0xAB65, 0xAB65), (0x10140, 0x1018E), (0x101A0, 0x101A0), (0x1D200, 0x1D245)]

/-- Hebrew. -/
def hebrew : CodeSet := [
  (0x591, 0x5C7), (0x5D0, 0x5EA), (0x5EF, 0x5F4), (0xFB1D, 0xFB36), (0xFB38, 0xFB3C),
  (0xFB3E, 0xFB3E), (0xFB40, 0xFB41), (0xFB43, 0xFB44), (0xFB46, 0xFB4F)]

/-- The characters of Chinese, and the two syllabaries of Japanese. -/
def eastAsian : CodeSet := [
  (0x2E80, 0x2E99), (0x2E9B, 0x2EF3), (0x2F00, 0x2FD5), (0x3005, 0x3005), (0x3007, 0x3007),
  (0x3021, 0x3029), (0x3038, 0x303B), (0x3041, 0x3096), (0x309D, 0x309F), (0x30A1, 0x30FA),
  (0x30FD, 0x30FF), (0x31F0, 0x31FF), (0x32D0, 0x32FE), (0x3300, 0x3357), (0x3400, 0x4DBF),
  (0x4E00, 0x9FFF), (0xF900, 0xFA6D), (0xFA70, 0xFAD9), (0xFF66, 0xFF6F), (0xFF71, 0xFF9D),
  (0x16FE2, 0x16FE3), (0x16FF0, 0x16FF6), (0x1AFF0, 0x1AFF3), (0x1AFF5, 0x1AFFB),
  (0x1AFFD, 0x1AFFE), (0x1B000, 0x1B122), (0x1B132, 0x1B132), (0x1B150, 0x1B152),
  (0x1B155, 0x1B155), (0x1B164, 0x1B167), (0x1F200, 0x1F200), (0x20000, 0x2A6DF),
  (0x2A700, 0x2B81D), (0x2B820, 0x2CEAD), (0x2CEB0, 0x2EBE0), (0x2EBF0, 0x2EE5D),
  (0x2F800, 0x2FA1D), (0x30000, 0x3134A), (0x31350, 0x33479)]

/-! ## Errors -/

/-- What a character of a label is not allowed for. Positions count from one. -/
inductive CharacterFault where
  /-- No label may hold it. -/
  | never (position : Nat)
  /-- It keeps letters apart or joins them, and the code points beside it are none that can be. -/
  | joiner (position : Nat)
  /-- The characters around it do not call for it. -/
  | context (position : Nat)
deriving DecidableEq, Repr

/-- Why a text is no label. -/
inductive LabelError where
  | empty
  | tooLong
  | notComposed
  | innerHyphens
  | outerHyphen
  | leadingMark
  | character (fault : CharacterFault) (n : Nat) (label : List Nat)
  | direction (fault : DirectionFault) (label : List Nat)
  /-- Nothing follows the prefix. -/
  | nothingCoded
  | codedHyphen
  | notCoded
deriving DecidableEq, Repr

/-- A code point by its number. -/
def codeText (n : Nat) : String :=
  "U+" ++ String.ofList (((Ascii.hexPadded 4 n).toList).map Char.toUpper)

/-- What is wrong with a character, in words. -/
def CharacterFault.message (n : Nat) (label : List Nat) : CharacterFault → String
  | .never position =>
    "Codepoint " ++ codeText n ++ " at position " ++ toString position ++ " of "
      ++ Quoted.encodeCodes label ++ " not allowed"
  | .joiner position =>
    "Unknown codepoint adjacent to joiner " ++ codeText n ++ " at position " ++ toString position
      ++ " in " ++ Quoted.encodeCodes label
  | .context position =>
    "Codepoint " ++ codeText n ++ " not allowed at position " ++ toString position ++ " in "
      ++ Quoted.encodeCodes label

/-- What is wrong with the directions, in words. -/
def DirectionFault.message (label : List Nat) : DirectionFault → String
  | .unknown position =>
    "Unknown directionality in label " ++ Quoted.encodeCodes label ++ " at position "
      ++ toString position
  | .first =>
    "First codepoint in label " ++ Quoted.encodeCodes label
      ++ " must be directionality L, R or AL"
  | .inRightToLeft position =>
    "Invalid direction for codepoint at position " ++ toString position
      ++ " in a right-to-left label"
  | .inLeftToRight position =>
    "Invalid direction for codepoint at position " ++ toString position
      ++ " in a left-to-right label"
  | .mixedNumbers => "Can not mix numeral types in a right-to-left label"
  | .last => "Label ends with illegal codepoint directionality"

/-- What went wrong, in words. -/
def LabelError.message : LabelError → String
  | .empty => "Empty Label"
  | .tooLong => "Label too long"
  | .notComposed => "Label must be in Normalization Form C"
  | .innerHyphens => "Label has disallowed hyphens in 3rd and 4th position"
  | .outerHyphen => "Label must not start or end with a hyphen"
  | .leadingMark => "Label begins with an illegal combining character"
  | .character fault n label => fault.message n label
  | .direction fault label => fault.message label
  | .nothingCoded => "Malformed A-label, no Punycode eligible content found"
  | .codedHyphen => "A-label must not end with a hyphen"
  | .notCoded => "Invalid A-label"

namespace Label

/-! ## Characters in context -/

/-- Is the code point that an option holds in a set? -/
def holds (set : CodeSet) (n : Option Nat) : Bool := n.any set.has

/-- May a joiner stand after `before`, last code point first, and before `after`? It may after a
mark that takes the vowel from a consonant; the one that keeps letters apart may also stand where
letters would join, unless it comes right after a code point of a later version. -/
def allowsJoiner (n : Nat) (before after : List Nat) : Bool :=
  before.head?.any (Mark.combiningClass · = Mark.virama)
    || (n = 0x200C && !holds eligibleLater before.head?
      && (before.dropWhile isTransparent).head?.any joinsAfter
      && (after.dropWhile isTransparent).head?.any joinsBefore)

/-- May a sign stand after `before`, last code point first, and before `after`? -/
def allowsSign (n : Nat) (before after : List Nat) : Bool :=
  if n = 0xB7 then before.head? = some 0x6C && after.head? = some 0x6C
  else if n = 0x375 then holds greek after.head?
  else if n = 0x5F3 || n = 0x5F4 then holds hebrew before.head?
  else if n = 0x30FB then (before ++ after).any fun k => k ≠ 0x30FB && eastAsian.has k
  else if n < 0x6F0 then !(before ++ after).any fun k => 0x6F0 ≤ k && k ≤ 0x6F9
  else !(before ++ after).any fun k => 0x660 ≤ k && k ≤ 0x669

/-- The first code point of what is left of a label that is not allowed there, after `before`, last
code point first. -/
def faultFrom? (before : List Nat) : List Nat → Option (CharacterFault × Nat)
  | [] => none
  | n :: after =>
    let position := before.length + 1
    if isEligible n then faultFrom? (n :: before) after
    else if isJoiner n then
      if allowsJoiner n before after then faultFrom? (n :: before) after
      else some (.joiner position, n)
    else if contextual.has n then
      if allowsSign n before after then faultFrom? (n :: before) after
      else some (.context position, n)
    else some (.never position, n)

/-! ## Labels -/

/-- The longest domain name, with a dot at its end. -/
def maxDomain : Nat := 254

/-- The longest form in which a label is sent. -/
def maxSent : Nat := 63

/-- The number of the hyphen. -/
def hyphen : Nat := 0x2D

/-- Do the code points make a label? -/
def check (label : List Nat) : Except LabelError Unit := do
  if label.isEmpty then throw .empty
  if maxDomain < label.length then throw .tooLong
  if !Composed.isComposed label then throw .notComposed
  if (label.drop 2).take 2 = [hyphen, hyphen] then throw .innerHyphens
  if label.head? = some hyphen ∨ label.getLast? = some hyphen then throw .outerHyphen
  if label.head?.any Mark.isMark then throw .leadingMark
  match faultFrom? [] label with
  | some (fault, n) => throw (.character fault n label)
  | none => pure ()
  match directionFault? label with
  | some fault => throw (.direction fault label)
  | none => pure ()

/-- What stands before the ASCII form of a label. -/
def lead : List Char := "xn--".toList

/-- The code points of the label that an ASCII text was sent for, whatever the case of its
letters. -/
def decode (text : List Char) : Except LabelError (List Nat) := do
  let sent := text.map Char.toLower
  if lead.isPrefixOf sent then
    let coded := sent.drop lead.length
    if coded.isEmpty then throw .nothingCoded
    if coded.getLast? = some '-' then throw .codedHyphen
    let some label := Punycode.decode coded | throw .notCoded
    check label
    return label
  else
    let label := sent.map Char.toNat
    check label
    return label

/-- The ASCII text that a label is sent as. -/
def encode (label : List Char) : Except LabelError (List Char) := do
  let sent ← if label.all (·.toNat < 0x80) then (decode label).map fun _ => label
    else (check (label.map Char.toNat)).map fun _ => lead ++ Punycode.encode label
  if maxSent < sent.length then throw .tooLong
  return sent

end Label
end OpReturn.Idna
