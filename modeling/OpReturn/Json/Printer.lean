import OpReturn.Json.Value
import OpReturn.Text.Ascii
import OpReturn.Text.Quoted

/-!
# Printing JSON values

Two texts of a value: JSON itself (`Json.render`), on one line and in ASCII, and the plain text
that messages and command lines show (`Json.display`), where a string stands for itself unless it
is nested in a list or an object.
-/

namespace OpReturn.Json

/-! ## JSON -/

/-- A UTF-16 unit as an escape. -/
def unitEscape (n : Nat) : String := "\\u" ++ Ascii.hexPadded 4 n

/-- A code point inside a JSON string. -/
def escapeCode (n : Nat) : String :=
  if n = 0x22 then "\\\""
  else if n = 0x5C then "\\\\"
  else if n = 0x0A then "\\n"
  else if n = 0x0D then "\\r"
  else if n = 0x09 then "\\t"
  else if 0x20 ≤ n ∧ n < 0x7F then (Char.ofNat n).toString
  else if n < 0x10000 then unitEscape n
  else unitEscape (0xD800 + (n - 0x10000) / 0x400) ++ unitEscape (0xDC00 + (n - 0x10000) % 0x400)

/-- A JSON string. -/
def quote (s : String) : String :=
  "\"" ++ s.toList.foldl (fun acc c => acc ++ escapeCode c.toNat) "" ++ "\""

/-- The JSON string of some code points. -/
def quoteCodes (codes : List Nat) : String :=
  "\"" ++ codes.foldl (fun acc n => acc ++ escapeCode n) "" ++ "\""

/-- The JSON string of a text. -/
def quoteText : Text → String
  | .whole s => quote s
  | .unpaired codes => quoteCodes codes

mutual

/-- The JSON text of a value. -/
def render : Json → String
  | .null => "null"
  | .bool true => "true"
  | .bool false => "false"
  | .int n => toString n
  | .float (.infinite negative) => if negative then "-Infinity" else "Infinity"
  | .float .nan => "NaN"
  | .float x => x.text
  | .str s => quote s
  | .unpaired codes => quoteCodes codes
  | .arr items => "[" ++ renderItems "" items ++ "]"
  | .obj members => "\x7b" ++ renderMembers "" members ++ "\x7d"

/-- Items after those already in `acc`, with commas between them. -/
def renderItems (acc : String) : List Json → String
  | [] => acc
  | item :: items =>
    renderItems ((if acc.isEmpty then acc else acc ++ ",") ++ render item) items

/-- Members after those already in `acc`, with commas between them. -/
def renderMembers (acc : String) : List (Text × Json) → String
  | [] => acc
  | (key, value) :: members =>
    renderMembers
      ((if acc.isEmpty then acc else acc ++ ",") ++ quoteText key ++ ":" ++ render value)
      members

end

/-! ## Plain text -/

/-- A text between quotes, in which every character can be seen. -/
def displayText : Text → String
  | .whole s => Quoted.encode s
  | .unpaired codes => Quoted.encodeCodes codes

mutual

/-- The text of a value as it stands inside a list or an object: strings are quoted. -/
def displayNested : Json → String
  | .null => "None"
  | .bool true => "True"
  | .bool false => "False"
  | .int n => toString n
  | .float x => x.text
  | .str s => Quoted.encode s
  | .unpaired codes => Quoted.encodeCodes codes
  | .arr items => "[" ++ displayItems "" items ++ "]"
  | .obj members => "\x7b" ++ displayMembers "" members ++ "\x7d"

/-- Items after those already in `acc`, with commas between them. -/
def displayItems (acc : String) : List Json → String
  | [] => acc
  | item :: items =>
    displayItems ((if acc.isEmpty then acc else acc ++ ", ") ++ displayNested item) items

/-- Members after those already in `acc`, with commas between them. -/
def displayMembers (acc : String) : List (Text × Json) → String
  | [] => acc
  | (key, value) :: members =>
    displayMembers
      ((if acc.isEmpty then acc else acc ++ ", ") ++ displayText key ++ ": "
        ++ displayNested value)
      members

end

/-- The text of a value on its own: a string stands for itself. -/
def text : Json → Text
  | .str s => s
  | .unpaired codes => .unpaired codes
  | v => v.displayNested

/-- The text of a value on its own, with U+FFFD for each half of a surrogate pair. -/
def display (v : Json) : String := v.text.shown

end OpReturn.Json
