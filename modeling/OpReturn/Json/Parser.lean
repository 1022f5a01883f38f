import OpReturn.Json.Encoding
import OpReturn.Json.Value
import OpReturn.Text.Decimal

/-!
# Reading JSON texts

A recursive-descent reader. Besides the standard grammar it takes `NaN`, `Infinity` and
`-Infinity`. A fault is reported with the place where the reader needed something else; an integer
of too many digits and a list or an object too deep inside others are faults of their own.

* `Json.parse`: the value of a text.
* `Json.parseBytes`: the value of a text that comes as bytes.

A text is given as its code points: a string can hold halves of surrogate pairs, also unescaped.
Every reader takes what is left of the text and returns what is left after it. A place is told by
what is left there.
-/

namespace OpReturn.Json

/-! ## Faults -/

/-- What the reader needed and did not find, or found and could not take. -/
inductive Fault where
  | byteOrderMark
  | value
  | key
  | colon
  | comma
  | unterminated
  | control
  | escape
  | hexEscape
  | extra
deriving DecidableEq, Repr

/-- The fault in words. -/
def Fault.text : Fault → String
  | .byteOrderMark => "Unexpected UTF-8 BOM (decode using utf-8-sig)"
  | .value => "Expecting value"
  | .key => "Expecting property name enclosed in double quotes"
  | .colon => "Expecting ':' delimiter"
  | .comma => "Expecting ',' delimiter"
  | .unterminated => "Unterminated string starting at"
  | .control => "Invalid control character at"
  | .escape => "Invalid \\escape"
  | .hexEscape => "Invalid \\uXXXX escape"
  | .extra => "Extra data"

/-- A fault with its place: line and column count from one, the position from zero. -/
structure SyntaxError where
  fault : Fault
  line : Nat
  column : Nat
  position : Nat
deriving DecidableEq, Repr

/-- What went wrong, in words. -/
def SyntaxError.message (e : SyntaxError) : String :=
  e.fault.text ++ ": line " ++ toString e.line ++ " column " ++ toString e.column ++ " (char "
    ++ toString e.position ++ ")"

/-- A value that holds others. -/
inductive Container where
  | array
  | object
deriving DecidableEq, Repr

/-- The name of a container. -/
def Container.text : Container → String
  | .array => "array"
  | .object => "object"

/-- Why a text could not be read. -/
inductive ReadError where
  | encoding (e : EncodingError)
  | malformed (e : SyntaxError)
  | number (e : Decimal.TooLong)
  /-- A container stands too deep inside others. -/
  | tooDeep (what : Container)
deriving DecidableEq, Repr

/-- What went wrong, in words. -/
def ReadError.message : ReadError → String
  | .encoding e => e.message
  | .malformed e => e.message
  | .number e => e.message
  | .tooDeep what =>
    "maximum recursion depth exceeded while decoding a JSON " ++ what.text
      ++ " from a unicode string"

/-- A fault with what is left of the text where it was met, a numeral of too many digits, or a
container that is too deep. -/
inductive Stop where
  | fault (what : Fault) (rest : List CodePoint)
  | number (e : Decimal.TooLong)
  | tooDeep (what : Container)

/-- The fault of a text, with its place worked out. -/
def Stop.error (text : List CodePoint) : Stop → ReadError
  | .number e => .number e
  | .tooDeep what => .tooDeep what
  | .fault what rest =>
    let before := text.take (text.length - rest.length)
    let line := before.reverse.takeWhile (· ≠ .char '\n')
    .malformed ⟨what, before.count (.char '\n') + 1, line.length + 1, before.length⟩

/-! ## Blanks, strings and numbers -/

/-- What is left after the blanks at the front. -/
def skipBlanks (s : List CodePoint) : List CodePoint :=
  s.dropWhile fun c => c = .char ' ' || c = .char '\t' || c = .char '\n' || c = .char '\r'

/-- The value of a hexadecimal digit. -/
def hexValue? : CodePoint → Option Nat
  | .char c => Hex.digit? c
  | .half _ => none

/-- The number of the four hexadecimal digits at the front, which something must follow. -/
def hexUnit? : List CodePoint → Option Nat
  | a :: b :: c :: d :: _ :: _ => do
    return (((← hexValue? a) * 16 + (← hexValue? b)) * 16 + (← hexValue? c)) * 16 + (← hexValue? d)
  | _ => none

/-- The code point of a numeric escape whose letter `u` stands at the front, and the number of
characters it takes. Two halves of a surrogate pair make one code point; a half on its own stands
for itself. -/
def unicodeEscape (s : List CodePoint) : Except Stop (Nat × Nat) :=
  match hexUnit? (s.drop 1) with
  | none => .error (.fault .hexEscape s)
  | some high =>
    if 0xD800 ≤ high ∧ high ≤ 0xDBFF then
      match s.drop 5 with
      | .char '\\' :: .char 'u' :: t =>
        if (t.drop 4).isEmpty then .ok (high, 5)
        else match hexUnit? t with
          | none => .error (.fault .hexEscape (.char 'u' :: t))
          | some low =>
            if 0xDC00 ≤ low ∧ low ≤ 0xDFFF then
              .ok (0x10000 + (high - 0xD800) * 0x400 + (low - 0xDC00), 11)
            else .ok (high, 5)
      | _ => .ok (high, 5)
    else .ok (high, 5)

/-- The character that a one-letter escape stands for. -/
def letterEscape? : CodePoint → Option Char
  | .char '"' => some '"'
  | .char '\\' => some '\\'
  | .char '/' => some '/'
  | .char 'b' => some '\x08'
  | .char 'f' => some '\x0C'
  | .char 'n' => some '\n'
  | .char 'r' => some '\r'
  | .char 't' => some '\t'
  | _ => none

/-- The code points of the rest of a string that began at `opened`, after those in `acc`, last
first; `skip` counts characters of an escape already taken. -/
def stringFrom (opened : List CodePoint) (acc : List Nat) (skip : Nat) :
    List CodePoint → Except Stop (List Nat × List CodePoint)
  | [] => .error (.fault .unterminated opened)
  | c :: s =>
    match skip with
    | skip + 1 => stringFrom opened acc skip s
    | 0 =>
      if c = .char '"' then .ok (acc.reverse, s)
      else if c = .char '\\' then
        match s with
        | [] => .error (.fault .unterminated opened)
        | .char 'u' :: _ =>
          match unicodeEscape s with
          | .ok (e, size) => stringFrom opened (e :: acc) size s
          | .error e => .error e
        | l :: _ =>
          match letterEscape? l with
          | some e => stringFrom opened (e.toNat :: acc) 1 s
          | none => .error (.fault .escape (c :: s))
      else if c.toNat < 0x20 then .error (.fault .control (c :: s))
      else stringFrom opened (c.toNat :: acc) 0 s

/-- Is the code point an ASCII digit? -/
def isDigit (c : CodePoint) : Bool := 0x30 ≤ c.toNat && c.toNat ≤ 0x39

/-- The digits at the front, and what follows them. -/
def digits (s : List CodePoint) : List CodePoint × List CodePoint :=
  (s.takeWhile isDigit, s.dropWhile isDigit)

/-- The number that decimal digits stand for. -/
def digitsValue (ds : List CodePoint) : Nat := ds.foldl (fun n c => 10 * n + (c.toNat - 48)) 0

/-- The digits after a decimal point, if the point and at least one digit stand at the front. -/
def fraction? : List CodePoint → Option (List CodePoint × List CodePoint)
  | .char '.' :: s => if (digits s).1.isEmpty then none else some (digits s)
  | _ => none

/-- The exponent at the front, if it is complete. -/
def exponent? : List CodePoint → Option (Int × List CodePoint)
  | c :: s =>
    if c = .char 'e' ∨ c = .char 'E' then
      let (negative, s) := match s with
        | .char '-' :: t => (true, t)
        | .char '+' :: t => (false, t)
        | t => (false, t)
      let (ds, s) := digits s
      if ds.isEmpty then none
      else some (if negative then -(digitsValue ds : Int) else digitsValue ds, s)
    else none
  | [] => none

/-- The number at the front, after a minus sign if `negative`. An integer has no leading zero. -/
def number? (negative : Bool) (s : List CodePoint) :
    Option (Except Decimal.TooLong Json × List CodePoint) :=
  let (whole, s) := match s with
    | .char '0' :: t => ([CodePoint.char '0'], t)
    | t => digits t
  if whole.isEmpty then none
  else
    let (places, s, decimal) := match fraction? s with
      | some (places, t) => (places, t, true)
      | none => ([], s, false)
    let (power, s, decimal) := match exponent? s with
      | some (power, t) => (power, t, true)
      | none => (0, s, decimal)
    if decimal then
      some (.ok (.float (.ofDecimal negative (digitsValue (whole ++ places))
        (power - places.length))), s)
    else if Decimal.maxDigits < whole.length then some (.error ⟨whole.length⟩, s)
    else some (.ok (.int (if negative then -(digitsValue whole : Int) else digitsValue whole)), s)

/-- What follows a word that stands at the front. -/
def word? (word : String) (s : List CodePoint) : Option (List CodePoint) :=
  if (word.toList.map CodePoint.char).isPrefixOf s then some (s.drop word.length) else none

/-- A value that is neither a string, a list nor an object. -/
def scalar (s : List CodePoint) : Except Stop (Json × List CodePoint) :=
  let fault : Stop := .fault .value s
  let constant (word : String) (v : Json) : Except Stop (Json × List CodePoint) :=
    match word? word s with
    | some t => .ok (v, t)
    | none => .error fault
  let number (negative : Bool) (t : List CodePoint) : Except Stop (Json × List CodePoint) :=
    match number? negative t with
    | some (.ok v, t) => .ok (v, t)
    | some (.error e, _) => .error (.number e)
    | none => .error fault
  match s with
  | .char 'n' :: _ => constant "null" .null
  | .char 't' :: _ => constant "true" (.bool true)
  | .char 'f' :: _ => constant "false" (.bool false)
  | .char 'N' :: _ => constant "NaN" (.float .nan)
  | .char 'I' :: _ => constant "Infinity" (.float (.infinite false))
  | .char '-' :: .char 'I' :: _ => constant "-Infinity" (.float (.infinite true))
  | .char '-' :: t => number true t
  | t => number false t

/-! ## Values -/

/-- How many containers may stand inside one another. -/
def maxDepth : Nat := 978

mutual

/-- The value at the front. The fuel bounds the number of readings inside one another: a container
takes two of them and at least one character, so the fuel is never spent when it is more than
twice the length of the text. `room` is how many more containers may stand inside this place. -/
def valueFrom : (fuel room : Nat) → List CodePoint → Except Stop (Json × List CodePoint)
  | 0, _, s => .error (.fault .value s)
  | fuel + 1, room, s =>
    match s with
    | .char '"' :: t => do
      let (codes, t) ← stringFrom s [] 0 t
      return (.ofText (.ofCodes codes), t)
    | .char '[' :: t =>
      match room with
      | 0 => .error (.tooDeep .array)
      | room + 1 =>
        match skipBlanks t with
        | .char ']' :: t => .ok (.arr [], t)
        | t => itemsFrom fuel room [] t
    | .char '\x7b' :: t =>
      match room with
      | 0 => .error (.tooDeep .object)
      | room + 1 =>
        match skipBlanks t with
        | .char '\x7d' :: t => .ok (.obj [], t)
        | t => membersFrom fuel room [] t
    | t => scalar t

/-- The rest of a list, from an item on, after the items in `acc`, last first. -/
def itemsFrom : (fuel room : Nat) → (acc : List Json) → List CodePoint →
    Except Stop (Json × List CodePoint)
  | 0, _, _, s => .error (.fault .value s)
  | fuel + 1, room, acc, s =>
    match valueFrom fuel room s with
    | .error e => .error e
    | .ok (item, s) =>
      match skipBlanks s with
      | .char ']' :: s => .ok (.arr (item :: acc).reverse, s)
      | .char ',' :: s => itemsFrom fuel room (item :: acc) (skipBlanks s)
      | s => .error (.fault .comma s)

/-- The rest of an object, from a key on, after the members in `acc`. -/
def membersFrom : (fuel room : Nat) → (acc : List (Text × Json)) → List CodePoint →
    Except Stop (Json × List CodePoint)
  | 0, _, _, s => .error (.fault .key s)
  | fuel + 1, room, acc, s =>
    match s with
    | .char '"' :: t =>
      match stringFrom s [] 0 t with
      | .error e => .error e
      | .ok (key, s) =>
        match skipBlanks s with
        | .char ':' :: s =>
          match valueFrom fuel room (skipBlanks s) with
          | .error e => .error e
          | .ok (value, s) =>
            let acc := setMember acc (.ofCodes key) value
            match skipBlanks s with
            | .char '\x7d' :: s => .ok (.obj acc, s)
            | .char ',' :: s => membersFrom fuel room acc (skipBlanks s)
            | s => .error (.fault .comma s)
        | s => .error (.fault .colon s)
    | s => .error (.fault .key s)

end

/-- The value of a whole text. -/
def valueOf (s : List CodePoint) : Except Stop Json :=
  match valueFrom (2 * s.length + 1) maxDepth (skipBlanks s) with
  | .error e => .error e
  | .ok (v, t) =>
    match skipBlanks t with
    | [] => .ok v
    | t => .error (.fault .extra t)

/-- The value of a JSON text. A byte order mark at its front is a fault. -/
def parse (text : String) : Except ReadError Json :=
  let codes := text.toList.map CodePoint.char
  let value := if codes.head? = some (.char '\uFEFF') then .error (.fault .byteOrderMark codes)
    else valueOf codes
  value.mapError (Stop.error codes)

/-- The value of a JSON text that comes as bytes. -/
def parseBytes (s : Bytes) : Except ReadError Json :=
  match Encoding.decode s with
  | .error e => .error (.encoding e)
  | .ok codes => (valueOf codes).mapError (Stop.error codes)

end OpReturn.Json
