import OpReturn.Text.Decimal
import OpReturn.Text.Hex
import OpReturn.Toml.Value

/-!
# Reading keys and values

The readers of the TOML 1.0 notation below the level of statements. Every reader takes what is
left of the text and returns what is left after it. A text that is not in the notation is refused
without a reason; a decimal integer of too many digits and a value too deep inside others are
faults of their own.
-/

namespace OpReturn.Toml

/-- Why a text could not be read. -/
inductive ReadError where
  | malformed
  | number (e : Decimal.TooLong)
  /-- A value stands too deep inside others. -/
  | tooDeep
deriving DecidableEq, Repr

/-- A reader of what is left of a text. -/
abbrev Reader (α : Type) := List Char → Except ReadError (α × List Char)

/-! ## Characters -/

/-- Is it a blank within a line? -/
def isSpace (c : Char) : Bool := c = ' ' || c = '\t'

/-- Is it a control character, the tab apart? -/
def isControl (c : Char) : Bool := (c.toNat < 0x20 && c ≠ '\t') || c.toNat = 0x7F

/-- May it stand in a key without quotes? -/
def isBare (c : Char) : Bool := c.isAlphanum || c = '-' || c = '_'

/-- What is left after blanks. -/
def skipSpaces (s : List Char) : List Char := s.dropWhile isSpace

/-- What is left after a comment, if one stands at the front. -/
def skipComment (s : List Char) : Except ReadError (List Char) :=
  match s with
  | '#' :: s =>
    let rest := s.dropWhile fun c => !isControl c
    match rest with
    | [] | '\n' :: _ => .ok rest
    | _ => .error .malformed
  | s => .ok s

/-- What is left after blanks, line ends and comments. The fuel bounds the number of comments. -/
def skipLines : (fuel : Nat) → List Char → Except ReadError (List Char)
  | 0, s => .ok s
  | fuel + 1, s =>
    let s := s.dropWhile fun c => isSpace c || c = '\n'
    match s with
    | '#' :: _ =>
      match skipComment s with
      | .ok s => skipLines fuel s
      | .error e => .error e
    | s => .ok s

/-! ## Strings -/

/-- The character with the number that some hexadecimal digits stand for. -/
def hexChar? (digits : List Char) : Option Char := do
  let values ← digits.mapM Hex.digit?
  let n := values.foldl (fun n v => 16 * n + v) 0
  if n < 0xD800 ∨ (0xDFFF < n ∧ n < 0x110000) then return Char.ofNat n else none

/-- The character that a one-letter escape stands for. -/
def letterEscape? : Char → Option Char
  | 'b' => some '\x08'
  | 't' => some '\t'
  | 'n' => some '\n'
  | 'f' => some '\x0C'
  | 'r' => some '\r'
  | '"' => some '"'
  | '\\' => some '\\'
  | _ => none

/-- How many characters a line continuation takes after its backslash: the blanks to the end of
the line, and all blanks and line ends after it. -/
def continuation? (s : List Char) : Option Nat :=
  let spaces := (s.takeWhile isSpace).length
  match s.drop spaces with
  | '\n' :: t => some (spaces + 1 + (t.takeWhile fun c => isSpace c || c = '\n').length)
  | [] => if spaces = 0 then none else some spaces
  | _ => none

/-- An escape whose backslash has just been read: the characters it stands for and how many it
takes. -/
def escape? (multiline : Bool) (s : List Char) : Option (List Char × Nat) :=
  match s with
  | [] => none
  | 'u' :: t => if (t.take 4).length < 4 then none else (hexChar? (t.take 4)).map fun c => ([c], 5)
  | 'U' :: t => if (t.take 8).length < 8 then none else (hexChar? (t.take 8)).map fun c => ([c], 9)
  | c :: _ =>
    if multiline && (isSpace c || c = '\n') then (continuation? s).map fun size => ([], size)
    else (letterEscape? c).map fun c => ([c], 1)

/-- The rest of a quoted string; `acc` holds the characters so far, last first, and `skip` counts
characters of an escape already taken. -/
def basicFrom (multiline : Bool) (acc : List Char) (skip : Nat) : Reader (List Char)
  | [] => .error .malformed
  | c :: s =>
    match skip with
    | skip + 1 => basicFrom multiline acc skip s
    | 0 =>
      if c = '"' then
        if !multiline then .ok (acc.reverse, s)
        else match s with
          | '"' :: '"' :: t => .ok (acc.reverse, t)
          | _ => basicFrom multiline (c :: acc) 0 s
      else if c = '\\' then
        match escape? multiline s with
        | some (chars, size) => basicFrom multiline (chars ++ acc) size s
        | none => .error .malformed
      else if isControl c && !(multiline && c = '\n') then .error .malformed
      else basicFrom multiline (c :: acc) 0 s

/-- The rest of a string in single quotes, which has no escapes. -/
def literalFrom (multiline : Bool) (acc : List Char) : Reader (List Char)
  | [] => .error .malformed
  | c :: s =>
    if c = '\'' then
      if !multiline then .ok (acc.reverse, s)
      else match s with
        | '\'' :: '\'' :: t => .ok (acc.reverse, t)
        | _ => literalFrom multiline (c :: acc) s
    else if isControl c && !(multiline && c = '\n') then .error .malformed
    else literalFrom multiline (c :: acc) s

/-- Up to two quotes that stand directly before the three closing ones belong to the string. -/
def withExtraQuotes (quote : Char) (r : List Char × List Char) : List Char × List Char :=
  let extra := (r.2.take 2).takeWhile (· = quote)
  (r.1 ++ extra, r.2.drop extra.length)

/-- A string of several lines after its opening quotes. A line end right after them is dropped. -/
def multilineString (quote : Char) : Reader (List Char) := fun s =>
  let s := match s with
    | '\n' :: t => t
    | t => t
  let r := if quote = '"' then basicFrom true [] 0 s else literalFrom true [] s
  r.map (withExtraQuotes quote)

/-- A string on one line, in either kind of quotes. -/
def lineString : Reader String := fun s =>
  match s with
  | '"' :: t => (basicFrom false [] 0 t).map fun r => (String.ofList r.1, r.2)
  | '\'' :: t => (literalFrom false [] t).map fun r => (String.ofList r.1, r.2)
  | _ => .error .malformed

/-- A string of any kind. -/
def anyString : Reader String := fun s =>
  match s with
  | '"' :: '"' :: '"' :: t => (multilineString '"' t).map fun r => (String.ofList r.1, r.2)
  | '\'' :: '\'' :: '\'' :: t => (multilineString '\'' t).map fun r => (String.ofList r.1, r.2)
  | s => lineString s

/-! ## Keys -/

/-- One part of a key. -/
def keyPart : Reader String := fun s =>
  match s.takeWhile isBare with
  | [] => lineString s
  | bare => .ok (String.ofList bare, s.drop bare.length)

/-- The rest of a key after its first part, with the parts in `acc`, last first. The fuel bounds
the number of parts. -/
def keyFrom : (fuel : Nat) → (acc : List String) → Reader (List String)
  | 0, _ => fun _ => .error .malformed
  | fuel + 1, acc => fun s =>
    match skipSpaces s with
    | '.' :: t =>
      match keyPart (skipSpaces t) with
      | .ok (part, t) => keyFrom fuel (part :: acc) t
      | .error e => .error e
    | t => .ok (acc.reverse, t)

/-- A key of one or more parts, and the blanks after it. -/
def key : Reader (List String) := fun s =>
  match keyPart s with
  | .ok (part, t) => keyFrom (s.length + 1) [part] t
  | .error e => .error e

/-! ## Numbers -/

/-- Digits of one kind at the front, with single underscores between them; `none` if there is no
digit. -/
def digitsFrom (isDigit : Char → Bool) (acc : List Char) : List Char → List Char × List Char
  | '_' :: c :: s =>
    if !acc.isEmpty && isDigit c then digitsFrom isDigit (c :: acc) s
    else (acc.reverse, '_' :: c :: s)
  | c :: s => if isDigit c then digitsFrom isDigit (c :: acc) s else (acc.reverse, c :: s)
  | [] => (acc.reverse, [])

/-- The number that digits stand for in a base. -/
def digitsValue (base : Nat) (digits : List Char) : Nat :=
  digits.foldl (fun n c => base * n + (Hex.digit? c).getD 0) 0

/-- An integer in base sixteen, eight or two, after its leading zero. -/
def basedInteger? (s : List Char) : Option (Int × List Char) :=
  let read (base : Nat) (isDigit : Char → Bool) (t : List Char) : Option (Int × List Char) :=
    match digitsFrom isDigit [] t with
    | ([], _) => none
    | (digits, t) => some (digitsValue base digits, t)
  match s with
  | 'x' :: t => read 16 (fun c => (Hex.digit? c).isSome) t
  | 'o' :: t => read 8 (fun c => '0' ≤ c && c ≤ '7') t
  | 'b' :: t => read 2 (fun c => c = '0' || c = '1') t
  | _ => none

/-- The digits after a decimal point. -/
def fraction (s : List Char) : List Char × List Char :=
  match s with
  | '.' :: t =>
    match digitsFrom Char.isDigit [] t with
    | ([], _) => ([], s)
    | (places, t) => (places, t)
  | s => ([], s)

/-- The sign at the front, if any, and what follows it. -/
def sign (s : List Char) : Bool × List Char :=
  match s with
  | '-' :: t => (true, t)
  | '+' :: t => (false, t)
  | t => (false, t)

/-- The exponent, if a complete one stands at the front. -/
def exponent? (s : List Char) : Option (Int × List Char) :=
  match s with
  | c :: t =>
    if c = 'e' ∨ c = 'E' then
      let (negative, t) := sign t
      match digitsFrom Char.isDigit [] t with
      | ([], _) => none
      | (digits, t) =>
        let size : Int := digitsValue 10 digits
        some (if negative then -size else size, t)
    else none
  | [] => none

/-- The digits before a decimal point: a single zero, or digits of which the first is not zero. -/
def wholePart (s : List Char) : List Char × List Char :=
  match s with
  | '0' :: t => (['0'], t)
  | s => digitsFrom Char.isDigit [] s

/-- A decimal number. It is a float if it has a fraction or an exponent. -/
def decimalNumber? (s : List Char) : Option (Except ReadError (Value × List Char)) :=
  let (negative, t) := sign s
  match wholePart t with
  | ([], _) => none
  | (whole, t) =>
    let (places, t) := fraction t
    match places, exponent? t with
    | [], none =>
      if Decimal.maxDigits < whole.length then some (.error (.number ⟨whole.length⟩))
      else
        let size : Int := digitsValue 10 whole
        some (.ok (.int (if negative then -size else size), t))
    | places, power =>
      let (power, t) := power.getD (0, t)
      some (.ok (.float (.ofDecimal negative (digitsValue 10 (whole ++ places))
        (power - places.length)), t))

/-- A number of any kind, the special floats included. -/
def number : Reader Value := fun s =>
  let based := match s with
    | '0' :: t => (basedInteger? t).map fun r => ((.int r.1 : Value), r.2)
    | _ => none
  match based with
  | some r => .ok r
  | none =>
    match decimalNumber? s with
    | some r => r
    | none =>
      let (negative, t) := sign s
      match t with
      | 'i' :: 'n' :: 'f' :: t => .ok (.float (.infinite negative), t)
      | 'n' :: 'a' :: 'n' :: t => .ok (.float .nan, t)
      | _ => .error .malformed

/-! ## Dates and times -/

/-- A number of exactly `width` digits. -/
def fixed? (width : Nat) (s : List Char) : Option (Nat × List Char) :=
  let digits := s.take width
  if digits.length = width && digits.all Char.isDigit then
    some (digitsValue 10 digits, s.drop width)
  else none

/-- What follows the given character. -/
def after? (c : Char) (s : List Char) : Option (List Char) :=
  match s with
  | d :: t => if d = c then some t else none
  | [] => none

/-- A date, whose month is at most 12 and whose day is at most 31. -/
def date? (s : List Char) : Option (Date × List Char) := do
  let (year, s) ← fixed? 4 s
  let (month, s) ← fixed? 2 (← after? '-' s)
  let (day, s) ← fixed? 2 (← after? '-' s)
  if 1 ≤ month ∧ month ≤ 12 ∧ 1 ≤ day ∧ day ≤ 31 then return (⟨year, month, day⟩, s) else none

/-- A time of day. Digits of the fraction after the sixth are dropped. -/
def time? (s : List Char) : Option (Time × List Char) := do
  let (hour, s) ← fixed? 2 s
  let (minute, s) ← fixed? 2 (← after? ':' s)
  let (second, s) ← fixed? 2 (← after? ':' s)
  if 23 < hour ∨ 59 < minute ∨ 59 < second then none
  else
    let places := match s with
      | '.' :: t => t.takeWhile Char.isDigit
      | _ => []
    let micro := digitsValue 10 ((places ++ List.replicate 6 '0').take 6)
    let s := if places.isEmpty then s else s.drop (places.length + 1)
    return (⟨hour, minute, second, micro⟩, s)

/-- An offset from universal time in minutes, if one stands at the front. -/
def offset? (s : List Char) : Option (Int × List Char) :=
  match s with
  | c :: t =>
    if c = 'Z' ∨ c = 'z' then some (0, t)
    else if c = '+' ∨ c = '-' then do
      let (hour, t) ← fixed? 2 t
      let (minute, t) ← fixed? 2 (← after? ':' t)
      if 23 < hour ∨ 59 < minute then none
      else
        let minutes : Int := hour * 60 + minute
        return (if c = '-' then -minutes else minutes, t)
    else none
  | [] => none

/-- A moment, if one stands at the front. A date outside the calendar is an error. -/
def moment? (s : List Char) : Option (Except ReadError (Moment × List Char)) :=
  match date? s with
  | none => (time? s).map fun r => .ok (.time r.1, r.2)
  | some (d, t) =>
    let clock := match t with
      | c :: u => if c = 'T' ∨ c = 't' ∨ c = ' ' then time? u else none
      | [] => none
    if !d.isValid then some (.error .malformed)
    else match clock with
      | none => some (.ok (.date d, t))
      | some (clock, t) =>
        match offset? t with
        | some (offset, t) => some (.ok (.both d clock (some offset), t))
        | none => some (.ok (.both d clock none, t))

/-! ## Tables -/

/-- The value of a key in a table. -/
def Table.get? (t : Table) (key : String) : Option Value := t.lookup key

/-- The table with a key set; a known key keeps its place. -/
def Table.set (t : Table) (key : String) (v : Value) : Table :=
  if (t.get? key).isSome then t.map fun m => if m.1 = key then (key, v) else m
  else t ++ [(key, v)]

/-- Changes the table at the end of a path and creates those that are missing. With `lists`, an
array on the path stands for its last item. It fails where the path meets anything else. -/
def Table.modifyAt (lists : Bool) (change : Table → Option Table) : List String → Table →
    Option Table
  | [], t => change t
  | k :: path, t =>
    match t.get? k with
    | none => (modifyAt lists change path []).map fun u => t.set k (.table u)
    | some (.table u) => (modifyAt lists change path u).map fun u => t.set k (.table u)
    | some (.array items) =>
      match lists, items.getLast? with
      | true, some (.table u) => (modifyAt lists change path u).map fun u =>
          t.set k (.array (items.dropLast ++ [.table u]))
      | _, _ => none
    | some _ => none

/-- Sets a key of the table at the end of a path, which must be new there. -/
def Table.insertAt (lists : Bool) (path : List String) (key : String) (v : Value) (t : Table) :
    Option Table :=
  t.modifyAt lists (fun u => if (u.get? key).isSome then none else some (u.set key v)) path

/-! ## Values -/

/-- The room for arrays and inline tables inside one another. -/
def maxDepth : Nat := 988

/-- The part of the room that an array takes. -/
def arrayDepth : Nat := 2

/-- The part of the room that an inline table takes. -/
def tableDepth : Nat := 3

mutual

/-- A value. The fuel bounds the number of readings inside one another: an array or an inline table
takes two of them and at least one character, so the fuel is never spent when it is more than
twice the length of the text. `room` is what arrays and inline tables inside this place may
take. -/
def valueFrom : (fuel room : Nat) → Reader Value
  | 0, _ => fun _ => .error .malformed
  | fuel + 1, room => fun s =>
    match s with
    | '"' :: _ | '\'' :: _ => (anyString s).map fun r => (.str r.1, r.2)
    | 't' :: 'r' :: 'u' :: 'e' :: t => .ok (.bool true, t)
    | 'f' :: 'a' :: 'l' :: 's' :: 'e' :: t => .ok (.bool false, t)
    | '[' :: t =>
      if room < arrayDepth then .error .tooDeep else itemsFrom fuel (room - arrayDepth) [] t
    | '\x7b' :: t =>
      if room < tableDepth then .error .tooDeep
      else match skipSpaces t with
        | '\x7d' :: t => .ok (.table [], t)
        | t => membersFrom fuel (room - tableDepth) [] [] t
    | s =>
      match moment? s with
      | some r => r.map fun r => (.moment r.1, r.2)
      | none => number s

/-- The rest of an array, from before an item on, after the items in `acc`, last first. -/
def itemsFrom : (fuel room : Nat) → (acc : List Value) → Reader Value
  | 0, _, _ => fun _ => .error .malformed
  | fuel + 1, room, acc => fun s =>
    match skipLines (fuel + 1) s with
    | .error e => .error e
    | .ok (']' :: s) => .ok (.array acc.reverse, s)
    | .ok s =>
      match valueFrom fuel room s with
      | .error e => .error e
      | .ok (item, s) =>
        match skipLines (fuel + 1) s with
        | .error e => .error e
        | .ok (']' :: s) => .ok (.array (item :: acc).reverse, s)
        | .ok (',' :: s) => itemsFrom fuel room (item :: acc) s
        | .ok _ => .error .malformed

/-- The rest of an inline table, from a key on, after the members in `acc`. The paths in `frozen`
lead to values that are complete. -/
def membersFrom : (fuel room : Nat) → (acc : Table) → (frozen : List (List String)) →
    Reader Value
  | 0, _, _, _ => fun _ => .error .malformed
  | fuel + 1, room, acc, frozen => fun s =>
    match key s with
    | .error e => .error e
    | .ok (path, '=' :: s) =>
      match valueFrom fuel room (skipSpaces s) with
      | .error e => .error e
      | .ok (v, s) =>
        if frozen.any (·.isPrefixOf path) then .error .malformed
        else match Table.insertAt false path.dropLast (path.getLastD "") v acc with
          | none => .error .malformed
          | some acc =>
            let frozen := match v with
              | .array _ | .table _ => path :: frozen
              | _ => frozen
            match skipSpaces s with
            | '\x7d' :: s => .ok (.table acc, s)
            | ',' :: s => membersFrom fuel room acc frozen (skipSpaces s)
            | _ => .error .malformed
    | .ok _ => .error .malformed

end

/-- A value at the front of a text. -/
def value : Reader Value := fun s => valueFrom (2 * s.length + 1) maxDepth s

end OpReturn.Toml
