import OpReturn.Number.Binary64

/-!
# JSON values

Integers are exact, other numbers double-precision. A string, or the key of a member, can hold
halves of surrogate pairs, which no `String` can; such a one is kept as its code points. An object
keeps its members in order; setting a key again keeps its place and changes its value.
-/

namespace OpReturn

/-! ## Texts -/

namespace Json

/-- Is the code point half of a surrogate pair? -/
def isHalf (n : Nat) : Bool := 0xD800 ≤ n && n ≤ 0xDFFF

/-- The string of some code points, with U+FFFD for each half of a surrogate pair. -/
def stringOfCodes (codes : List Nat) : String :=
  String.ofList (codes.map fun n => if isHalf n then '\uFFFD' else Char.ofNat n)

/-- A text in which halves of surrogate pairs may stand. -/
inductive Text where
  | whole (s : String)
  /-- A text with halves of surrogate pairs, as its code points. -/
  | unpaired (codes : List Nat)
deriving DecidableEq, Repr

instance : Coe String Text := ⟨.whole⟩

namespace Text

/-- The text of some code points. -/
def ofCodes (codes : List Nat) : Text :=
  if codes.any isHalf then .unpaired codes else .whole (stringOfCodes codes)

/-- The code points of a text. -/
def codes : Text → List Nat
  | .whole s => s.toList.map Char.toNat
  | .unpaired codes => codes

/-- The text as a string, with U+FFFD for each half of a surrogate pair. -/
def shown : Text → String
  | .whole s => s
  | .unpaired codes => stringOfCodes codes

instance : Append Text where
  append
    | .whole s, .whole t => .whole (s ++ t)
    | s, t => .ofCodes (s.codes ++ t.codes)

end Text
end Json

/-! ## Values -/

/-- A JSON value. -/
inductive Json where
  | null
  | bool (b : Bool)
  | int (n : Int)
  | float (x : Binary64)
  | str (s : String)
  /-- A string with halves of surrogate pairs, as its code points. -/
  | unpaired (codes : List Nat)
  | arr (items : List Json)
  | obj (members : List (Json.Text × Json))
deriving Inhabited

namespace Json

/-- The members of an object after setting one key. -/
def setMember (members : List (Text × Json)) (key : Text) (value : Json) : List (Text × Json) :=
  if members.any (·.1 = key) then members.map fun m => if m.1 = key then (key, value) else m
  else members ++ [(key, value)]

/-- The member of an object with the given key. -/
def member? : Json → Text → Option Json
  | .obj members, key => members.lookup key
  | _, _ => none

/-- Does the value count as present? Null, false, zero and everything empty do not. -/
def isTruthy : Json → Bool
  | .null => false
  | .bool b => b
  | .int n => n ≠ 0
  | .float x => !x.isZero
  | .str s => s ≠ ""
  | .unpaired _ => true
  | .arr items => !items.isEmpty
  | .obj members => !members.isEmpty

/-- A text as a value. -/
def ofText : Text → Json
  | .whole s => .str s
  | .unpaired codes => .unpaired codes

/-- The text of a string, with U+FFFD for each half of a surrogate pair. -/
def text? : Json → Option String
  | .str s => some s
  | .unpaired codes => some (stringOfCodes codes)
  | _ => none

/-- A text, or null for none. -/
def ofText? : Option String → Json
  | some s => .str s
  | none => .null

/-- An integer, or null for none. -/
def ofInt? : Option Int → Json
  | some n => .int n
  | none => .null

end Json
end OpReturn
