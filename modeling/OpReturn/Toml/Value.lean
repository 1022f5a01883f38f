import OpReturn.Json.Value
import OpReturn.Text.Decimal
import OpReturn.Text.Quoted
import OpReturn.Toml.Moment

/-!
# Setting values

What a configuration can give a setting. Settings keep the type that they were given, so a value
can be asked for its type, its truth and its text. A file gives no value `null`; it stands for a
setting that is left open.
-/

namespace OpReturn.Toml

/-- The value of a setting. -/
inductive Value where
  | null
  | str (s : String)
  | int (n : Int)
  | float (x : Binary64)
  | bool (b : Bool)
  | moment (m : Moment)
  | array (items : List Value)
  | table (members : List (String × Value))
deriving Inhabited

/-- A table: keys with their values, in the order in which the keys were set. -/
abbrev Table := List (String × Value)

namespace Value

/-- The name of a value's type. -/
def typeName : Value → String
  | .null => "NoneType"
  | .str _ => "str"
  | .int _ => "int"
  | .float _ => "float"
  | .bool _ => "bool"
  | .moment m => m.typeName
  | .array _ => "list"
  | .table _ => "dict"

/-- Does the value count as set? Null, false, zero and everything empty do not. -/
def isTruthy : Value → Bool
  | .null => false
  | .str s => s ≠ ""
  | .int n => n ≠ 0
  | .float x => !x.isZero
  | .bool b => b
  | .moment _ => true
  | .array items => !items.isEmpty
  | .table members => !members.isEmpty

mutual

/-- The text of a value as it stands inside an array or a table: strings are quoted. -/
def describe : Value → String
  | .null => "None"
  | .str s => Quoted.encode s
  | .int n => toString n
  | .float x => x.text
  | .bool b => if b then "True" else "False"
  | .moment m => m.describe
  | .array items => "[" ++ describeItems "" items ++ "]"
  | .table members => "\x7b" ++ describeMembers "" members ++ "\x7d"

/-- Items after those already in `acc`, with commas between them. -/
def describeItems (acc : String) : List Value → String
  | [] => acc
  | item :: items =>
    describeItems ((if acc.isEmpty then acc else acc ++ ", ") ++ describe item) items

/-- Members after those already in `acc`, with commas between them. -/
def describeMembers (acc : String) : List (String × Value) → String
  | [] => acc
  | (key, value) :: members =>
    describeMembers
      ((if acc.isEmpty then acc else acc ++ ", ") ++ Quoted.encode key ++ ": " ++ describe value)
      members

end

/-- The text of a value on its own: a string or a moment stands for itself. -/
def display : Value → String
  | .str s => s
  | .moment m => m.display
  | v => v.describe

/-- Why a value has no text. -/
inductive ShowFault where
  /-- An integer has more than `Decimal.maxDigits` digits. -/
  | tooLong
  /-- Too many arrays and tables stand inside one another. -/
  | tooDeep
deriving DecidableEq, Repr

/-- What went wrong, in words. -/
def ShowFault.message : ShowFault → String
  | .tooLong => Decimal.tooLongToShow
  | .tooDeep => "maximum recursion depth exceeded while getting the repr of an object"

/-- How many arrays and tables may stand inside one another in a value that has a text. -/
def maxShownDepth : Nat := 991

mutual

/-- The first fault of a value on the way through its parts, if it has no text. `room` is how many
arrays and tables may stand inside one another from here on. -/
def showFault? : (room : Nat) → Value → Option ShowFault
  | _, .int n => if Decimal.isShowable n then none else some .tooLong
  | 0, .array _ | 0, .table _ => some .tooDeep
  | room + 1, .array items => itemsFault? room items
  | room + 1, .table members => membersFault? room members
  | _, _ => none

/-- The first fault of some items. -/
def itemsFault? (room : Nat) : List Value → Option ShowFault
  | [] => none
  | item :: items => (showFault? room item).or (itemsFault? room items)

/-- The first fault of the values of some members. -/
def membersFault? (room : Nat) : List (String × Value) → Option ShowFault
  | [] => none
  | (_, value) :: members => (showFault? room value).or (membersFault? room members)

end

mutual

/-- The value as JSON. -/
def toJson : Value → Json
  | .null => .null
  | .str s => .str s
  | .int n => .int n
  | .float x => .float x
  | .bool b => .bool b
  | .moment m => .str m.display
  | .array items => .arr (itemsJson items)
  | .table members => .obj (membersJson members)

/-- The items as JSON. -/
def itemsJson : List Value → List Json
  | [] => []
  | item :: items => toJson item :: itemsJson items

/-- The members as JSON. -/
def membersJson : List (String × Value) → List (Json.Text × Json)
  | [] => []
  | (key, value) :: members => (key, toJson value) :: membersJson members

end

end Value
end OpReturn.Toml
