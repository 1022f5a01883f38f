import OpReturn.Bytes

/-!
# Decimal numerals

Integers as ASCII digits: the plain numeral of a number (`ofNat`, `ofInt`) and the value of a
string of digits (`value`). A reader or a writer of numerals may set a limit on their length;
`TooLong` and `isShowable` tell when one is passed.
-/

namespace OpReturn.Decimal

/-- Is the byte an ASCII digit? -/
def isDigit (b : UInt8) : Bool := 0x30 ≤ b && b ≤ 0x39

/-- The digits of a number, most significant first, with no leading zero. -/
def ofNat (n : Nat) : Bytes :=
  if n < 10 then [UInt8.ofNat (0x30 + n)] else ofNat (n / 10) ++ [UInt8.ofNat (0x30 + n % 10)]

/-- The digits of an integer, after a minus sign if it is negative. -/
def ofInt : Int → Bytes
  | .ofNat n => ofNat n
  | .negSucc n => 0x2D :: ofNat (n + 1)

/-- The number that a string of digits stands for. -/
def value (digits : Bytes) : Nat := digits.foldl (fun n b => 10 * n + (b.toNat - 0x30)) 0

/-- The most digits of a numeral that is turned into a number. -/
def maxDigits : Nat := 4300

/-- Has the integer a numeral of at most `maxDigits` digits? -/
def isShowable (n : Int) : Bool := n.natAbs < Nat.pow 10 maxDigits

/-- What is said of an integer whose numeral would have more digits. -/
def tooLongToShow : String :=
  "Exceeds the limit (4300 digits) for integer string conversion; "
    ++ "use sys.set_int_max_str_digits() to increase the limit"

/-- A numeral with more digits than `maxDigits`. -/
structure TooLong where
  digits : Nat
deriving DecidableEq, Repr

/-- What went wrong, in words. -/
def TooLong.message (e : TooLong) : String :=
  "Exceeds the limit (4300 digits) for integer string conversion: value has "
    ++ toString e.digits ++ " digits; use sys.set_int_max_str_digits() to increase the limit"

end OpReturn.Decimal
