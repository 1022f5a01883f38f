/-!
# Punycode

A text as ASCII: its ASCII characters come first, then the others, in the order of their code
points, each as a number that tells how far it lies from the one before. A number is written in
digits of a base that changes from digit to digit, least significant first, and ends with the
first digit below a threshold; the thresholds adapt to the numbers so far.

* `encode`: the ASCII form of a text.
* `decode`: the code points of an ASCII form, if it is one. They need not all be characters, as
  nothing keeps halves of surrogate pairs out.
-/

namespace OpReturn.Punycode

/-! ## Digits and thresholds -/

/-- The digit for a value below thirty-six: the small letters, then the decimal digits. -/
def digit (d : Nat) : Char := Char.ofNat (if d < 26 then 0x61 + d else 22 + d)

/-- The value of a digit. Letters may be of either case. -/
def digit? (c : Char) : Option Nat :=
  if 'a' ≤ c ∧ c ≤ 'z' then some (c.toNat - 0x61)
  else if 'A' ≤ c ∧ c ≤ 'Z' then some (c.toNat - 0x41)
  else if '0' ≤ c ∧ c ≤ '9' then some (c.toNat - 22)
  else none

/-- The threshold of the digit that stands `36 * k` before the bias runs out: between one and
twenty-six. -/
def threshold (k bias : Nat) : Nat := max 1 (min 26 (k - bias))

theorem threshold_pos (k bias : Nat) : 1 ≤ threshold k bias := Nat.le_max_left ..

/-- The bias for the next number after one whose size, scaled down, is `size`. -/
def biasOf (offset size : Nat) : Nat :=
  if h : 455 < size then
    have : size / 35 < size := Nat.div_lt_self (by omega) (by decide)
    biasOf (offset + 36) (size / 35)
  else offset + 36 * size / (size + 38)
termination_by size

/-- The bias after a number, when `count` characters have been placed. -/
def adapt (n count : Nat) (isFirst : Bool) : Nat :=
  let scaled := if isFirst then n / 700 else n / 2
  biasOf 0 (scaled + scaled / count)

/-- The bias that the first number is written with. -/
def firstBias : Nat := 72

/-! ## Writing -/

/-- The digits of a number, from the digit of the given place on. -/
def digitsOf (bias k n : Nat) : List Char :=
  let t := threshold k bias
  if h : n < t then [digit n]
  else
    have : (n - t) / (36 - t) < n := by
      have h1 : 1 ≤ t := threshold_pos k bias
      have h2 := Nat.div_le_self (n - t) (36 - t)
      omega
    digit (t + (n - t) % (36 - t)) :: digitsOf bias (k + 36) ((n - t) / (36 - t))
termination_by n

/-- The writing of a text under way: the digits so far, last first, the number for the next
character, the bias, and how many characters have been written. -/
structure Writing where
  digits : List Char
  gap : Nat
  bias : Nat
  count : Nat

/-- Passes a character of the text in the round of the code point `n`, with `basic` ASCII
characters in the text. -/
def Writing.pass (basic n : Nat) (w : Writing) (c : Char) : Writing :=
  if c.toNat < n then { w with gap := w.gap + 1 }
  else if c.toNat = n then
    { digits := (digitsOf w.bias 36 w.gap).reverse ++ w.digits
      gap := 0
      bias := adapt w.gap (w.count + 1) (w.count = basic)
      count := w.count + 1 }
  else w

/-- Writes the characters of a text with the given code points, which are in order; `from'` is
the least code point not yet looked at. -/
def writeFrom (text : List Char) (basic : Nat) : (from' : Nat) → List Nat → Writing → Writing
  | _, [], w => w
  | from', n :: codes, w =>
    let w := text.foldl (Writing.pass basic n)
      { w with gap := w.gap + (n - from') * (w.count + 1) }
    writeFrom text basic (n + 1) codes { w with gap := w.gap + 1 }

/-- A code point put in its place among others, which are in order and without repeats. -/
def insertCode (n : Nat) : List Nat → List Nat
  | [] => [n]
  | k :: codes => if n < k then n :: k :: codes else if n = k then k :: codes
      else k :: insertCode n codes

/-- The ASCII form of a text. -/
def encode (text : List Char) : List Char :=
  let basic := text.filter (·.toNat < 0x80)
  let codes := (text.filter (0x80 ≤ ·.toNat)).foldl (fun codes c => insertCode c.toNat codes) []
  let w := writeFrom text basic.length 0x80 codes ⟨[], 0, firstBias, basic.length⟩
  basic ++ (if basic.isEmpty then [] else ['-']) ++ w.digits.reverse

/-! ## Reading -/

/-- The number at the front, added to `n`, and what follows it; `weight` is the weight of the
digit of the given place. -/
def numberFrom (bias : Nat) : (k weight n : Nat) → List Char → Option (Nat × List Char)
  | _, _, _, [] => none
  | k, weight, n, c :: s =>
    match digit? c with
    | none => none
    | some d =>
      let t := threshold k bias
      if d < t then some (n + d * weight, s)
      else numberFrom bias (k + 36) (weight * (36 - t)) (n + d * weight) s

theorem length_of_numberFrom {bias k weight n : Nat} {s : List Char} {r : Nat × List Char}
    (h : numberFrom bias k weight n s = some r) : r.2.length < s.length := by
  induction s generalizing k weight n with
  | nil => simp [numberFrom] at h
  | cons c s ih =>
    rw [numberFrom] at h
    split at h
    · cases h
    · dsimp only at h
      split at h
      · cases h; simp
      · exact Nat.lt_succ_of_lt (ih h)

/-- The code points that the rest of an ASCII form makes of those so far: the last one put in is
`code`, at `place - 1`. -/
def readFrom (bias code place : Nat) (isFirst : Bool) (text : List Nat) (s : List Char) :
    Option (List Nat) :=
  if s.isEmpty then some text
  else
    match h : numberFrom bias 36 1 0 s with
    | none => none
    | some (n, rest) =>
      have : rest.length < s.length := length_of_numberFrom h
      let size := text.length + 1
      let code := code + (place + n) / size
      let index := (place + n) % size
      if code < 0x110000 then
        readFrom (adapt n size isFirst) code (index + 1) false (text.insertIdx index code) rest
      else none
termination_by s.length

/-- The code points of an ASCII form. What stands before the last hyphen are its ASCII
characters. -/
def decode (s : List Char) : Option (List Nat) :=
  let coded := (s.reverse.takeWhile (· ≠ '-')).reverse
  let basic := s.take (s.length - coded.length - 1)
  readFrom firstBias 0x80 0 true (basic.map Char.toNat) coded

end OpReturn.Punycode
