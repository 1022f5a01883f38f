import OpReturn.Idna.Eligible
import OpReturn.Text.Mark

/-!
# Directions of writing

In which direction the code points that a label of a domain name may hold are written. A label
with characters from right to left must be so ordered that it reads the same everywhere
(`directionFault?`).
-/

namespace OpReturn.Idna

/-- How a character takes part in the order of a line. -/
inductive Direction where
  | leftToRight
  | rightToLeft
  | number
  | arabicNumber
  /-- A mark goes with the character before it. -/
  | mark
  | neutral
deriving DecidableEq, Repr

/-- Marks that are written from left to right like letters. -/
def leftToRightMarks : CodeSet := [(0xCBF, 0xCBF), (0xCC6, 0xCC6), (0x11A07, 0x11A08),
  (0x11C3F, 0x11C3F)]

/-- Signs without a direction. -/
def neutrals : CodeSet := [
  (0x2D, 0x2D), (0xB7, 0xB7), (0x2B9, 0x2BA), (0x2C6, 0x2CF), (0x2EC, 0x2EC), (0x375, 0x375),
  (0x200C, 0x200D), (0x2E2F, 0x2E2F), (0x30FB, 0x30FB), (0xA67F, 0xA67F), (0xA717, 0xA71F),
  (0xA788, 0xA788)]

/-- The blocks of letters from right to left. -/
def rightToLeftBlocks : CodeSet := [
  (0x5D0, 0x5F4), (0x620, 0x7B1), (0x7C0, 0x858), (0x860, 0x8C9), (0xFE73, 0xFE73),
  (0x10800, 0x10CF2), (0x10D00, 0x10D23), (0x10E80, 0x10F27), (0x10F30, 0x10F45),
  (0x10F70, 0x10FF6), (0x1E800, 0x1E959)]

/-- The direction of a code point. -/
def directionOf (n : Nat) : Direction :=
  if CodeSet.has [(0x30, 0x39), (0x6F0, 0x6F9)] n then .number
  else if CodeSet.has [(0x660, 0x669), (0x10D30, 0x10D39)] n then .arabicNumber
  else if Mark.isNonspacing n && !leftToRightMarks.has n then .mark
  else if neutrals.has n then .neutral
  else if rightToLeftBlocks.has n then .rightToLeft
  else .leftToRight

/-! ## The order of a label -/

/-- What is wrong with the directions in a label. Positions count from one. -/
inductive DirectionFault where
  /-- The direction of a character is not known. -/
  | unknown (position : Nat)
  /-- The label begins with neither a letter nor a sign that fixes its direction. -/
  | first
  /-- A character from left to right stands in a label from right to left. -/
  | inRightToLeft (position : Nat)
  /-- A character from right to left stands in a label from left to right. -/
  | inLeftToRight (position : Nat)
  | mixedNumbers
  | last
deriving DecidableEq, Repr

/-- Does the label end, its marks aside, with a direction that satisfies a test? -/
def endsWith (test : Direction → Bool) (directions : List Direction) : Bool :=
  match directions.reverse.dropWhile (· = .mark) with
  | [] => false
  | d :: _ => test d

/-- The fault of a label from right to left, of which `position` and before have passed; `number`
is the kind of numbers seen so far. -/
def rightToLeftFault? (position : Nat) (number : Option Direction) :
    List Direction → Option DirectionFault
  | [] => none
  | d :: directions =>
    if d = .leftToRight then some (.inRightToLeft (position + 1))
    else if d = .number ∨ d = .arabicNumber then
      match number with
      | none => rightToLeftFault? (position + 1) (some d) directions
      | some kind =>
        if kind = d then rightToLeftFault? (position + 1) number directions
        else some .mixedNumbers
    else rightToLeftFault? (position + 1) number directions

/-- What is wrong with known directions in a label. Nothing is in a label without characters from
right to left. -/
def orderFault? (label : List Nat) : Option DirectionFault :=
  let directions := label.map directionOf
  let isLeftward (d : Direction) : Bool := d = .rightToLeft || d = .arabicNumber
  if !directions.any isLeftward then none
  else match directions with
    | .rightToLeft :: _ =>
      match rightToLeftFault? 0 none directions with
      | some fault => some fault
      | none =>
        if endsWith (fun d => isLeftward d || d = .number) directions then none else some .last
    | .leftToRight :: _ =>
      (directions.findIdx? isLeftward).map fun index => .inLeftToRight (index + 1)
    | _ => some .first

/-- What is wrong with the directions in a label. -/
def directionFault? (label : List Nat) : Option DirectionFault :=
  match label.findIdx? eligibleLater.has with
  | some index => some (.unknown (index + 1))
  | none => orderFault? label

end OpReturn.Idna
