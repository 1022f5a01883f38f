import OpReturn.Script.Chunk
import OpReturn.Text.Decimal

/-!
# Writing pushes

Data is pushed in the shortest form that holds it. A length has at most four bytes, so data of
more than `maxPush` bytes cannot be pushed.

Records push their fields as items (`encodeItems`). An integer is pushed as its numeral, and one
with more digits than a numeral may have cannot be written.
-/

namespace OpReturn

/-- The most bytes that one push can carry. -/
def maxPush : Nat := 0xFFFFFFFF

/-- Why something cannot be written. -/
inductive WriteError where
  /-- Data has too many bytes for a push. -/
  | tooLarge (size : Nat)
  /-- An integer has too many digits. -/
  | numeral
deriving DecidableEq, Repr

/-- What went wrong, in words. -/
def WriteError.message : WriteError → String
  | .tooLarge size => "Push data too large: " ++ toString size ++ " bytes"
  | .numeral => Decimal.tooLongToShow

/-- The opcode and length bytes of the shortest push of `size` bytes. -/
def pushHeader (size : Nat) : Bytes :=
  if size ≤ Opcode.maxDirect.toNat then [UInt8.ofNat size]
  else if size ≤ 0xFF then Opcode.pushData1 :: Bytes.ofNatLE 1 size
  else if size ≤ 0xFFFF then Opcode.pushData2 :: Bytes.ofNatLE 2 size
  else Opcode.pushData4 :: Bytes.ofNatLE 4 size

/-- The shortest push of some data. -/
def encodePush (data : Bytes) : Except WriteError Bytes :=
  if data.length ≤ maxPush then .ok (pushHeader data.length ++ data)
  else .error (.tooLarge data.length)

/-- The pushes of several items, one after another. -/
def encodePushes (items : List Bytes) : Except WriteError Bytes :=
  (items.mapM encodePush).map List.flatten

/-- The pushes of items among which are the numerals of the given integers. The numerals are written
before anything is pushed. -/
def encodeItems (integers : List Int) (items : List Bytes) : Except WriteError Bytes :=
  if integers.all Decimal.isShowable then encodePushes items else .error .numeral

end OpReturn
