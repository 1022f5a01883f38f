import OpReturn.Bytes

/-!
# Opcodes and chunks

A script is a sequence of opcodes. Those up to `pushData4` push data: the opcode itself is the
length of the data up to `maxDirect`, and beyond it the length follows in one, two or four bytes.
-/

namespace OpReturn

namespace Opcode

/-- The largest opcode that is itself the length of the data it pushes. -/
def maxDirect : UInt8 := 0x4B

/-- A push whose length follows in one byte. -/
def pushData1 : UInt8 := 0x4C

/-- A push whose length follows in two bytes. -/
def pushData2 : UInt8 := 0x4D

/-- A push whose length follows in four bytes. -/
def pushData4 : UInt8 := 0x4E

/-- The marker that an envelope follows. -/
def opReturn : UInt8 := 0x6A

/-- How many bytes of length follow a push opcode; `none` for an opcode that pushes nothing. -/
def lengthWidth? (op : UInt8) : Option Nat :=
  if op ≤ maxDirect then some 0
  else if op = pushData1 then some 1
  else if op = pushData2 then some 2
  else if op = pushData4 then some 4
  else none

end Opcode

/-- One opcode, with the data it pushes if it is a push. -/
structure Chunk where
  op : UInt8
  data : Bytes := []
deriving DecidableEq, Repr

namespace Chunk

/-- The byte that separates the entries of an envelope. -/
def separator : Bytes := [0x7C]

/-- The push of the separator. -/
def delimiter : Bytes := [0x01, 0x7C]

/-- Does the chunk separate entries? Only a direct push of the one byte `|` does. -/
def isDelimiter (c : Chunk) : Bool := c.op = 1 && c.data = separator

/-- The chunk of an opcode given by its number, if the number is one. -/
def ofNumber? (op : Int) (data : Bytes) : Option Chunk :=
  if 0 ≤ op ∧ op < 256 then some ⟨UInt8.ofNat op.toNat, data⟩ else none

end Chunk
end OpReturn
