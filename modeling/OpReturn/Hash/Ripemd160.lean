import OpReturn.Bytes

/-!
# RIPEMD-160

Two lines of eighty steps run over each block side by side, from the same state, and are combined
crosswise. A step is told which word of the block it takes, by how many places it rotates, which
Boolean function mixes and which constant is added.

* `length_digest`: a digest has 20 bytes.
-/

namespace OpReturn
namespace Ripemd160

/-! ## The state -/

/-- The five words that a block transforms. -/
structure State where
  a : UInt32
  b : UInt32
  c : UInt32
  d : UInt32
  e : UInt32
deriving DecidableEq, Repr

/-- The state before the first block. -/
def State.initial : State := ⟨0x67452301, 0xefcdab89, 0x98badcfe, 0x10325476, 0xc3d2e1f0⟩

/-- The bytes of a word, least significant first. -/
def wordBytes (w : UInt32) : Bytes :=
  [w.toUInt8, (w >>> 8).toUInt8, (w >>> 16).toUInt8, (w >>> 24).toUInt8]

/-- The digest that a state stands for. -/
def State.bytes (s : State) : Bytes :=
  wordBytes s.a ++ wordBytes s.b ++ wordBytes s.c ++ wordBytes s.d ++ wordBytes s.e

/-! ## The padded message -/

/-- The message, a one bit, zeros up to eight bytes short of a whole block, and the message's
length in bits. -/
def pad (message : Bytes) : Bytes :=
  message ++ 0x80 :: (List.replicate ((119 - message.length % 64) % 64) 0
    ++ Bytes.ofNatLE 8 (8 * message.length))

/-- The words of a block, each least significant byte first. -/
def words : Bytes → List UInt32
  | a :: b :: c :: d :: s =>
    (a.toUInt32 ||| b.toUInt32 <<< 8 ||| c.toUInt32 <<< 16 ||| d.toUInt32 <<< 24) :: words s
  | _ => []

/-! ## The two lines -/

/-- Rotates a word left. -/
def rotl (w n : UInt32) : UInt32 := (w <<< n) ||| (w >>> (32 - n))

/-- The mixing function of the given number. -/
def mix (number : Nat) (x y z : UInt32) : UInt32 :=
  match number with
  | 0 => x ^^^ y ^^^ z
  | 1 => (x &&& y) ||| (~~~x &&& z)
  | 2 => (x ||| ~~~y) ^^^ z
  | 3 => (x &&& z) ||| (y &&& ~~~z)
  | _ => x ^^^ (y ||| ~~~z)

/-- Sixteen steps that share a mixing function and a constant: for each, the place of its word in
the block and the number of places it rotates by. -/
structure Round where
  number : Nat
  constant : UInt32
  steps : List (Nat × UInt32)

/-- One step. -/
def step (block : List UInt32) (r : Round) (s : State) (place : Nat × UInt32) : State :=
  let t := rotl (s.a + mix r.number s.b s.c s.d + block.getD place.1 0 + r.constant) place.2 + s.e
  ⟨s.e, t, s.b, rotl s.c 10, s.d⟩

/-- The rounds of the left line. -/
def left : List Round := [
  ⟨0, 0x00000000, [(0, 11), (1, 14), (2, 15), (3, 12), (4, 5), (5, 8), (6, 7), (7, 9),
    (8, 11), (9, 13), (10, 14), (11, 15), (12, 6), (13, 7), (14, 9), (15, 8)]⟩,
  ⟨1, 0x5a827999, [(7, 7), (4, 6), (13, 8), (1, 13), (10, 11), (6, 9), (15, 7), (3, 15),
    (12, 7), (0, 12), (9, 15), (5, 9), (2, 11), (14, 7), (11, 13), (8, 12)]⟩,
  ⟨2, 0x6ed9eba1, [(3, 11), (10, 13), (14, 6), (4, 7), (9, 14), (15, 9), (8, 13), (1, 15),
    (2, 14), (7, 8), (0, 13), (6, 6), (13, 5), (11, 12), (5, 7), (12, 5)]⟩,
  ⟨3, 0x8f1bbcdc, [(1, 11), (9, 12), (11, 14), (10, 15), (0, 14), (8, 15), (12, 9), (4, 8),
    (13, 9), (3, 14), (7, 5), (15, 6), (14, 8), (5, 6), (6, 5), (2, 12)]⟩,
  ⟨4, 0xa953fd4e, [(4, 9), (0, 15), (5, 5), (9, 11), (7, 6), (12, 8), (2, 13), (10, 12),
    (14, 5), (1, 12), (3, 13), (8, 14), (11, 11), (6, 8), (15, 5), (13, 6)]⟩]

/-- The rounds of the right line. -/
def right : List Round := [
  ⟨4, 0x50a28be6, [(5, 8), (14, 9), (7, 9), (0, 11), (9, 13), (2, 15), (11, 15), (4, 5),
    (13, 7), (6, 7), (15, 8), (8, 11), (1, 14), (10, 14), (3, 12), (12, 6)]⟩,
  ⟨3, 0x5c4dd124, [(6, 9), (11, 13), (3, 15), (7, 7), (0, 12), (13, 8), (5, 9), (10, 11),
    (14, 7), (15, 7), (8, 12), (12, 7), (4, 6), (9, 15), (1, 13), (2, 11)]⟩,
  ⟨2, 0x6d703ef3, [(15, 9), (5, 7), (1, 15), (3, 11), (7, 8), (14, 6), (6, 6), (9, 14),
    (11, 12), (8, 13), (12, 5), (2, 14), (10, 13), (0, 13), (4, 7), (13, 5)]⟩,
  ⟨1, 0x7a6d76e9, [(8, 15), (6, 5), (4, 8), (1, 11), (3, 14), (11, 14), (15, 6), (0, 14),
    (5, 6), (12, 9), (2, 12), (13, 9), (9, 12), (7, 5), (10, 15), (14, 8)]⟩,
  ⟨0, 0x00000000, [(12, 8), (15, 5), (10, 12), (4, 9), (1, 12), (5, 5), (8, 14), (7, 6),
    (6, 8), (2, 13), (13, 6), (14, 5), (0, 15), (3, 13), (9, 11), (11, 11)]⟩]

/-- The state after all rounds of a line. -/
def runLine (block : List UInt32) (rounds : List Round) (s : State) : State :=
  rounds.foldl (fun s r => r.steps.foldl (step block r) s) s

/-- The state after a block. -/
def compress (s : State) (block : Bytes) : State :=
  let l := runLine (words block) left s
  let r := runLine (words block) right s
  ⟨s.b + l.c + r.d, s.c + l.d + r.e, s.d + l.e + r.a, s.e + l.a + r.b, s.a + l.b + r.c⟩

/-- The state after the first `n` blocks of a padded message. -/
def absorb : (n : Nat) → State → Bytes → State
  | 0, s, _ => s
  | n + 1, s, m => absorb n (compress s (m.take 64)) (m.drop 64)

end Ripemd160

/-! ## The digest -/

/-- The RIPEMD-160 digest of a message. -/
def ripemd160 (message : Bytes) : Bytes :=
  let padded := Ripemd160.pad message
  (Ripemd160.absorb (padded.length / 64) Ripemd160.State.initial padded).bytes

namespace Ripemd160

@[simp] theorem length_digest (message : Bytes) : (ripemd160 message).length = 20 := by
  simp [ripemd160, State.bytes, wordBytes]

end Ripemd160
end OpReturn
