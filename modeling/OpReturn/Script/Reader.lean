import OpReturn.Script.Chunk

/-!
# Reading scripts

`Step.read` takes one chunk off the front of a script. When the script ends inside a push, the
step carries the data that is there together with the `Cut` that was met; a lenient reader goes on
with what it got and a strict one stops, so the two agree on every chunk before a cut.

* `walk` is the lenient walk: every step of a script in order, with its offset.
* `Chunk.parseAll` is the strict one: all chunks, or the first cut.
* `readOp` and `iterate` read from any position of a script, in either mode.
-/

namespace OpReturn

/-! ## One step -/

/-- How a script ends inside a push. -/
inductive Cut where
  /-- The length of the data is incomplete. -/
  | length (op : UInt8)
  /-- There is less data than the length says. -/
  | data (expected got : Nat)
deriving DecidableEq, Repr

/-- One chunk taken off a script: the chunk, the number of bytes it took, what is left, and
whether the script was cut off inside it. -/
structure Step where
  chunk : Chunk
  size : Nat
  rest : Bytes
  cut : Option Cut
deriving DecidableEq, Repr

/-- Takes the data of a push whose opcode and length took `header` bytes. -/
def Step.push (op : UInt8) (header len : Nat) (s : Bytes) : Step :=
  let data := s.take len
  { chunk := ⟨op, data⟩
    size := header + data.length
    rest := s.drop len
    cut := if data.length < len then some (.data len data.length) else none }

/-- Takes one chunk off the bytes that follow its opcode. -/
def Step.read (op : UInt8) (s : Bytes) : Step :=
  match Opcode.lengthWidth? op with
  | none => ⟨⟨op, []⟩, 1, s, none⟩
  | some 0 => .push op 1 op.toNat s
  | some width =>
    let field := s.take width
    if field.length < width then ⟨⟨op, []⟩, 1 + field.length, [], some (.length op)⟩
    else .push op (1 + width) (Bytes.toNatLE field) (s.drop width)

theorem Step.rest_length_push (op : UInt8) (header len : Nat) (s : Bytes) :
    (Step.push op header len s).rest.length ≤ s.length := by
  simp [Step.push]

theorem Step.rest_length_le (op : UInt8) (s : Bytes) :
    (Step.read op s).rest.length ≤ s.length := by
  unfold Step.read
  split
  · exact Nat.le_refl _
  · exact rest_length_push ..
  · dsimp only
    split
    · simp
    · exact Nat.le_trans (rest_length_push ..) (by simp)

/-! ## The lenient walk -/

/-- The steps of a script that starts at offset `offset`, after those in `acc`, last first. -/
def walkFrom (offset : Nat) (acc : List (Nat × Step)) : Bytes → List (Nat × Step)
  | [] => acc.reverse
  | op :: s =>
    let step := Step.read op s
    walkFrom (offset + step.size) ((offset, step) :: acc) step.rest
termination_by s => s.length
decreasing_by simp only [List.length_cons]; exact Nat.lt_succ_of_le (Step.rest_length_le op s)

/-- Every step of a script, with its offset. -/
def walk (script : Bytes) : List (Nat × Step) := walkFrom 0 [] script

/-- The offset of the first step whose chunk passes a test, in a script that starts at offset
`offset`. -/
def seekFrom (test : Chunk → Bool) (offset : Nat) : Bytes → Option Nat
  | [] => none
  | op :: s =>
    let step := Step.read op s
    if test step.chunk then some offset else seekFrom test (offset + step.size) step.rest
termination_by s => s.length
decreasing_by simp only [List.length_cons]; exact Nat.lt_succ_of_le (Step.rest_length_le op s)

/-- The offset of the first chunk of a script that passes a test, on the lenient walk. -/
def seek (test : Chunk → Bool) (script : Bytes) : Option Nat := seekFrom test 0 script

/-! ## Reading in either mode -/

/-- Why a script could not be read. -/
inductive ScriptError where
  /-- There is no opcode at the offset. -/
  | pastEnd (offset : Int)
  | cut (cut : Cut)
deriving DecidableEq, Repr

/-- What went wrong, in words. -/
def ScriptError.message : ScriptError → String
  | .pastEnd offset => "Read past end of script at offset " ++ toString offset
  | .cut (.length op) =>
    "Truncated length prefix for opcode 0x" ++ String.ofList (Nat.toDigits 16 op.toNat)
  | .cut (.data expected got) =>
    "Script truncated: expected " ++ toString expected ++ " bytes, got " ++ toString got

/-- The step, unless the mode refuses it. -/
def Step.check (step : Step) (mode : Mode) : Except ScriptError Step :=
  match mode, step.cut with
  | .strict, some cut => .error (.cut cut)
  | _, _ => .ok step

/-- Reads the chunk at an offset. -/
def readOp (script : Bytes) (offset : Int) (mode : Mode) : Except ScriptError Step :=
  if offset < 0 then .error (.pastEnd offset)
  else match script.drop offset.toNat with
    | [] => .error (.pastEnd offset)
    | op :: s => (Step.read op s).check mode

/-- The steps that a mode gets from a walk, and the error that stopped it. -/
def checkAll (mode : Mode) (acc : List (Nat × Step)) :
    List (Nat × Step) → List (Nat × Step) × Option ScriptError
  | [] => (acc.reverse, none)
  | (offset, step) :: steps =>
    match step.check mode with
    | .ok step => checkAll mode ((offset, step) :: acc) steps
    | .error e => (acc.reverse, some e)

/-- The steps from an offset to the end of the script, with their offsets, and the error that
stopped the reading if one did. An offset at or past the end gives no steps; a negative one is an
error. -/
def iterate (script : Bytes) (start : Int) (mode : Mode) :
    List (Nat × Step) × Option ScriptError :=
  if start < 0 then ([], some (.pastEnd start))
  else checkAll mode [] (walkFrom start.toNat [] (script.drop start.toNat))

/-! ## Strict parsing -/

/-- The chunks of a walk after those in `acc`, last first, or its first cut. -/
def Chunk.ofSteps (acc : List Chunk) : List (Nat × Step) → Except ScriptError (List Chunk)
  | [] => .ok acc.reverse
  | (_, step) :: steps =>
    match step.cut with
    | none => Chunk.ofSteps (step.chunk :: acc) steps
    | some cut => .error (.cut cut)

/-- All chunks of a script, or the cut in its last push. -/
def Chunk.parseAll (script : Bytes) : Except ScriptError (List Chunk) :=
  Chunk.ofSteps [] (walk script)

end OpReturn
