import OpReturn.Script.Push
import OpReturn.Script.Reader

/-!
# Envelopes

An envelope lives after the first `OP_RETURN` of a script: a tag push, the raw opcodes of a
payload, and again tag and payload after every delimiter. What stands before the marker is kept as
it is.

* `Envelope.scan` splits a script into its envelope. It reads leniently and answers for any bytes.
* `Envelope.build` writes a script from its parts.
-/

namespace OpReturn

/-- One tagged entry: its tag, the raw opcodes of its payload, and the offset of the tag in the
script it was scanned from. -/
structure Entry where
  tag : Bytes
  payload : Bytes := []
  offset : Nat := 0
deriving DecidableEq, Repr

/-- The bytes before the marker, and the entries after it. -/
structure Envelope where
  lead : Bytes := []
  entries : List Entry := []
deriving DecidableEq, Repr

/-! ## Markers and delimiters -/

/-- The offset of the first `OP_RETURN` of a script. Bytes inside pushed data are no opcodes. -/
def findMarker (script : Bytes) : Option Nat := seek (·.op = Opcode.opReturn) script

/-- The offset of the first delimiter of a script. -/
def findDelimiter (script : Bytes) : Option Nat := seek Chunk.isDelimiter script

/-- The offset of the first delimiter at or after a position of a script. -/
def findDelimiterFrom (script : Bytes) (start : Int) : Except ScriptError (Option Nat) :=
  if start < 0 then .error (.pastEnd start)
  else .ok (seekFrom Chunk.isDelimiter start.toNat (script.drop start.toNat))

/-! ## Scanning -/

/-- The entries of the bytes that follow a marker or a delimiter and start at `offset`, after
those in `acc`, last first. -/
def Entry.scanFrom (offset : Nat) (acc : List Entry) : Bytes → List Entry
  | [] => acc.reverse
  | op :: s =>
    let step := Step.read op s
    match findDelimiter step.rest with
    | none => (⟨step.chunk.data, step.rest, offset⟩ :: acc).reverse
    | some size =>
      Entry.scanFrom (offset + step.size + size + Chunk.delimiter.length)
        (⟨step.chunk.data, step.rest.take size, offset⟩ :: acc)
        (step.rest.drop (size + Chunk.delimiter.length))
termination_by s => s.length
decreasing_by
  have := Step.rest_length_le op s
  simp only [List.length_drop, List.length_cons]
  omega

/-- The push of an entry's tag and its payload. Payloads are written as they are. -/
def Entry.encode (entry : Entry) : Except WriteError Bytes :=
  (encodePush entry.tag).map (· ++ entry.payload)

namespace Envelope

/-- The envelope of a script; `none` if the script has no marker. -/
def scan (script : Bytes) : Option Envelope :=
  (findMarker script).map fun marker =>
    { lead := script.take marker
      entries := Entry.scanFrom (marker + 1) [] (script.drop (marker + 1)) }

/-- The entries with exactly the given tag, in order. -/
def find (envelope : Envelope) (tag : Bytes) : List Entry :=
  envelope.entries.filter (·.tag = tag)

/-! ## Building -/

/-- A script from the bytes before the marker and the entries after it, with delimiters between
the entries. Without entries there is no marker either. -/
def build (lead : Bytes) (entries : List Entry) : Except WriteError Bytes :=
  if entries.isEmpty then .ok lead
  else (entries.mapM Entry.encode).map fun parts =>
    lead ++ Opcode.opReturn :: (parts.intersperse Chunk.delimiter).flatten

/-- The script of an envelope. -/
def toScript (envelope : Envelope) : Except WriteError Bytes :=
  build envelope.lead envelope.entries

end Envelope
end OpReturn
