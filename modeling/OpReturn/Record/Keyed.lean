import OpReturn.Script.Push
import OpReturn.Script.Reader
import OpReturn.Text.Utf8

/-!
# Keyed records

A keyed record is a command and a table of attributes. Its payload is the push of the command and
then a push for each key and each value in turn. A value pushed as the single byte zero reads as
one space, and a key without a value is dropped.

* `Attributes`: keys with their values, each key once, in the order of first appearance.
* `KeyedRecord.decode`, `KeyedRecord.payload`: from and to payloads.
-/

namespace OpReturn

/-! ## Attributes -/

/-- The pairs after setting a key: a new key goes to the end, a known one keeps its place. -/
def setPair (key value : String) : List (String × String) → List (String × String)
  | [] => [(key, value)]
  | pair :: pairs =>
    if pair.1 = key then (key, value) :: pairs else pair :: setPair key value pairs

theorem keys_setPair (key value : String) (pairs : List (String × String)) :
    (setPair key value pairs).map Prod.fst =
      if key ∈ pairs.map Prod.fst then pairs.map Prod.fst else pairs.map Prod.fst ++ [key] := by
  induction pairs with
  | nil => rfl
  | cons pair pairs ih =>
    unfold setPair
    by_cases h : pair.1 = key
    · simp [h]
    · have h' : ¬ key = pair.1 := fun e => h e.symm
      by_cases hm : key ∈ pairs.map Prod.fst
      · simp_all
      · simp_all

theorem nodup_setPair (key value : String) {pairs : List (String × String)}
    (h : (pairs.map Prod.fst).Nodup) : ((setPair key value pairs).map Prod.fst).Nodup := by
  rw [keys_setPair]
  split
  · exact h
  · rename_i hm
    rw [List.nodup_append]
    refine ⟨h, by simp, ?_⟩
    intro a ha b hb
    simp only [List.mem_singleton] at hb
    exact fun e => hm (by rw [← hb, ← e]; exact ha)

/-- Keys with their values, each key once. -/
structure Attributes where
  pairs : List (String × String)
  nodup : (pairs.map Prod.fst).Nodup
deriving DecidableEq, Repr

namespace Attributes

/-- No attributes. -/
def empty : Attributes := ⟨[], by simp⟩

/-- Sets a key, which keeps its place if it was there. -/
def insert (a : Attributes) (key value : String) : Attributes :=
  ⟨setPair key value a.pairs, nodup_setPair key value a.nodup⟩

/-- The attributes set by pairs, in order. -/
def ofList (pairs : List (String × String)) : Attributes :=
  pairs.foldl (fun a pair => a.insert pair.1 pair.2) empty

end Attributes

/-! ## Records -/

/-- A command with attributes. -/
structure KeyedRecord where
  command : String
  attributes : Attributes
deriving DecidableEq, Repr

namespace KeyedRecord

/-- The tag of keyed records. -/
def tag : Bytes := Utf8.encode "1PuQa7K62MiKCtssSLKy1kh56WWU7MtUR5"

/-- The text of a pushed value. -/
def valueText (data : Bytes) : String := if data = [0] then " " else Utf8.decode data

/-- The pairs that fields stand for, two at a time. -/
def pairsOf (acc : List (String × String)) : List Chunk → List (String × String)
  | key :: value :: fields =>
    pairsOf ((Utf8.decode key.data, valueText value.data) :: acc) fields
  | _ => acc.reverse

/-- The record of a payload; `none` if it is empty or cut short. -/
def decode (payload : Bytes) : Option KeyedRecord :=
  match Chunk.parseAll payload with
  | .ok (command :: fields) => some ⟨Utf8.decode command.data, .ofList (pairsOf [] fields)⟩
  | _ => none

/-- The items that the payload of a record pushes. -/
def items (record : KeyedRecord) : List Bytes :=
  Utf8.encode record.command
    :: record.attributes.pairs.flatMap fun pair => [Utf8.encode pair.1, Utf8.encode pair.2]

/-- The payload of a record. -/
def payload (record : KeyedRecord) : Except WriteError Bytes := encodePushes record.items

end KeyedRecord
end OpReturn
