import Mathlib.Data.List.Induction
import OpReturn.Proofs.Script.Walk
import OpReturn.Record.Keyed

/-!
# Attributes as fields give them

The fields behind the command of a keyed record are taken two at a time, a key and its value, and
set one after another. What this comes to can be told at once: the keys are the distinct ones in the
order in which they first appear, and each has the value of its last appearance. Keys are compared
as texts, so two fields that are not the same bytes may well be the same key.

* `Attributes.keys_ofList`, `Attributes.mem_ofList_iff`: what setting pairs in order comes to.
* `KeyedRecord.getElem?_pairsOf`: the pairs that fields give, by their places.

**Theorem (`KeyedRecord.decode_fields`).** A payload that is not empty and parses strictly reads as
the table of its fields, and no other payload reads as a table.
-/

namespace OpReturn

/-! ## Pairs set in order -/

theorem setPair_of_not_mem {key value : String} {pairs : List (String × String)}
    (h : key ∉ pairs.map Prod.fst) : setPair key value pairs = pairs ++ [(key, value)] := by
  induction pairs with
  | nil => rfl
  | cons pair pairs ih =>
    rw [List.map_cons, List.mem_cons, not_or] at h
    rw [setPair, if_neg fun heq => h.1 heq.symm, ih h.2, List.cons_append]

theorem length_setPair_le (key value : String) (pairs : List (String × String)) :
    (setPair key value pairs).length ≤ pairs.length + 1 := by
  induction pairs with
  | nil => exact Nat.le_refl _
  | cons pair pairs ih =>
    rw [setPair]
    split_ifs
    · exact Nat.le_succ _
    · exact Nat.succ_le_succ ih

theorem mem_setPair_iff {key value : String} {pairs : List (String × String)}
    (h : (pairs.map Prod.fst).Nodup) {pair : String × String} :
    pair ∈ setPair key value pairs ↔ pair = (key, value) ∨ pair ∈ pairs ∧ pair.1 ≠ key := by
  induction pairs with
  | nil => simp [setPair]
  | cons first pairs ih =>
    obtain ⟨hnew, h⟩ := List.nodup_cons.mp h
    rw [setPair]
    split_ifs with hkey
    · have hother : ∀ p ∈ pairs, p.1 ≠ key := by
        intro p hmem heq
        exact hnew (hkey ▸ heq ▸ List.mem_map_of_mem hmem)
      rw [List.mem_cons, List.mem_cons]
      constructor
      · rintro (rfl | hmem)
        · exact Or.inl rfl
        · exact Or.inr ⟨Or.inr hmem, hother pair hmem⟩
      · rintro (rfl | ⟨rfl | hmem, hne⟩)
        · exact Or.inl rfl
        · exact absurd hkey hne
        · exact Or.inr hmem
    · rw [List.mem_cons, List.mem_cons, ih h]
      constructor
      · rintro (rfl | rfl | ⟨hmem, hne⟩)
        · exact Or.inr ⟨Or.inl rfl, hkey⟩
        · exact Or.inl rfl
        · exact Or.inr ⟨Or.inr hmem, hne⟩
      · rintro (rfl | ⟨rfl | hmem, hne⟩)
        · exact Or.inr (Or.inl rfl)
        · exact Or.inl rfl
        · exact Or.inr (Or.inr ⟨hmem, hne⟩)

theorem getElem?_concat_iff {α : Type} {xs : List α} {a b : α} {i : Nat} :
    (xs ++ [a])[i]? = some b ↔ xs[i]? = some b ∨ i = xs.length ∧ a = b := by
  rcases Nat.lt_trichotomy i xs.length with hlt | rfl | hgt
  · rw [List.getElem?_append_left hlt]
    simp [Nat.ne_of_lt hlt]
  · simp
  · rw [List.getElem?_eq_none (by rw [List.length_append]; exact hgt),
      List.getElem?_eq_none (Nat.le_of_lt hgt)]
    simp [Nat.ne_of_gt hgt]

namespace Attributes

theorem ofList_concat (pairs : List (String × String)) (pair : String × String) :
    ofList (pairs ++ [pair]) = (ofList pairs).insert pair.1 pair.2 := by
  rw [ofList, List.foldl_append]
  rfl

theorem length_ofList_le (pairs : List (String × String)) :
    (ofList pairs).pairs.length ≤ pairs.length := by
  induction pairs using List.reverseRecOn with
  | nil => exact Nat.le_refl _
  | append_singleton pairs pair ih =>
    have hset := length_setPair_le pair.1 pair.2 (ofList pairs).pairs
    rw [ofList_concat, List.length_append, List.length_singleton]
    exact Nat.le_trans hset (Nat.succ_le_succ ih)

theorem pairs_ofList {pairs : List (String × String)} (h : (pairs.map Prod.fst).Nodup) :
    (ofList pairs).pairs = pairs := by
  induction pairs using List.reverseRecOn with
  | nil => rfl
  | append_singleton pairs pair ih =>
    rw [List.map_append, List.nodup_append] at h
    obtain ⟨hold, -, hnew⟩ := h
    have hkey : pair.1 ∉ pairs.map Prod.fst := fun hmem => hnew _ hmem _ List.mem_cons_self rfl
    rw [ofList_concat]
    show setPair pair.1 pair.2 (ofList pairs).pairs = pairs ++ [pair]
    rw [ih hold, setPair_of_not_mem hkey]

theorem ofList_pairs (a : Attributes) : ofList a.pairs = a := by
  have h := pairs_ofList a.nodup
  cases hof : ofList a.pairs with
  | mk pairs _ =>
    rw [hof] at h
    subst h
    rfl

/-- **The keys are the distinct ones in the order in which they first appear.** -/
theorem keys_ofList (pairs : List (String × String)) :
    (ofList pairs).pairs.map Prod.fst = (pairs.map Prod.fst).eraseDups := by
  induction pairs using List.reverseRecOn with
  | nil => rfl
  | append_singleton pairs pair ih =>
    rw [ofList_concat]
    show (setPair pair.1 pair.2 (ofList pairs).pairs).map Prod.fst = _
    have hmem : pair.1 ∈ (pairs.map Prod.fst).eraseDups ↔ pair.1 ∈ pairs.map Prod.fst :=
      List.mem_eraseDups
    rw [keys_setPair, ih, List.map_append, List.eraseDups_append, List.map_singleton]
    by_cases hold : pair.1 ∈ pairs.map Prod.fst
    · rw [if_pos (hmem.mpr hold)]
      simp [List.removeAll, hold]
    · rw [if_neg (mt hmem.mp hold)]
      simp [List.removeAll, hold, List.eraseDups_cons]

/-- **Each key has the value that it is set to last.** -/
theorem mem_ofList_iff {pairs : List (String × String)} {pair : String × String} :
    pair ∈ (ofList pairs).pairs ↔ ∃ i, pairs[i]? = some pair ∧
      ∀ (j : Nat) (later : String × String), i < j → pairs[j]? = some later → later.1 ≠ pair.1 := by
  induction pairs using List.reverseRecOn with
  | nil => simp [ofList, empty]
  | append_singleton pairs last ih =>
    have hset : pair ∈ (ofList (pairs ++ [last])).pairs ↔
        pair = last ∨ pair ∈ (ofList pairs).pairs ∧ pair.1 ≠ last.1 := by
      rw [ofList_concat]
      exact mem_setPair_iff (ofList pairs).nodup
    rw [hset, ih]
    simp only [getElem?_concat_iff]
    constructor
    · rintro (rfl | ⟨⟨i, hi, hlast⟩, hne⟩)
      · refine ⟨pairs.length, Or.inr ⟨rfl, rfl⟩, ?_⟩
        rintro j later hj (hold | ⟨rfl, -⟩)
        · have hlt : j < pairs.length := (List.getElem?_eq_some_iff.mp hold).1
          omega
        · omega
      · refine ⟨i, Or.inl hi, ?_⟩
        rintro j later hj (hold | ⟨-, rfl⟩)
        · exact hlast j later hj hold
        · exact hne.symm
    · rintro ⟨i, hi | ⟨-, rfl⟩, hlast⟩
      · have hlt : i < pairs.length := (List.getElem?_eq_some_iff.mp hi).1
        refine Or.inr ⟨⟨i, hi, fun j later hj hold => hlast j later hj (Or.inl hold)⟩, ?_⟩
        exact (hlast _ last hlt (Or.inr ⟨rfl, rfl⟩)).symm
      · exact Or.inl rfl

end Attributes

/-! ## Pairs from fields -/

namespace KeyedRecord

/-- The pair that fields hold in a place, counted from 0: the text of a key, and that of the value
right behind it, which is a space if it is the byte zero. -/
def pairAt? (fields : List Chunk) (i : Nat) : Option (String × String) :=
  match fields[2 * i]?, fields[2 * i + 1]? with
  | some key, some value =>
    some (Utf8.decode key.data, if value.data = [0x00] then " " else Utf8.decode value.data)
  | _, _ => none

/-- The keys that fields hold, in order. The last of an odd number of fields is none. -/
def keysIn (fields : List Chunk) : List String :=
  (List.range (fields.length / 2)).filterMap fun i => (pairAt? fields i).map Prod.fst

theorem pairsOf_acc (acc : List (String × String)) :
    ∀ fields, pairsOf acc fields = acc.reverse ++ pairsOf [] fields
  | [] | [_] => by simp [pairsOf]
  | key :: value :: fields => by
    rw [pairsOf, pairsOf, pairsOf_acc (_ :: acc) fields, pairsOf_acc [_] fields]
    simp

theorem pairsOf_cons (key value : Chunk) (fields : List Chunk) :
    pairsOf [] (key :: value :: fields) =
      (Utf8.decode key.data, valueText value.data) :: pairsOf [] fields := by
  rw [pairsOf, pairsOf_acc]
  rfl

theorem length_pairsOf : ∀ fields, (pairsOf [] fields).length = fields.length / 2
  | [] | [_] => by simp [pairsOf]
  | key :: value :: fields => by
    rw [pairsOf_cons, List.length_cons, length_pairsOf fields, List.length_cons, List.length_cons]
    omega

theorem getElem?_pairsOf : ∀ fields i, (pairsOf [] fields)[i]? = pairAt? fields i
  | [], i | [_], i => by simp [pairsOf, pairAt?]
  | key :: value :: fields, 0 => by
    rw [pairsOf_cons]
    rfl
  | key :: value :: fields, i + 1 => by
    rw [pairsOf_cons, List.getElem?_cons_succ, getElem?_pairsOf fields i]
    rfl

theorem filterMap_range_getElem? {α : Type} (xs : List α) :
    (List.range xs.length).filterMap (xs[·]?) = xs := by
  induction xs with
  | nil => rfl
  | cons x xs ih =>
    rw [List.length_cons, List.range_succ_eq_map, List.filterMap_cons, List.filterMap_map]
    exact congrArg (x :: ·) ih

theorem map_fst_pairsOf (fields : List Chunk) :
    (pairsOf [] fields).map Prod.fst = keysIn fields := by
  rw [keysIn, ← length_pairsOf]
  simp only [← getElem?_pairsOf]
  rw [← List.map_filterMap, filterMap_range_getElem?]

/-! ## Payloads -/

/-- **A payload reads as the table of its fields**: what the first chunk says is the command, the
keys are the distinct ones in the order of their first appearance, and each has the value of its
last. Only the empty payload, and one that is cut short, reads as no table. -/
theorem decode_fields (payload : Bytes) :
    (decode payload = none ↔ payload = [] ∨ ∃ e, Chunk.parseAll payload = .error e) ∧
    ∀ command fields, Chunk.parseAll payload = .ok (command :: fields) →
      ∃ record, decode payload = some record ∧ record.command = Utf8.decode command.data ∧
        record.attributes.pairs.map Prod.fst = (keysIn fields).eraseDups ∧
        ∀ key value, (key, value) ∈ record.attributes.pairs ↔
          ∃ i, pairAt? fields i = some (key, value) ∧
            ∀ (j : Nat) (later : String × String), i < j → pairAt? fields j = some later →
              later.1 ≠ key := by
  have hread : ∀ command fields, Chunk.parseAll payload = .ok (command :: fields) →
      decode payload = some ⟨Utf8.decode command.data, .ofList (pairsOf [] fields)⟩ := by
    intro command fields h
    rw [decode, h]
  constructor
  · cases hparse : Chunk.parseAll payload with
    | error e =>
      rw [decode, hparse]
      simp
    | ok chunks =>
      cases chunks with
      | nil =>
        rw [decode, hparse]
        simp [parseAll_eq_nil_iff.mp hparse]
      | cons command fields =>
        have hne : payload ≠ [] := by
          rintro rfl
          cases (parseAll_eq_nil_iff.mpr rfl).symm.trans hparse
        simp [hread command fields hparse, hne]
  · intro command fields hparse
    refine ⟨_, hread command fields hparse, rfl, ?_, fun key value => ?_⟩
    · rw [Attributes.keys_ofList, map_fst_pairsOf]
    · rw [Attributes.mem_ofList_iff]
      simp only [getElem?_pairsOf]

/-- A table whose first and third key are bytes that are no text, with a null as a value and a key
without one. -/
def collidingPayload : Bytes :=
  [0x03, 0x53, 0x45, 0x54, 0x01, 0xFF, 0x01, 0x61, 0x01, 0x62, 0x4C, 0x01, 0x00,
    0x01, 0xFE, 0x01, 0x63, 0x01, 0x64]

/-- The two keys are one, with the place of the first and the value of the second. -/
theorem decode_fields_colliding :
    ∃ command fields record, Chunk.parseAll collidingPayload = .ok (command :: fields) ∧
      decode collidingPayload = some record ∧
      record.attributes.pairs = [("\uFFFD", "c"), ("b", " ")] ∧
      record.attributes.pairs.map Prod.fst = (keysIn fields).eraseDups ∧
      ∃ i, pairAt? fields i = some ("\uFFFD", "c") ∧
        ∀ (j : Nat) (later : String × String), i < j → pairAt? fields j = some later →
          later.1 ≠ "\uFFFD" := by
  let fields : List Chunk := [⟨0x01, [0xFF]⟩, ⟨0x01, [0x61]⟩, ⟨0x01, [0x62]⟩, ⟨0x4C, [0x00]⟩,
    ⟨0x01, [0xFE]⟩, ⟨0x01, [0x63]⟩, ⟨0x01, [0x64]⟩]
  have hparse : Chunk.parseAll collidingPayload = .ok (⟨0x03, [0x53, 0x45, 0x54]⟩ :: fields) := by
    decide +kernel
  obtain ⟨record, hrecord, -, hkeys, hpairs⟩ := (decode_fields collidingPayload).2 _ _ hparse
  have hsame : record = ⟨"SET", [("\uFFFD", "c"), ("b", " ")], by decide⟩ :=
    Option.some.inj (hrecord.symm.trans (by decide +kernel))
  subst hsame
  exact ⟨_, _, _, hparse, hrecord, rfl, hkeys, (hpairs _ _).mp List.mem_cons_self⟩

end KeyedRecord
end OpReturn
