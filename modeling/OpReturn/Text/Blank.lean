/-!
# White space

The characters that Unicode counts as white space or as a separating control character, and the
two operations that texts need of them: trimming both ends and splitting into fields.

A text is taken apart word by word: white space in front is passed over (`fields_blank`), and a
word ends at the next white space or with the text (`fields_word_blank`, `fields_word`).
-/

namespace OpReturn.Blank

/-- White space: the ASCII blanks, the separator controls, the next-line control and the
space separators of Unicode. -/
def isBlank (c : Char) : Bool :=
  let n := c.toNat
  (0x09 ≤ n && n ≤ 0x0D) || (0x1C ≤ n && n ≤ 0x20) || n = 0x85 || n = 0xA0 || n = 0x1680
    || (0x2000 ≤ n && n ≤ 0x200A) || n = 0x2028 || n = 0x2029 || n = 0x202F || n = 0x205F
    || n = 0x3000

/-- The text without the white space at its two ends. -/
def trim (text : String) : String :=
  String.ofList (((text.toList.dropWhile isBlank).reverse.dropWhile isBlank).reverse)

/-- The runs of characters between white space, from a text whose current run is `run`, last
character first, after the fields in `acc`, last first. -/
def fieldsFrom (run : List Char) (acc : List (List Char)) : List Char → List (List Char)
  | [] => (if run.isEmpty then acc else run.reverse :: acc).reverse
  | c :: cs =>
    if isBlank c then fieldsFrom [] (if run.isEmpty then acc else run.reverse :: acc) cs
    else fieldsFrom (c :: run) acc cs

/-- The non-empty runs of characters between white space, in order. -/
def fields (text : List Char) : List (List Char) := fieldsFrom [] [] text

/-! ## Words -/

/-- A word has characters, and none of them is white space. -/
structure IsWord (text : List Char) : Prop where
  ne_nil : text ≠ []
  solid : ∀ c ∈ text, isBlank c = false

theorem isWord_iff {text : List Char} :
    IsWord text ↔ text.isEmpty = false ∧ text.all (fun c => !isBlank c) = true := by
  rw [List.isEmpty_eq_false_iff, List.all_eq_true]
  constructor
  · intro h
    exact ⟨h.ne_nil, fun c hc => by simp [h.solid c hc]⟩
  · intro h
    exact ⟨h.1, fun c hc => by simpa using h.2 c hc⟩

instance : DecidablePred IsWord := fun _ => decidable_of_iff _ isWord_iff.symm

variable {word : List Char} {c : Char}

theorem fieldsFrom_solid (h : ∀ c ∈ word, isBlank c = false) (run : List Char)
    (acc : List (List Char)) (text : List Char) :
    fieldsFrom run acc (word ++ text) = fieldsFrom (word.reverse ++ run) acc text := by
  induction word generalizing run with
  | nil => rfl
  | cons c word ih =>
    obtain ⟨hc, hword⟩ := List.forall_mem_cons.mp h
    rw [List.cons_append, fieldsFrom, hc]
    simp [ih hword]

theorem fieldsFrom_acc (run : List Char) (acc : List (List Char)) (text : List Char) :
    fieldsFrom run acc text = acc.reverse ++ fieldsFrom run [] text := by
  induction text generalizing run acc with
  | nil => cases run <;> simp [fieldsFrom]
  | cons c text ih =>
    by_cases hc : isBlank c = true
    · cases run with
      | nil => simp [fieldsFrom, hc, ih [] acc]
      | cons r run =>
        simp only [fieldsFrom, hc, if_true, List.isEmpty_cons, Bool.false_eq_true, if_false]
        rw [ih, ih [] [_]]
        simp
    · simp [fieldsFrom, hc, ih _ acc]

theorem fields_blank (h : isBlank c = true) (text : List Char) :
    fields (c :: text) = fields text := by
  simp [fields, fieldsFrom, h]

theorem fields_word (h : IsWord word) : fields word = [word] := by
  have hsolid := fieldsFrom_solid h.solid [] [] []
  rw [List.append_nil] at hsolid
  rw [fields, hsolid]
  simp [fieldsFrom, h.ne_nil]

theorem fields_word_blank (h : IsWord word) (hc : isBlank c = true) (text : List Char) :
    fields (word ++ c :: text) = word :: fields text := by
  rw [fields, fieldsFrom_solid h.solid, fieldsFrom, if_pos hc, fieldsFrom_acc]
  simp [fields, h.ne_nil]

end OpReturn.Blank
