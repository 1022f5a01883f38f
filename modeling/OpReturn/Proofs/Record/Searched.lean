import OpReturn.Proofs.Record.Attestation

/-!
# Attestations found by searching text

A payload that does not split into two chunks is read as text. The search looks for `ID` in all of
it, and for `ATTEST` only if there is none, and takes the two words behind the first place where it
finds one.

**Theorem (`decode_textPayload`).** The text `ID` and two words is always read as meant. The text
`ATTEST` and two words is so unless one of the words contains `ID`: the search then stops inside
that word, and gives an identity made of what is left behind it, or nothing.
-/

namespace OpReturn

namespace AttestationRecord

/-! ## Searching for a word -/

variable {word before text rest : List Char}

theorem after?_eq_none_iff (hword : word ≠ []) : after? word text = none ↔ ¬ word <:+: text := by
  induction text with
  | nil => simp [after?, hword]
  | cons c text ih =>
    rw [after?, List.infix_cons_iff, ← List.isPrefixOf_iff_prefix]
    by_cases hstarts : word.isPrefixOf (c :: text) = true
    · simp [hstarts]
    · simp [hstarts, ih]

theorem append_dropLast_starts (before word rest : List Char) :
    before ++ word.dropLast <+: before ++ (word ++ rest) := by
  have hfront : word.dropLast <+: word := List.dropLast_prefix word
  rw [List.prefix_append_right_inj]
  exact hfront.trans (List.prefix_append word rest)

theorem not_infix_dropLast (hword : word ≠ []) : ¬ word <:+: word.dropLast := by
  intro h
  have hlen := h.length_le
  have hpos : 0 < word.length := List.length_pos_iff.mpr hword
  rw [List.length_dropLast] at hlen
  omega

theorem after?_append (hword : word ≠ []) (rest : List Char) :
    after? word (word ++ rest) = some rest := by
  obtain ⟨c, word, rfl⟩ := List.exists_cons_of_ne_nil hword
  simp [after?]

/-- The search stops where the word occurs first: no occurrence ends earlier. -/
theorem after?_of_first (hword : word ≠ []) (h : ¬ word <:+: before ++ word.dropLast)
    (rest : List Char) : after? word (before ++ (word ++ rest)) = some rest := by
  induction before with
  | nil => exact after?_append hword rest
  | cons d before ih =>
    have hlater : ¬ word.isPrefixOf (d :: (before ++ (word ++ rest))) = true := by
      intro hstarts
      have hpos : 0 < word.length := List.length_pos_iff.mpr hword
      have hlen : word.length ≤ (d :: before ++ word.dropLast).length := by
        simp only [List.cons_append, List.length_cons, List.length_append, List.length_dropLast]
        omega
      exact h (List.prefix_of_prefix_length_le (List.isPrefixOf_iff_prefix.mp hstarts)
        (append_dropLast_starts (d :: before) word rest) hlen).isInfix
    rw [List.cons_append, after?, if_neg hlater]
    exact ih fun hoccurs => h (hoccurs.trans (List.suffix_cons d _).isInfix)

theorem after?_eq_some_iff (hword : word ≠ []) :
    after? word text = some rest ↔
      ∃ before, text = before ++ (word ++ rest) ∧ ¬ word <:+: before ++ word.dropLast := by
  constructor
  · intro h
    induction text with
    | nil => simp [after?, hword] at h
    | cons c text ih =>
      by_cases hstarts : word <+: c :: text
      · obtain ⟨tail, htail⟩ := hstarts
        rw [← htail, after?_append hword] at h
        obtain rfl := Option.some.inj h
        exact ⟨[], htail.symm, not_infix_dropLast hword⟩
      · rw [after?, if_neg (by rwa [List.isPrefixOf_iff_prefix])] at h
        obtain ⟨before, rfl, hfirst⟩ := ih h
        refine ⟨c :: before, rfl, fun hoccurs => ?_⟩
        rcases List.infix_cons_iff.mp hoccurs with hfront | hinside
        · exact hstarts (hfront.trans (append_dropLast_starts (c :: before) word rest))
        · exact hfirst hinside
  · rintro ⟨before, rfl, hfirst⟩
    exact after?_of_first hword hfirst rest

theorem exists_first (hword : word ≠ []) (h : word <:+: text) :
    ∃ before rest, text = before ++ (word ++ rest) ∧ ¬ word <:+: before ++ word.dropLast := by
  cases hfound : after? word text with
  | none => exact absurd h ((after?_eq_none_iff hword).mp hfound)
  | some rest =>
    obtain ⟨before, htext, hfirst⟩ := (after?_eq_some_iff hword).mp hfound
    exact ⟨before, rest, htext, hfirst⟩

theorem infix_append_cons_iff {a b : List Char} {c : Char} (hc : c ∉ word) :
    word <:+: a ++ c :: b ↔ word <:+: a ∨ word <:+: b := by
  have hstarts : ∀ part, part <+: c :: b → c ∉ part → part = [] := by
    intro part hpart hnot
    rcases List.prefix_cons_iff.mp hpart with rfl | ⟨tail, rfl, -⟩
    · rfl
    · exact absurd List.mem_cons_self hnot
  constructor
  · intro h
    rcases List.infix_append_iff.mp h with ha | hcb | ⟨front, back, rfl, hfront, hback⟩
    · exact Or.inl ha
    · rcases List.infix_cons_iff.mp hcb with hpart | hb
      · obtain rfl := hstarts word hpart hc
        exact Or.inl (List.nil_infix)
      · exact Or.inr hb
    · obtain rfl := hstarts back hback fun hmem => hc (List.mem_append_right front hmem)
      rw [List.append_nil]
      exact Or.inl hfront.isInfix
  · intro h
    rcases h with ha | hb
    · exact ha.trans (List.prefix_append a _).isInfix
    · exact hb.trans ((List.suffix_cons c b).trans (List.suffix_append a _)).isInfix

/-! ## What the search gives -/

/-- The record of a kind and the first two of some words. -/
def ofWords (kind : AttestationKind) : List (List Char) → Option AttestationRecord
  | key :: field :: _ =>
    some { ofFields kind (String.ofList key) (String.ofList field) with fallback := true }
  | _ => none

/-- The kind whose name the search finds, with the text behind it. -/
def found (text : List Char) : Option (AttestationKind × List Char) :=
  [AttestationKind.identity, .attest].findSome? fun kind =>
    (after? kind.text.toList text).map fun rest => (kind, rest)

theorem ofTextSearch_eq (payload : Bytes) :
    ofTextSearch payload =
      (found (Latin1.decode payload)).bind fun f => ofWords f.1 (Blank.fields f.2) := by
  unfold ofTextSearch found
  dsimp only
  generalize List.findSome? _ _ = result
  cases result with
  | none => rfl
  | some f =>
    obtain ⟨kind, rest⟩ := f
    dsimp only [Option.bind_some]
    rcases Blank.fields rest with _ | ⟨key, _ | ⟨field, more⟩⟩ <;> rfl

/-- The name that is searched for first. -/
def idName : List Char := AttestationKind.identity.text.toList

/-- The name that is searched for where there is no `idName`. -/
def attestName : List Char := AttestationKind.attest.text.toList

theorem found_eq (text : List Char) :
    found text = ((after? idName text).map fun rest => (.identity, rest)).or
      ((after? attestName text).map fun rest => (.attest, rest)) := by
  unfold found
  rw [List.findSome?_cons, List.findSome?_cons, ← idName, ← attestName]
  cases after? idName text <;> cases after? attestName text <;> rfl

theorem found_of_id (h : after? idName text = some rest) :
    found text = some (.identity, rest) := by
  simp [found_eq, h]

theorem found_of_attest (hid : ¬ idName <:+: text) (h : after? attestName text = some rest) :
    found text = some (.attest, rest) := by
  have hnone : after? idName text = none := (after?_eq_none_iff (by decide)).mpr hid
  simp [found_eq, hnone, h]

/-! ## A name and two words -/

/-- The name of a kind and two words behind it, with a space before each. -/
def textPayload (kind : AttestationKind) (w₁ w₂ : Bytes) : Bytes :=
  Utf8.encode kind.text ++ 0x20 :: (w₁ ++ 0x20 :: w₂)

theorem text_textPayload (kind : AttestationKind) (w₁ w₂ : Bytes) :
    Latin1.decode (textPayload kind w₁ w₂) =
      kind.text.toList ++ ' ' :: (Latin1.decode w₁ ++ ' ' :: Latin1.decode w₂) := by
  have hname : Latin1.decode (Utf8.encode kind.text) = kind.text.toList := by
    cases kind <;> decide
  simp only [Latin1.decode, textPayload, List.map_append, List.map_cons] at hname ⊢
  rw [hname]
  rfl

variable {w₁ w₂ : Bytes}

theorem found_identity (w₁ w₂ : Bytes) :
    found (Latin1.decode (textPayload .identity w₁ w₂)) =
      some (.identity, ' ' :: (Latin1.decode w₁ ++ ' ' :: Latin1.decode w₂)) := by
  apply found_of_id
  rw [text_textPayload]
  exact after?_append (by decide) _

theorem id_infix_space_iff {a b : List Char} :
    idName <:+: a ++ ' ' :: b ↔ idName <:+: a ∨ idName <:+: b :=
  infix_append_cons_iff (by decide)

theorem id_infix_attest_iff : idName <:+: attestName ++ ' ' :: text ↔ idName <:+: text := by
  have hname : ¬ idName <:+: attestName := by decide
  rw [id_infix_space_iff]
  exact or_iff_right hname

/-- Behind the name `ATTEST` stand the two words, if none of them contains `ID`. -/
theorem found_attest (h₁ : ¬ idName <:+: Latin1.decode w₁) (h₂ : ¬ idName <:+: Latin1.decode w₂) :
    found (Latin1.decode (textPayload .attest w₁ w₂)) =
      some (.attest, ' ' :: (Latin1.decode w₁ ++ ' ' :: Latin1.decode w₂)) := by
  rw [text_textPayload]
  apply found_of_attest
  · rw [← attestName, id_infix_attest_iff, id_infix_space_iff]
    exact not_or.mpr ⟨h₁, h₂⟩
  · exact after?_append (by decide) _

theorem found_in_first {x y : List Char} (hw : Latin1.decode w₁ = x ++ (idName ++ y))
    (hfirst : ¬ idName <:+: x ++ idName.dropLast) :
    found (Latin1.decode (textPayload .attest w₁ w₂)) =
      some (.identity, y ++ ' ' :: Latin1.decode w₂) := by
  have hbefore : ¬ idName <:+: attestName ++ ' ' :: x ++ idName.dropLast := by
    rw [List.append_assoc, List.cons_append, id_infix_attest_iff]
    exact hfirst
  apply found_of_id
  rw [← after?_of_first (by decide) hbefore, text_textPayload, hw]
  simp [attestName]

theorem found_in_second {x y : List Char} (h₁ : ¬ idName <:+: Latin1.decode w₁)
    (hw : Latin1.decode w₂ = x ++ (idName ++ y)) (hfirst : ¬ idName <:+: x ++ idName.dropLast) :
    found (Latin1.decode (textPayload .attest w₁ w₂)) = some (.identity, y) := by
  have hbefore : ¬ idName <:+:
      attestName ++ ' ' :: (Latin1.decode w₁ ++ ' ' :: x) ++ idName.dropLast := by
    rw [List.append_assoc, List.cons_append, id_infix_attest_iff, List.append_assoc,
      List.cons_append, id_infix_space_iff]
    exact not_or.mpr ⟨h₁, hfirst⟩
  apply found_of_id
  rw [← after?_of_first (by decide) hbefore, text_textPayload, hw]
  simp [attestName]

/-! ## Decoding -/

/-- The payload does not split into two chunks or more. -/
def Unsplit (payload : Bytes) : Prop :=
  ∀ chunks, Chunk.parseAll payload = .ok chunks → chunks.length < 2

theorem decode_of_unsplit {m : Type → Type} [Monad m] {payload : Bytes} (h : Unsplit payload)
    (preceding : List Entry) (verify : Verifier m) :
    decode payload preceding verify = pure (ofTextSearch payload) := by
  have hfew : (locatedChunks payload).length < 2 := by
    unfold locatedChunks
    dsimp only
    split_ifs with hall
    · have hcuts : ∀ step ∈ steps payload, step.cut = none := by
        rw [steps, List.forall_mem_map]
        intro l hl
        exact Option.isNone_iff_eq_none.mp (List.all_eq_true.mp hall l hl)
      have hlen := h _ (parseAll_eq_ok_iff.mpr ⟨hcuts, rfl⟩)
      simpa [steps] using hlen
    · simp
  rw [decode, if_pos hfew]

/-- **What a kind's name and two words in a text are read as.** Behind `ID` it is always these two
words. Behind `ATTEST` it is these two words if none contains `ID`. Otherwise the first `ID` in them
counts, whatever stands before it: if there is more of the first word behind it, that and the second
word make an identity, and if not, there is no record. -/
theorem decode_textPayload {m : Type → Type} [Monad m] {w₁ w₂ : Bytes}
    (h₁ : Blank.IsWord (Latin1.decode w₁)) (h₂ : Blank.IsWord (Latin1.decode w₂))
    (preceding : List Entry) (verify : Verifier m) :
    (Unsplit (textPayload .identity w₁ w₂) →
      decode (textPayload .identity w₁ w₂) preceding verify = pure (some
        { kind := .identity
          keyOrTxid := String.ofList (Latin1.decode w₁)
          addressOrProfile := String.ofList (Latin1.decode w₂)
          fallback := true })) ∧
    (Unsplit (textPayload .attest w₁ w₂) →
      (¬ idName <:+: Latin1.decode w₁ → ¬ idName <:+: Latin1.decode w₂ →
        decode (textPayload .attest w₁ w₂) preceding verify = pure (some
          { kind := .attest
            keyOrTxid := String.ofList (Latin1.decode w₁)
            sequence := (parseSequence (String.ofList (Latin1.decode w₂))).map Int.ofNat
            fallback := true })) ∧
      (∀ x y, Latin1.decode w₁ = x ++ (idName ++ y) → ¬ idName <:+: x ++ idName.dropLast →
        decode (textPayload .attest w₁ w₂) preceding verify = pure (if y = [] then none else some
          { kind := .identity
            keyOrTxid := String.ofList y
            addressOrProfile := String.ofList (Latin1.decode w₂)
            fallback := true })) ∧
      (¬ idName <:+: Latin1.decode w₁ → idName <:+: Latin1.decode w₂ →
        decode (textPayload .attest w₁ w₂) preceding verify = pure none)) := by
  have hblank : Blank.isBlank ' ' = true := by decide
  have hfields : Blank.fields (' ' :: (Latin1.decode w₁ ++ ' ' :: Latin1.decode w₂)) =
      [Latin1.decode w₁, Latin1.decode w₂] := by
    rw [Blank.fields_blank hblank, Blank.fields_word_blank h₁ hblank, Blank.fields_word h₂]
  constructor
  · intro hunsplit
    rw [decode_of_unsplit hunsplit, ofTextSearch_eq, found_identity, Option.bind_some, hfields]
    rfl
  · intro hunsplit
    rw [decode_of_unsplit hunsplit, ofTextSearch_eq]
    refine ⟨fun hid₁ hid₂ => ?_, fun x y hw hfirst => ?_, fun hid₁ hid₂ => ?_⟩
    · rw [found_attest hid₁ hid₂, Option.bind_some, hfields]
      rfl
    · rw [found_in_first hw hfirst, Option.bind_some]
      by_cases hy : y = []
      · rw [hy, List.nil_append, Blank.fields_blank hblank, Blank.fields_word h₂]
        rfl
      · have hword : Blank.IsWord y :=
          ⟨hy, fun c hc => h₁.solid c (by simp [hw, hc])⟩
        rw [Blank.fields_word_blank hword hblank, Blank.fields_word h₂, if_neg hy]
        rfl
    · obtain ⟨x, y, hw, hfirst⟩ := exists_first (by decide) hid₂
      rw [found_in_second hid₁ hw hfirst, Option.bind_some]
      by_cases hy : y = []
      · rw [hy]
        rfl
      · have hword : Blank.IsWord y :=
          ⟨hy, fun c hc => h₂.solid c (by simp [hw, hc])⟩
        rw [Blank.fields_word hword]
        rfl

/-- A word that starts with `ID`. -/
def idaWord : Bytes := [0x49, 0x44, 0x61]

/-- A word that ends in `ID`. -/
def aidWord : Bytes := [0x61, 0x49, 0x44]

/-- A sequence number of one digit. -/
def sevenWord : Bytes := [0x37]

theorem unsplit_of_cut {op : UInt8} {s : Bytes} (h : (Step.read op s).cut ≠ none) :
    Unsplit (op :: s) :=
  fun _ hparse => absurd (parseAll_cons_iff.mp hparse).1 h

/-- Behind `ID` the word is the key, behind `ATTEST` only what it has behind its own `ID`. -/
theorem decode_textPayload_ida :
    Blank.IsWord (Latin1.decode idaWord) ∧ Blank.IsWord (Latin1.decode sevenWord) ∧
    Unsplit (textPayload .identity idaWord sevenWord) ∧
    Unsplit (textPayload .attest idaWord sevenWord) ∧
    decode (m := Id) (textPayload .identity idaWord sevenWord) [] (fun _ _ _ => false) =
      pure (some
        { kind := .identity, keyOrTxid := "IDa", addressOrProfile := "7", fallback := true }) ∧
    decode (m := Id) (textPayload .attest idaWord sevenWord) [] (fun _ _ _ => false) =
      pure (some
        { kind := .identity, keyOrTxid := "a", addressOrProfile := "7", fallback := true }) := by
  have h₁ : Blank.IsWord (Latin1.decode idaWord) := by decide
  have h₂ : Blank.IsWord (Latin1.decode sevenWord) := by decide
  have hid : Unsplit (textPayload .identity idaWord sevenWord) := unsplit_of_cut (by decide)
  have hattest : Unsplit (textPayload .attest idaWord sevenWord) := unsplit_of_cut (by decide)
  obtain ⟨hidentity, hattested⟩ :=
    decode_textPayload (m := Id) h₁ h₂ [] (fun _ _ _ => false)
  obtain ⟨-, hfirst, -⟩ := hattested hattest
  exact ⟨h₁, h₂, hid, hattest, hidentity hid, hfirst [] ['a'] rfl (by decide)⟩

/-- The text `ATTEST aID 7` is not read as an attestation of `aID` with the number 7. -/
theorem not_decode_textPayload_aid :
    Blank.IsWord (Latin1.decode aidWord) ∧ Blank.IsWord (Latin1.decode sevenWord) ∧
    Unsplit (textPayload .attest aidWord sevenWord) ∧
    decode (m := Id) (textPayload .attest aidWord sevenWord) [] (fun _ _ _ => false) ≠
      pure (some { kind := .attest, keyOrTxid := "aID", sequence := some 7, fallback := true }) := by
  have hunsplit : Unsplit (textPayload .attest aidWord sevenWord) := unsplit_of_cut (by decide)
  have hnothing : ofTextSearch (textPayload .attest aidWord sevenWord) = none := by decide
  refine ⟨by decide, by decide, hunsplit, ?_⟩
  rw [decode_of_unsplit hunsplit, hnothing]
  intro h
  exact absurd (run_pure_eq_ok_iff.mp (congrArg (fun x => Id.run x.run) h)) (by simp)

end AttestationRecord
end OpReturn
