import OpReturn.Proofs.Record.Detached

/-!
# Signatures by their places

The signatures of a transaction are listed with the number of their output and with their number
among the entries of that output that have the tag. An entry that does not read as a signature is
counted, but not listed. So what is listed for a place comes from the one entry there
(`filter_ofTransaction`), whatever else the transaction holds.
-/

namespace OpReturn

section Numbered

variable {α β : Type} {test : β → Bool} {yss : List (List β)}

theorem filter_flatten_eq_nil {P : α → List β → Prop} {xs : List α}
    (h : List.Forall₂ P xs yss) (hnone : ∀ x ∈ xs, ∀ ys, P x ys → ys.filter test = []) :
    yss.flatten.filter test = [] := by
  induction h with
  | nil => rfl
  | cons hx _ ih =>
    obtain ⟨hhead, hnone⟩ := List.forall_mem_cons.mp hnone
    rw [List.flatten_cons, List.filter_append, hhead _ hx, ih hnone, List.nil_append]

theorem filter_flatten_zipIdx {P : α × Nat → List β → Prop} {xs : List α} {start i : Nat} {x : α}
    (hx : xs[i]? = some x) {found : List β}
    (here : ∀ ys, P (x, start + i) ys → ys.filter test = found)
    (elsewhere : ∀ numbered ys, numbered.2 ≠ start + i → P numbered ys → ys.filter test = [])
    (h : List.Forall₂ P (xs.zipIdx start) yss) : yss.flatten.filter test = found := by
  induction xs generalizing start i yss with
  | nil => exact nomatch hx
  | cons y xs ih =>
    rw [List.zipIdx_cons] at h
    cases h with
    | cons hy hrest =>
    rw [List.flatten_cons, List.filter_append]
    cases i with
    | zero =>
      obtain rfl := Option.some.inj hx
      -- The numbers of all others are larger.
      have hnone := filter_flatten_eq_nil hrest fun numbered hmem ys =>
        elsewhere numbered ys (by have := List.le_snd_of_mem_zipIdx hmem; omega)
      rw [here _ hy, hnone, List.append_nil]
    | succ i =>
      have hnext : start + 1 + i = start + (i + 1) := by omega
      rw [elsewhere _ _ (by omega) hy, List.nil_append]
      exact ih hx (hnext ▸ here) (hnext ▸ elsewhere) hrest

/-- If of the members of a list only one gives results that pass a test, then these are all. -/
theorem filter_flatten_numbered {P : α × Nat → List β → Prop} {xs : List α} {i : Nat} {x : α}
    (hx : xs[i]? = some x) {found : List β} (here : ∀ ys, P (x, i) ys → ys.filter test = found)
    (elsewhere : ∀ numbered ys, numbered.2 ≠ i → P numbered ys → ys.filter test = [])
    (h : List.Forall₂ P xs.zipIdx yss) : yss.flatten.filter test = found := by
  rw [← Nat.zero_add i] at here elsewhere
  exact filter_flatten_zipIdx hx here elsewhere h

theorem filter_filterMap_numbered {P : α × Nat → Option β → Prop} {xs : List α} {i : Nat} {x : α}
    (hx : xs[i]? = some x) {found : Option β} (here : ∀ result, P (x, i) result → result = found)
    (passes : ∀ y, found = some y → test y = true)
    (elsewhere : ∀ numbered y, numbered.2 ≠ i → P numbered (some y) → test y = false)
    {results : List (Option β)} (h : List.Forall₂ P xs.zipIdx results) :
    (results.filterMap id).filter test = found.toList := by
  have hlists : List.Forall₂ (fun numbered ys => ∃ result, ys = Option.toList result ∧
      P numbered result) xs.zipIdx (results.map Option.toList) := by
    rw [List.forall₂_map_right_iff]
    exact h.imp fun _ result hresult => ⟨result, rfl, hresult⟩
  rw [List.filterMap_eq_flatMap_toList, List.flatMap_def]
  refine filter_flatten_numbered hx ?_ ?_ hlists
  · rintro _ ⟨result, rfl, hresult⟩
    rw [here result hresult, List.filter_eq_self]
    exact fun y hy => passes y (Option.mem_toList.mp hy)
  · rintro numbered _ hi ⟨result, rfl, hresult⟩
    rw [List.filter_eq_nil_iff]
    intro y hy
    obtain rfl := Option.mem_toList.mp hy
    simp [elsewhere numbered y hi hresult]

end Numbered

namespace DetachedSignature

/-- Is the signature listed for the given output, as the one with the given number there? -/
def standsAt (outputIndex instanceIndex : Nat) (sig : DetachedSignature) : Bool :=
  sig.outputIndex = outputIndex && sig.instanceIndex = instanceIndex

variable {tx : Transaction}

/-! ## Going through a transaction -/

section Runs

variable {m : Type → Type} [Monad m] [LawfulMonad m]

theorem runs_ofEntry (htx : tx.WellFormed) (outputIndex instanceIndex : Nat) (entry : Entry)
    (verify : Verifier m) : Runs (ofEntry tx outputIndex instanceIndex entry verify) := by
  refine (runs_decode verify entry.payload).bind fun found => ?_
  cases found with
  | none => exact runs_pure _
  | some sig => exact (runs_placed htx sig _ _ verify).bind fun _ => runs_pure _

theorem runs_ofOutput (htx : tx.WellFormed) (outputIndex : Nat) (output : TxOutput)
    (verify : Verifier m) : Runs (ofOutput tx outputIndex output verify) := by
  unfold ofOutput
  cases Envelope.scan output.script with
  | none => exact runs_pure _
  | some envelope =>
    exact (runs_mapM (fun _ => runs_ofEntry htx _ _ _ verify) _).bind fun _ => runs_pure _

/-- **The signatures of a transaction with well-formed inputs can be listed.** -/
theorem runs_ofTransaction (htx : tx.WellFormed) (verify : Verifier m) :
    Runs (ofTransaction tx verify) :=
  (runs_mapM (fun _ => runs_ofOutput htx _ _ verify) _).bind fun _ => runs_pure _

end Runs

/-! ## What is listed -/

variable {verify : Verifier Id} {o k : Nat}

theorem eq_of_placed {sig found : DetachedSignature} {outputIndex instanceIndex : Int}
    (h : Id.run (sig.placed tx outputIndex instanceIndex verify).run = .ok found) :
    found.outputIndex = outputIndex ∧ found.instanceIndex = instanceIndex := by
  obtain ⟨valid, -, h⟩ := run_bind_eq_ok_iff.mp h
  obtain rfl := run_pure_eq_ok_iff.mp h
  exact ⟨rfl, rfl⟩

theorem eq_of_ofEntry {outputIndex instanceIndex : Nat} {entry : Entry} {sig : DetachedSignature}
    (h : Id.run (ofEntry tx outputIndex instanceIndex entry verify).run = .ok (some sig)) :
    sig.outputIndex = outputIndex ∧ sig.instanceIndex = instanceIndex := by
  obtain ⟨parsed, -, h⟩ := run_bind_eq_ok_iff.mp h
  cases parsed with
  | none => exact nomatch run_pure_eq_ok_iff.mp h
  | some parsed =>
    obtain ⟨found, hfound, h⟩ := run_bind_eq_ok_iff.mp h
    obtain rfl := Option.some.inj (run_pure_eq_ok_iff.mp h)
    exact eq_of_placed hfound

theorem exists_of_ofOutput {outputIndex : Nat} {output : TxOutput} {envelope : Envelope}
    (hscan : Envelope.scan output.script = some envelope) {sigs : List DetachedSignature}
    (h : Id.run (ofOutput tx outputIndex output verify).run = .ok sigs) :
    ∃ results, List.Forall₂ (fun numbered result =>
        Id.run (ofEntry tx outputIndex numbered.2 numbered.1 verify).run = .ok result)
      (envelope.find tag).zipIdx results ∧ sigs = results.filterMap id := by
  rw [ofOutput, hscan] at h
  obtain ⟨results, hresults, h⟩ := run_bind_eq_ok_iff.mp h
  obtain rfl := run_pure_eq_ok_iff.mp h
  exact ⟨results, run_mapM_eq_ok_iff.mp hresults, rfl⟩

theorem outputIndex_of_ofOutput {outputIndex : Nat} {output : TxOutput}
    {sigs : List DetachedSignature}
    (h : Id.run (ofOutput tx outputIndex output verify).run = .ok sigs) :
    ∀ sig ∈ sigs, sig.outputIndex = outputIndex := by
  intro sig hsig
  cases hscan : Envelope.scan output.script with
  | none =>
    rw [ofOutput, hscan] at h
    obtain rfl := run_pure_eq_ok_iff.mp h
    exact nomatch hsig
  | some envelope =>
    obtain ⟨results, hresults, rfl⟩ := exists_of_ofOutput hscan h
    obtain ⟨result, hresult, rfl : result = some sig⟩ := List.mem_filterMap.mp hsig
    obtain ⟨numbered, -, hentry⟩ := exists_of_forall₂ hresults.flip hresult
    exact (eq_of_ofEntry hentry).1

theorem filter_ofOutput {output : TxOutput} {envelope : Envelope}
    (hscan : Envelope.scan output.script = some envelope) {entry : Entry}
    (hk : (envelope.find tag)[k]? = some entry) {result : Option DetachedSignature}
    (hentry : Id.run (ofEntry tx o k entry verify).run = .ok result)
    {sigs : List DetachedSignature}
    (h : Id.run (ofOutput tx o output verify).run = .ok sigs) :
    sigs.filter (standsAt o k) = result.toList := by
  obtain ⟨results, hresults, rfl⟩ := exists_of_ofOutput hscan h
  refine filter_filterMap_numbered hk ?_ ?_ ?_ hresults
  · intro result' hresult'
    exact Except.ok.inj (hresult'.symm.trans hentry)
  · rintro sig rfl
    obtain ⟨ho, hk⟩ := eq_of_ofEntry hentry
    simp [standsAt, ho, hk]
  · rintro ⟨entry', i⟩ sig hi hsig
    obtain ⟨-, hindex⟩ := eq_of_ofEntry hsig
    have hne : (i : Int) ≠ k := by exact_mod_cast hi
    simp [standsAt, hindex, hne]

/-- **For the place of an entry, the transaction lists the signature of the entry and no other.** -/
theorem filter_ofTransaction {output : TxOutput} (ho : tx.outputs[o]? = some output)
    {envelope : Envelope} (hscan : Envelope.scan output.script = some envelope) {entry : Entry}
    (hk : (envelope.find tag)[k]? = some entry) {result : Option DetachedSignature}
    (hentry : Id.run (ofEntry tx o k entry verify).run = .ok result)
    {found : List DetachedSignature}
    (h : Id.run (ofTransaction tx verify).run = .ok found) :
    found.filter (standsAt o k) = result.toList := by
  obtain ⟨sigs, hsigs, h⟩ := run_bind_eq_ok_iff.mp h
  obtain rfl := run_pure_eq_ok_iff.mp h
  refine filter_flatten_numbered ho ?_ ?_ (run_mapM_eq_ok_iff.mp hsigs)
  · exact fun sigs hsigs => filter_ofOutput hscan hk hentry hsigs
  · rintro ⟨output', i⟩ sigs hi hsigs
    rw [List.filter_eq_nil_iff]
    intro sig hsig
    have hne : (i : Int) ≠ o := by exact_mod_cast hi
    simp [standsAt, outputIndex_of_ofOutput hsigs sig hsig, hne]

end DetachedSignature

end OpReturn
