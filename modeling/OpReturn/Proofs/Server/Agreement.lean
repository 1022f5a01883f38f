import OpReturn.Proofs.Server.Shown

/-!
# Tools that verify and tools that decode

Signatures are answered by two pairs of tools. Decoding a script shows all its entries, verifying
its identities goes over the entries on its own and picks those with one tag. Decoding a transaction
fetches it and shows the outputs with envelopes, verifying detached signatures is handed the raw
transaction and looks at one output.

**Theorem (`signatures_of_decoded`).** If a script can be decoded, then its identities can be
verified, and the answer holds the identity signatures that decoding shows, with the offsets of
their entries. If a transaction can be decoded, then the detached signatures of each output can be
verified, and the answer holds those that decoding shows for the output, or none if decoding shows
no such output.

Entries are related one by one. What is verified for an entry is what it is decoded as
(`identityAt_of_decode`), and an induction over the trace of the decoding takes this to a script. An
output is decoded in the same way by both tools, and the index of the output, with which verifying
answers every signature, is the index that the signature has (`filterMap_detachedOf`).
-/

namespace OpReturn

namespace Tool

variable {config : Config}

theorem describeEnvelope_eq_ok_iff {envelope : Envelope} {tx : Option Transaction}
    {outputIndex : Int} {fields : List (Json.Text × Json)} :
    describeEnvelope config envelope tx outputIndex = .ok fields ↔ ∃ decoded,
      envelope.decode tx outputIndex (verifier config) = pure decoded ∧
        fields = ([("prefix_hex", .ofBytes envelope.lead),
          ("entries", .arr (decoded.map DecodedEntry.toJson))] : List (Json.Text × Json)) := by
  simp only [← run_eq_ok_iff, describeEnvelope]
  cases Id.run (envelope.decode tx outputIndex (verifier config)).run with
  | error e => simp
  | ok decoded => simp [eq_comm]

/-! ## Scripts -/

section Script

variable {envelope : Envelope} {tx : Option Transaction} {outputIndex : Int}

/-- What is verified for an entry is the identity signature that it is decoded as. -/
theorem identityAt_of_decode {index instances after : Nat} {entry : Entry} {found : Option Record}
    (h : Record.decode ⟨envelope.entries, tx, outputIndex⟩ (verifier config) index instances entry =
      pure (found, after)) :
    identityAt config envelope entry index =
      .ok ((DecodedEntry.identity? ⟨entry, found⟩).map (identityAnswer entry)) := by
  unfold identityAt
  by_cases htag : entry.tag = IdentitySignature.tag
  · rw [if_pos htag]
    rw [Record.decode_identity htag] at h
    obtain ⟨sig, hsig, hpure⟩ := bind_eq_pure_iff.mp h
    obtain ⟨rfl, -⟩ := Prod.mk.inj (pure_eq_pure_iff.mp hpure)
    rw [run_eq_ok_iff.mpr hsig]
    cases sig <;> rfl
  · rw [if_neg htag]
    cases found with
    | none => rfl
    | some record =>
      -- With another tag the record is of another kind, which verifying passes over.
      have hsame := Record.tag_of_decode h
      cases record with
      | identity sig => exact absurd hsame.symm htag
      | _ => rfl

theorem identityAt_of_trace {index instances : Nat} {entries : List Entry}
    {decoded : List DecodedEntry}
    (h : DecodedEntry.Trace ⟨envelope.entries, tx, outputIndex⟩ (verifier config) index instances
      entries decoded) :
    List.Forall₂ (fun numbered result =>
        identityAt config envelope numbered.1 numbered.2 = .ok result)
      (entries.zipIdx index) (decoded.map fun d => d.identity?.map (identityAnswer d.entry)) := by
  induction h with
  | nil => exact .nil
  | cons hfound _ ih =>
    rw [List.zipIdx_cons, List.map_cons]
    exact .cons (identityAt_of_decode hfound) ih

/-- **Verifying the identities of a script answers those that decoding the script shows.** -/
theorem verifyIdentities_of_decodeScript {scriptHex described : Json}
    (h : decodeScriptAnswer config scriptHex = .ok described) :
    ∃ found, described.member? "found" = some (.bool found) ∧
      verifyIdentitiesAnswer config scriptHex = .ok (.obj [
        ("found", .bool found), ("signatures", .arr (identitiesIn described))]) := by
  obtain ⟨script, hscript, h⟩ := bind_eq_ok_iff.mp h
  cases hscan : Envelope.scan script with
  | none =>
    rw [hscan] at h
    obtain rfl := Except.ok.inj h
    refine ⟨false, rfl, bind_eq_ok_iff.mpr ⟨script, hscript, ?_⟩⟩
    rw [hscan]
    rfl
  | some envelope =>
    rw [hscan] at h
    obtain ⟨fields, hfields, h⟩ := bind_eq_ok_iff.mp h
    obtain rfl := Except.ok.inj h
    obtain ⟨decoded, hdecoded, rfl⟩ := describeEnvelope_eq_ok_iff.mp hfields
    have hfound := identityAt_of_trace (Envelope.decode_eq_pure_iff.mp hdecoded)
    refine ⟨true, rfl, bind_eq_ok_iff.mpr ⟨script, hscript, ?_⟩⟩
    rw [hscan, identitiesIn_eq rfl]
    exact bind_eq_ok_iff.mpr ⟨_, mapM_eq_ok_iff.mpr hfound, rfl⟩

end Script

/-! ## Transactions -/

section Transaction

variable {tx : Transaction} {o : Nat} {output : TxOutput}

theorem outputAnswer_eq_ok_iff {result : Option Json} :
    outputAnswer config tx output o = .ok result ↔ ∃ decoded,
      DecodedEntry.ofOutput tx o output (verifier config) = pure decoded ∧
        result = (Envelope.scan output.script).map fun envelope => .obj [
          ("output_index", .int o), ("satoshis", .int output.satoshis),
          ("prefix_hex", .ofBytes envelope.lead),
          ("entries", .arr (decoded.map DecodedEntry.toJson))] := by
  unfold outputAnswer DecodedEntry.ofOutput
  cases Envelope.scan output.script with
  | none => simp [pure_eq_pure_iff, eq_comm]
  | some envelope =>
    dsimp only
    rw [map_eq_ok_iff]
    simp only [describeEnvelope_eq_ok_iff]
    constructor
    · rintro ⟨_, ⟨decoded, hdecoded, rfl⟩, rfl⟩
      exact ⟨decoded, hdecoded, rfl⟩
    · rintro ⟨decoded, hdecoded, rfl⟩
      exact ⟨_, ⟨decoded, hdecoded, rfl⟩, rfl⟩

theorem isOutput_of_outputAnswer {shown : Json}
    (h : outputAnswer config tx output o = .ok (some shown)) (i : Nat) :
    shown.isOutput i = decide (o = i) := by
  obtain ⟨decoded, -, hshown⟩ := outputAnswer_eq_ok_iff.mp h
  obtain ⟨envelope, -, rfl⟩ := Option.map_eq_some_iff.mp hshown.symm
  simp [Json.isOutput, Json.member?]

section Outputs

variable {results : List (Option Json)}

/-- Of the shown outputs the one with an index is what is shown for the output with that index. -/
theorem filter_isOutput {result : Option Json}
    (h : List.Forall₂ (fun numbered result =>
        outputAnswer config tx numbered.1 numbered.2 = .ok result) tx.outputs.zipIdx results)
    (ho : tx.outputs[o]? = some output) (hresult : outputAnswer config tx output o = .ok result) :
    (results.filterMap id).filter (Json.isOutput o) = result.toList := by
  refine filter_filterMap_numbered ho ?_ ?_ ?_ h
  · intro result' hresult'
    exact Except.ok.inj (hresult'.symm.trans hresult)
  · rintro shown rfl
    simp [isOutput_of_outputAnswer hresult]
  · rintro ⟨output', i⟩ shown hi hshown
    simpa [isOutput_of_outputAnswer hshown] using hi

/-- The detached signatures that are shown for an output are those that it is decoded to. -/
theorem detachedIn_of_outputs {described : Json}
    (h : List.Forall₂ (fun numbered result =>
        outputAnswer config tx numbered.1 numbered.2 = .ok result) tx.outputs.zipIdx results)
    (hdescribed : described.itemsAt "outputs" = results.filterMap id)
    (ho : tx.outputs[o]? = some output) :
    ∃ decoded, DecodedEntry.ofOutput tx o output (verifier config) = pure decoded ∧
      detachedIn o described = (decoded.map DecodedEntry.toJson).filterMap detachedIn? := by
  obtain ⟨result, -, hresult⟩ := exists_of_forall₂ h (List.mk_mem_zipIdx_iff_getElem?.mpr ho)
  obtain ⟨decoded, hdecoded, hshown⟩ := outputAnswer_eq_ok_iff.mp hresult
  refine ⟨decoded, hdecoded, ?_⟩
  rw [detachedIn, hdescribed, filter_isOutput h ho hresult, hshown]
  -- Without an envelope the output is not shown, and there is nothing to decode.
  cases hscan : Envelope.scan output.script with
  | none =>
    rw [DecodedEntry.ofOutput, hscan] at hdecoded
    obtain rfl := pure_eq_pure_iff.mp hdecoded
    rfl
  | some envelope => exact List.append_nil _

end Outputs

theorem detachedOf_eq {d : DecodedEntry}
    (h : ∀ sig, d.detached? = some sig → sig.outputIndex = o) :
    detachedOf (.int o) d = detachedIn? d.toJson := by
  obtain ⟨entry, found⟩ := d
  cases found with
  | none => rfl
  | some record =>
    cases record with
    | detached sig =>
      have hindex : sig.outputIndex = o := h sig rfl
      simp [detachedOf, detachedIn?_toJson, DecodedEntry.detached?, DetachedSignature.toJson,
        Json.setMember, hindex]
    | _ => rfl

theorem filterMap_detachedOf {decoded : List DecodedEntry}
    (h : DecodedEntry.ofOutput tx o output (verifier config) = pure decoded) :
    decoded.filterMap (detachedOf (.int o)) =
      (decoded.map DecodedEntry.toJson).filterMap detachedIn? := by
  have hindexes := DetachedSignature.outputIndex_of_ofOutput
    (run_eq_ok_iff.mpr (ofOutput_of_decode h))
  rw [List.filterMap_map]
  refine List.filterMap_congr fun d hd => detachedOf_eq fun sig hsig => ?_
  exact hindexes sig (List.mem_filterMap.mpr ⟨d, hd, hsig⟩)

theorem decodedIn_eq (config : Config) (tx : Transaction) (o : Nat) (output : TxOutput) :
    decodedIn config tx o output.script =
      (Id.run (DecodedEntry.ofOutput tx o output (verifier config)).run).mapError .decode := by
  unfold decodedIn DecodedEntry.ofOutput
  cases Envelope.scan output.script <;> rfl

/-- **Verifying the detached signatures of an output answers those that decoding the transaction
shows for it.** -/
theorem verifyDetached_of_decodeTransaction {info : Node.TransactionInfo} {hex : String}
    {described : Json} (hhex : info.hex.text? = some hex)
    (h : decodeTransactionAnswer config info = .ok described) :
    ∃ tx id, Transaction.ofHex hex = .ok tx ∧ described.member? "txid" = some (.str id) ∧
      ∀ o : Nat, o < tx.outputs.length → verifyDetachedAnswer config (.str hex) (.int o) =
        .ok (.obj [("txid", .str id), ("signatures", .arr (detachedIn o described))]) := by
  unfold decodeTransactionAnswer at h
  rw [hhex] at h
  obtain ⟨tx, htx, h⟩ := bind_eq_ok_iff.mp h
  obtain ⟨results, hresults, h⟩ := bind_eq_ok_iff.mp h
  obtain ⟨txid, htxid, h⟩ := bind_eq_ok_iff.mp h
  have hdescribed := Except.ok.inj h
  refine ⟨tx, txid, mapError_eq_ok_iff.mp htx, by rw [← hdescribed]; rfl, fun o ho => ?_⟩
  have houtput : tx.outputs[o]? = some tx.outputs[o] := List.getElem?_eq_getElem ho
  have hat : atIndex? tx.outputs o = some tx.outputs[o] := by simp [atIndex?]
  have hshown : described.itemsAt "outputs" = results.filterMap id := by
    rw [← hdescribed]
    rfl
  obtain ⟨decoded, hdecoded, hlisted⟩ :=
    detachedIn_of_outputs (mapM_eq_ok_iff.mp hresults) hshown houtput
  rw [hlisted, ← filterMap_detachedOf hdecoded]
  have hin : decodedIn config tx o tx.outputs[o].script = .ok decoded := by
    rw [decodedIn_eq, run_eq_ok_iff.mpr hdecoded]
    rfl
  refine bind_eq_ok_iff.mpr ⟨hex, rfl, bind_eq_ok_iff.mpr ⟨tx, htx, ?_⟩⟩
  refine bind_eq_ok_iff.mpr ⟨o, rfl, ?_⟩
  rw [hat]
  exact bind_eq_ok_iff.mpr ⟨decoded, hin, bind_eq_ok_iff.mpr ⟨txid, htxid, rfl⟩⟩

end Transaction

/-! ## Running -/

/-- What comes of a computation that asks the node, in a world where some requests were made. -/
def outcome {σ ε α : Type} (x : ExceptT ε (StateT Nat (StateM σ)) α) (asked : Nat) (world : σ) :
    Except ε α :=
  ((x.run.run asked).run world).1.1

section Running

variable {σ : Type} {transport : Node.Transport (StateM σ)} {asked : Nat} {world : σ}

theorem outcome_ask_bind {α β : Type} {question : Node.Asking (StateM σ) α} {a : α}
    (h : outcome question asked world = .ok a) (next : α → Running (StateM σ) β) :
    ∃ asked' world', outcome (ask question >>= next) asked world =
      outcome (next a) asked' world' := by
  unfold outcome at h
  rcases hrun : (question.run.run asked).run world with ⟨⟨result, asked'⟩, world'⟩
  rw [hrun] at h
  obtain rfl : result = .ok a := h
  refine ⟨asked', world', ?_⟩
  unfold outcome ask
  simp only [ExceptT.run_bind, ExceptT.run_mk, StateT.run_bind, hrun]
  rfl

theorem outcome_decodeTransaction {txid : Json} {info : Node.TransactionInfo}
    (h : outcome (Node.getTransaction config transport txid) asked world = .ok info) :
    outcome (run config transport (.decodeTransaction txid)) asked world =
      decodeTransactionAnswer config info := by
  obtain ⟨asked', world', hnext⟩ := outcome_ask_bind h fun info =>
    ExceptT.mk (pure (decodeTransactionAnswer config info))
  exact hnext

/-- **The tools that verify answer the signatures that the tools that decode show**, of a script
and of every output of a transaction that the node tells, whatever happens in between. -/
theorem signatures_of_decoded (config : Config) (transport : Node.Transport (StateM σ))
    (asked : Nat) (world : σ) :
    (∀ scriptHex described,
      outcome (run config transport (.decodeScript scriptHex)) asked world = .ok described →
      ∃ found, described.member? "found" = some (.bool found) ∧
        ∀ asked' world', outcome (run config transport (.verifyIdentities scriptHex)) asked'
          world' = .ok (.obj [
            ("found", .bool found), ("signatures", .arr (identitiesIn described))])) ∧
    (∀ txid info hex described,
      outcome (Node.getTransaction config transport txid) asked world = .ok info →
      info.hex.text? = some hex →
      outcome (run config transport (.decodeTransaction txid)) asked world = .ok described →
      ∃ tx id, Transaction.ofHex hex = .ok tx ∧ described.member? "txid" = some (.str id) ∧
        ∀ o : Nat, o < tx.outputs.length → ∀ asked' world',
          outcome (run config transport (.verifyDetached (.str hex) (.int o))) asked' world' =
            .ok (.obj [
              ("txid", .str id), ("signatures", .arr (detachedIn o described))])) := by
  -- Three of the four tools ask the node nothing: what comes of them is their answer in any world.
  constructor
  · intro scriptHex described h
    obtain ⟨found, hfound, hverify⟩ := verifyIdentities_of_decodeScript h
    exact ⟨found, hfound, fun _ _ => hverify⟩
  · intro txid info hex described hinfo hhex h
    rw [outcome_decodeTransaction hinfo] at h
    obtain ⟨tx, id, htx, hid, hverify⟩ := verifyDetached_of_decodeTransaction hhex h
    exact ⟨tx, id, htx, hid, fun o ho _ _ => hverify o ho⟩

end Running

/-- A script of two entries with the tag of identity signatures, of which the second reads. -/
def signedScript : Bytes :=
  [0x6A] ++ pushBytes IdentitySignature.tag ++ [0x51, 0x01, 0x7C] ++
    pushBytes IdentitySignature.tag ++ [0x01, 0x62, 0x01, 0x61, 0x01, 0x73]

/-- A transaction of one output, with a signature over a message. -/
def toldHex : String :=
  "0100000000010000000000000000116a055349474d410342534d01610173016d00000000"

/-- A node that tells this transaction. -/
def toldNode : Node.Transport (StateM Unit) where
  run _ := pure (.ok ⟨0, Utf8.encode ("\x7b\"txid\":0,\"hex\":\"" ++ toldHex ++ "\"\x7d"), []⟩)
  post _ := pure (.error ⟨.connect, ""⟩)

/-- One signature is shown in the script and one in the transaction, and both are answered. -/
theorem signatures_of_decoded_told : ∃ found script id transaction,
    outcome (run {} toldNode (.decodeScript (.ofBytes signedScript))) 0 () = .ok script ∧
      (identitiesIn script).length = 1 ∧
      outcome (run {} toldNode (.verifyIdentities (.ofBytes signedScript))) 0 () = .ok (.obj [
        ("found", .bool found), ("signatures", .arr (identitiesIn script))]) ∧
      outcome (run {} toldNode (.decodeTransaction (.str ""))) 0 () = .ok transaction ∧
      (detachedIn 0 transaction).length = 1 ∧
      outcome (run {} toldNode (.verifyDetached (.str toldHex) (.int 0))) 0 () = .ok (.obj [
        ("txid", .str id), ("signatures", .arr (detachedIn 0 transaction))]) := by
  obtain ⟨hidentities, hdetached⟩ := signatures_of_decoded {} toldNode 0 ()
  have hscript : (outcome (run {} toldNode (.decodeScript (.ofBytes signedScript))) 0
      ()).toOption.any (fun script => (identitiesIn script).length = 1) = true := by
    decide +kernel
  have htransaction :
      (outcome (Node.getTransaction {} toldNode (.str "")) 0 ()).toOption.any
          (fun info => info.hex.text? = some toldHex) = true ∧
        (outcome (run {} toldNode (.decodeTransaction (.str ""))) 0 ()).toOption.any
          (fun transaction => (detachedIn 0 transaction).length = 1) = true := by
    decide +kernel
  have houtputs : (Transaction.ofHex toldHex).toOption.any (fun tx => tx.outputs.length = 1) =
      true := by
    decide +kernel
  obtain ⟨script, hscript, hone⟩ := exists_ok_of_any hscript
  obtain ⟨info, hinfo, hhex⟩ := exists_ok_of_any htransaction.1
  obtain ⟨transaction, htransaction, hone'⟩ := exists_ok_of_any htransaction.2
  obtain ⟨tx, htx, hlength⟩ := exists_ok_of_any houtputs
  obtain ⟨found, -, hverify⟩ := hidentities _ script hscript
  obtain ⟨tx', id, htx', -, hverify'⟩ :=
    hdetached _ info toldHex transaction hinfo (of_decide_eq_true hhex) htransaction
  obtain rfl := Except.ok.inj (htx.symm.trans htx')
  have houtput : 0 < tx.outputs.length := by
    rw [of_decide_eq_true hlength]
    exact Nat.zero_lt_one
  exact ⟨found, script, id, transaction, hscript, of_decide_eq_true hone, hverify 0 (),
    htransaction, of_decide_eq_true hone', hverify' 0 houtput 0 ()⟩

end Tool

end OpReturn
