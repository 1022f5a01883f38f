import OpReturn.Node.Interface
import OpReturn.Proofs.Success
import OpReturn.Proofs.Text.Strict

/-!
# Replies of a node

A question to a node has two sides. Something comes back when it is asked (`hear`), with all the
effects of the transport; and what comes back is read (`Reply.result`), which has no effects
(`run_call`).

Reading ends in a result or in an error, and most errors mean that the node is disconnected. The
others belong to replies that are not provided for: bytes of a command that are no text, a number
too long to be read, a body that is no object, an address that is none, a command that cannot be put
to the system (`Reply.Unexpected`).

* `Reply.Suits.escapes_iff`: the errors that do not mean a disconnected node are those of unexpected
  replies.
* `gives_object_iff`: the replies that have an object as their result.
-/

namespace OpReturn.Node

/-- What comes back when a question is asked. -/
inductive Reply where
  /-- The question cannot be put to a node. -/
  | unsent (e : Error)
  | fault (fault : Fault)
  | exit (exit : Exit)
  | body (body : Bytes)

/-- The result in a reply. -/
def Reply.result : Reply → Except Error Json
  | .unsent e => .error e
  | .fault f => .error (.transport f)
  | .exit left => resultOfExit left
  | .body s => resultOfBody s

/-! ## Hearing -/

/-- The reply in what came of a command. -/
def Reply.ofRun : Except Fault Exit → Reply
  | .error f => .fault f
  | .ok left => .exit left

/-- The reply in what came of a request to an address. A relative one is not that of a node. -/
def Reply.ofPost (url : String) (isRelative : Bool) : Except Fault Bytes → Reply
  | .error f => .fault f
  | .ok s => if isRelative then .unsent (.noProtocol url) else .body s

section Hearing

variable {m : Type → Type} [Monad m]

/-- Asks a question by a command. -/
def ran (config : Config) (transport : Transport m) (method : Json) (args : List Json) : m Reply :=
  match command config method args with
  | .error e => return .unsent e
  | .ok argv => Reply.ofRun <$> transport.run argv

/-- Asks a question by a request with the given number. -/
def posted (config : Config) (transport : Transport m) (number : Nat) (method : Json)
    (args : List Json) : m Reply :=
  match requestOf config number method args with
  | .error e => return .unsent e
  | .ok (post, isRelative) => Reply.ofPost post.url isRelative <$> transport.post post

/-- Asks a question and gives back the reply, unread. -/
def hear (config : Config) (transport : Transport m) (method : Json) (args : List Json) :
    StateT Nat m Reply :=
  match config.method with
  | .commandLine => liftM (ran config transport method args)
  | .rpc => do
    modify (· + 1)
    liftM (posted config transport (← get) method args)

variable [LawfulMonad m]

theorem run_lift_bind {α β : Type} (x : StateT Nat m α) (f : α → Asking m β) :
    ((liftM x : Asking m α) >>= f).run = x >>= fun a => (f a).run := by
  have hlift : (liftM x : Asking m α).run = Except.ok <$> x := rfl
  rw [ExceptT.run_bind, hlift, bind_map_left]

/-- **Asking a question is hearing the reply and reading it.** -/
theorem run_call (config : Config) (transport : Transport m) (method : Json) (args : List Json) :
    (call config transport method args).run =
      Reply.result <$> hear config transport method args := by
  unfold call hear
  cases config.method with
  | commandLine =>
    dsimp only
    unfold ran
    cases command config method args with
    | error e =>
      dsimp only
      rw [ExceptT.run_bind, ExceptT.run_mk, pure_bind, liftM_pure, map_pure]
      rfl
    | ok argv =>
      dsimp only
      rw [ExceptT.run_bind, ExceptT.run_mk, pure_bind, liftM_map, ← comp_map, map_eq_pure_bind]
      refine (run_lift_bind (liftM (transport.run argv)) _).trans (bind_congr fun reply => ?_)
      cases reply <;> rfl
  | rpc =>
    rw [map_bind]
    refine (run_lift_bind (modify (· + 1)) _).trans (bind_congr fun _ => ?_)
    rw [map_bind, ExceptT.run_bind, ExceptT.run_mk, bind_assoc]
    refine bind_congr fun number => ?_
    rw [pure_bind]
    unfold posted
    cases requestOf config number method args with
    | error e =>
      dsimp only
      rw [liftM_pure, map_pure]
      rfl
    | ok request =>
      obtain ⟨post, isRelative⟩ := request
      dsimp only
      rw [liftM_map, ← comp_map, map_eq_pure_bind]
      refine (run_lift_bind (liftM (transport.post post)) _).trans (bind_congr fun reply => ?_)
      cases reply with
      | error f => rfl
      | ok s => cases isRelative <;> rfl

end Hearing

/-! ## What can be heard -/

/-- A reply can come back to a question that is asked by the given method. -/
inductive Reply.Suits : ConnectionMethod → Reply → Prop
  | noCommand {position : Nat} {typeName : String} :
    Suits .commandLine (.unsent (.commandType position typeName))
  | exit {left : Exit} : Suits .commandLine (.exit left)
  | noAddress {e : Url.Error} : Suits .rpc (.unsent (.url e))
  | noHost {e : Url.HostError} : Suits .rpc (.unsent (.host e))
  | noProtocol {url : String} : Suits .rpc (.unsent (.noProtocol url))
  | body {s : Bytes} : Suits .rpc (.body s)
  | fault {method : ConnectionMethod} {f : Fault} : Suits method (.fault f)

theorem suits_ofRun (reply : Except Fault Exit) : (Reply.ofRun reply).Suits .commandLine := by
  cases reply with
  | error f => exact .fault
  | ok left => exact .exit

theorem suits_ofPost (url : String) (isRelative : Bool) (reply : Except Fault Bytes) :
    (Reply.ofPost url isRelative reply).Suits .rpc := by
  cases reply with
  | error f => exact .fault
  | ok s =>
    cases isRelative with
    | false => exact .body
    | true => exact .noProtocol

theorem command_eq_error {config : Config} {method : Json} {args : List Json} {e : Error}
    (h : command config method args = .error e) :
    ∃ position typeName, e = .commandType position typeName := by
  unfold command at h
  split at h
  · cases h
  · exact ⟨_, _, (Except.error.inj h).symm⟩
  · exact ⟨_, _, (Except.error.inj h).symm⟩

theorem requestOf_eq_error {config : Config} {number : Nat} {method : Json} {args : List Json}
    {e : Error} (h : requestOf config number method args = .error e) :
    (∃ fault, e = .url fault) ∨ ∃ fault, e = .host fault := by
  rcases bind_eq_error_iff.mp h with h | ⟨url, -, h⟩
  · obtain ⟨fault, -, rfl⟩ := mapError_eq_error_iff.mp h
    exact Or.inl ⟨fault, rfl⟩
  · rcases bind_eq_error_iff.mp h with h | ⟨_, -, h⟩
    · obtain ⟨fault, -, rfl⟩ := mapError_eq_error_iff.mp h
      exact Or.inr ⟨fault, rfl⟩
    · cases h

theorem suits_hear {σ : Type} (config : Config) (transport : Transport (StateM σ)) (method : Json)
    (args : List Json) (asked : Nat) (world : σ) :
    (((hear config transport method args).run asked).run world).1.1.Suits config.method := by
  unfold hear
  cases config.method with
  | commandLine =>
    show ((ran config transport method args).run world).1.Suits _
    unfold ran
    cases hargv : command config method args with
    | error e =>
      obtain ⟨position, typeName, rfl⟩ := command_eq_error hargv
      exact .noCommand
    | ok argv => exact suits_ofRun _
  | rpc =>
    show ((posted config transport (asked + 1) method args).run world).1.Suits _
    unfold posted
    cases hrequest : requestOf config (asked + 1) method args with
    | error e =>
      obtain ⟨fault, rfl⟩ | ⟨fault, rfl⟩ := requestOf_eq_error hrequest
      · exact .noAddress
      · exact .noHost
    | ok request => exact suits_ofPost _ _ _

/-! ## Members of results -/

/-- What is said of a value without a member. -/
def lacking (v : Json) (key : String) : Error :=
  match v with
  | .obj _ => .missingKey key
  | v => .noMember (typeName v)

theorem member_eq_ok_iff {v x : Json} {key : String} :
    member v key = .ok x ↔ v.member? key = some x := by
  cases v with
  | obj members =>
    rw [member]
    cases (Json.obj members).member? key <;> simp
  | _ => simp [member, Json.member?]

theorem member_eq_error_iff {v : Json} {key : String} {e : Error} :
    member v key = .error e ↔ v.member? key = none ∧ e = lacking v key := by
  cases v with
  | obj members =>
    rw [member, lacking]
    cases (Json.obj members).member? key <;> simp [eq_comm]
  | _ => simp [member, Json.member?, lacking, eq_comm]

theorem exists_object_of_member? {v x : Json} {key : String} (h : v.member? key = some x) :
    ∃ members, v = .obj members := by
  cases v with
  | obj members => exact ⟨members, rfl⟩
  | _ => cases h

theorem meansDisconnected_lacking (method : ConnectionMethod) (v : Json) (key : String) :
    meansDisconnected method (lacking v key) = true := by
  cases v <;> rfl

/-! ## Unexpected replies -/

/-- A reply that has no result and does not mean a disconnected node either. -/
inductive Reply.Unexpected : ConnectionMethod → Reply → Prop
  /-- A command fails and says why in bytes that are no text. -/
  | refusal {left : Exit} : left.code ≠ 0 → (∀ text, left.stderr ≠ Utf8.encode text) →
    Unexpected .commandLine (.exit left)
  /-- A command ends well and leaves bytes that are no text. -/
  | output {left : Exit} : left.code = 0 → (∀ text, left.stdout ≠ Utf8.encode text) →
    Unexpected .commandLine (.exit left)
  /-- A command leaves a text with an integer of too many digits. -/
  | number {left : Exit} {text : String} {e : Decimal.TooLong} : left.code = 0 →
    left.stdout = Utf8.encode text → Json.parse (Blank.trim text) = .error (.number e) →
    Unexpected .commandLine (.exit left)
  /-- A request brings a value that is no object. -/
  | noObject {s : Bytes} {v : Json} : Json.parseBytes s = .ok v → (∀ members, v ≠ .obj members) →
    Unexpected .rpc (.body s)
  /-- There is no address to send a request to. -/
  | noAddress {e : Url.Error} : Unexpected .rpc (.unsent (.url e))
  /-- A command fails, but not because the system refuses to run it. -/
  | commandFault {f : Fault} : f.kind.isSystem = false → Unexpected .commandLine (.fault f)
  /-- A connection fails as only a command can. -/
  | connectionFault {f : Fault} : f.kind.isSystem = true → Unexpected .rpc (.fault f)

/-- Reading the reply ends in an error that does not mean a disconnected node. -/
def Reply.Escapes (method : ConnectionMethod) (reply : Reply) : Prop :=
  ∃ e, reply.result = .error e ∧ meansDisconnected method e = false

theorem parse_empty : ∃ e, Json.parse "" = .error (.malformed e) := ⟨_, rfl⟩

/-- A text has been decoded already. -/
theorem parse_ne_encoding (text : String) (e : Json.EncodingError) :
    Json.parse text ≠ .error (.encoding e) := by
  intro h
  obtain ⟨stop, -, hstop⟩ := mapError_eq_error_iff.mp h
  cases stop <;> cases hstop

theorem unexpected_text_iff {left : Exit} {text : String} (hcode : left.code = 0)
    (htext : left.stdout = Utf8.encode text) :
    (Reply.exit left).Unexpected .commandLine ↔
      ∃ e, Json.parse (Blank.trim text) = .error (.number e) := by
  constructor
  · intro h
    cases h with
    | refusal h => exact absurd hcode h
    | output _ h => exact absurd htext (h text)
    | number _ h hparse =>
      obtain rfl := Utf8.encode_inj (htext.symm.trans h)
      exact ⟨_, hparse⟩
  · rintro ⟨e, hparse⟩
    exact .number hcode htext hparse

theorem escapes_exit_iff {left : Exit} :
    (Reply.exit left).Escapes .commandLine ↔ (Reply.exit left).Unexpected .commandLine := by
  unfold Reply.Escapes Reply.result resultOfExit
  dsimp only
  by_cases hcode : left.code = 0
  · rw [if_neg (not_not.mpr hcode)]
    cases htext : Utf8.decodeStrict left.stdout with
    | error e =>
      exact iff_of_true ⟨_, rfl, rfl⟩ (.output hcode (Utf8.ne_encode_of_decodeStrict htext))
    | ok text =>
      dsimp only
      rw [unexpected_text_iff hcode (Utf8.decodeStrict_eq_ok_iff.mp htext)]
      by_cases hempty : Blank.trim text = ""
      · obtain ⟨e, he⟩ := parse_empty
        simp [hempty, he]
      · rw [if_neg hempty]
        cases hparse : Json.parse (Blank.trim text) with
        | ok v => simp
        | error e =>
          cases e with
          | encoding e => exact absurd hparse (parse_ne_encoding _ _)
          | malformed e => simp
          | number e => simp [meansDisconnected]
          | tooDeep what => simp [meansDisconnected]
  · rw [if_pos hcode]
    cases htext : Utf8.decodeStrict left.stderr with
    | error e =>
      exact iff_of_true ⟨_, rfl, rfl⟩ (.refusal hcode (Utf8.ne_encode_of_decodeStrict htext))
    | ok text =>
      refine iff_of_false ?_ ?_
      · rintro ⟨e, he, hmeans⟩
        cases he
        cases hmeans
      · intro h
        cases h with
        | refusal _ h => exact h text (Utf8.decodeStrict_eq_ok_iff.mp htext)
        | output h => exact hcode h
        | number h => exact hcode h

/-- An object has a result, or what is wrong with it means a disconnected node. -/
theorem meansDisconnected_of_object {s : Bytes} {members : List (Json.Text × Json)} {e : Error}
    (hparse : Json.parseBytes s = .ok (.obj members)) (h : resultOfBody s = .error e) :
    meansDisconnected .rpc e = true := by
  unfold resultOfBody at h
  rw [hparse] at h
  dsimp only [memberOr] at h
  obtain h | ⟨reported, -, h⟩ := bind_eq_error_iff.mp h
  · cases h
  · split_ifs at h
    obtain h | ⟨code, -, h⟩ := bind_eq_error_iff.mp h
    · obtain ⟨-, rfl⟩ := member_eq_error_iff.mp h
      exact meansDisconnected_lacking _ _ _
    · obtain h | ⟨text, -, h⟩ := bind_eq_error_iff.mp h
      · obtain ⟨-, rfl⟩ := member_eq_error_iff.mp h
        exact meansDisconnected_lacking _ _ _
      · cases h
        rfl

theorem escapes_body_iff {s : Bytes} :
    (Reply.body s).Escapes .rpc ↔ (Reply.body s).Unexpected .rpc := by
  unfold Reply.Escapes Reply.result
  dsimp only
  constructor
  · rintro ⟨e, he, hmeans⟩
    cases hparse : Json.parseBytes s with
    | error e =>
      unfold resultOfBody at he
      rw [hparse] at he
      cases he
      cases e <;> cases hmeans
    | ok v =>
      refine .noObject hparse ?_
      rintro members rfl
      rw [meansDisconnected_of_object hparse he] at hmeans
      cases hmeans
  · intro h
    cases h with
    | @noObject _ v hparse hv =>
      refine ⟨.noAttribute (typeName v) "get", ?_, rfl⟩
      unfold resultOfBody
      rw [hparse]
      cases v with
      | obj members => exact absurd rfl (hv members)
      | _ => rfl

theorem escapes_fault_iff {method : ConnectionMethod} {f : Fault} :
    (Reply.fault f).Escapes method ↔ f.kind.isSystem ≠ decide (method = .commandLine) := by
  simp [Reply.Escapes, Reply.result, meansDisconnected]

/-- **The errors that do not mean a disconnected node are those of unexpected replies.** -/
theorem Reply.Suits.escapes_iff {method : ConnectionMethod} {reply : Reply}
    (h : reply.Suits method) : reply.Escapes method ↔ reply.Unexpected method := by
  cases h with
  | exit => exact escapes_exit_iff
  | body => exact escapes_body_iff
  | noAddress => exact iff_of_true ⟨_, rfl, rfl⟩ .noAddress
  | noCommand | noHost | noProtocol =>
    refine iff_of_false ?_ nofun
    rintro ⟨e, he, hmeans⟩
    cases he
    cases hmeans
  | fault =>
    rw [escapes_fault_iff]
    constructor
    · cases method with
      | commandLine => exact fun h => .commandFault (by simpa using h)
      | rpc => exact fun h => .connectionFault (by simpa using h)
    · intro h
      cases h with
      | commandFault hkind => simp [hkind]
      | connectionFault hkind => simp [hkind]

/-! ## Replies with an object -/

/-- A reply gives a value: a command ends well and leaves the text of it, or a request brings an
object that has it as result and reports no error. -/
inductive Reply.Gives : Reply → Json → Prop
  | exit {left : Exit} {text : String} {v : Json} : left.code = 0 →
    left.stdout = Utf8.encode text → Json.parse (Blank.trim text) = .ok v →
    Gives (.exit left) v
  | body {s : Bytes} {members : List (Json.Text × Json)} {v : Json} :
    Json.parseBytes s = .ok (.obj members) →
    (∀ e, (Json.obj members).member? "error" = some e → e.isTruthy = false) →
    (Json.obj members).member? "result" = some v → Gives (.body s) v

theorem resultOfExit_eq_object_iff {left : Exit} {members : List (Json.Text × Json)} :
    resultOfExit left = .ok (.obj members) ↔ left.code = 0 ∧ ∃ text,
      left.stdout = Utf8.encode text ∧ Json.parse (Blank.trim text) = .ok (.obj members) := by
  simp only [← Utf8.decodeStrict_eq_ok_iff]
  unfold resultOfExit
  by_cases hcode : left.code = 0
  · rw [if_neg (not_not.mpr hcode)]
    cases Utf8.decodeStrict left.stdout with
    | error e => simp
    | ok text =>
      by_cases hempty : Blank.trim text = ""
      · obtain ⟨e, he⟩ := parse_empty
        simp [hempty, he]
      · cases hparse : Json.parse (Blank.trim text) with
        | ok v => simp [hcode, hempty, hparse]
        | error e => cases e <;> simp [hempty, hparse]
  · rw [if_pos hcode]
    cases Utf8.decodeStrict left.stderr <;> simp [hcode]

/-- An object that reports no error has a result, null if it names none. -/
theorem resultOfBody_eq_ok_iff {s : Bytes} {v : Json} :
    resultOfBody s = .ok v ↔ ∃ members, Json.parseBytes s = .ok (.obj members) ∧
      (((Json.obj members).member? "error").getD .null).isTruthy = false ∧
        ((Json.obj members).member? "result").getD .null = v := by
  unfold resultOfBody
  cases Json.parseBytes s with
  | error e => simp
  | ok data =>
    cases data with
    | obj members =>
      dsimp only [memberOr]
      rw [bind_eq_ok_iff]
      cases htruthy : (((Json.obj members).member? "error").getD .null).isTruthy <;>
        simp [htruthy, bind_eq_ok_iff]
    | _ => simp [memberOr, bind_eq_ok_iff]

/-- The objects among the results are those that are given. Other results can also be no output and
plain text. -/
theorem gives_object_iff {reply : Reply} {members : List (Json.Text × Json)} :
    reply.Gives (.obj members) ↔ reply.result = .ok (.obj members) := by
  cases reply with
  | unsent e => exact iff_of_false nofun nofun
  | fault f => exact iff_of_false nofun nofun
  | exit left =>
    rw [Reply.result, resultOfExit_eq_object_iff]
    constructor
    · intro h
      cases h with
      | exit hcode htext hparse => exact ⟨hcode, _, htext, hparse⟩
    · rintro ⟨hcode, text, htext, hparse⟩
      exact .exit hcode htext hparse
  | body s =>
    rw [Reply.result, resultOfBody_eq_ok_iff]
    have herror (all : List (Json.Text × Json)) :
        (((Json.obj all).member? "error").getD .null).isTruthy = false ↔
          ∀ e, (Json.obj all).member? "error" = some e → e.isTruthy = false := by
      cases (Json.obj all).member? "error" <;> simp [Json.isTruthy]
    have hresult (all : List (Json.Text × Json)) :
        ((Json.obj all).member? "result").getD .null = .obj members ↔
          (Json.obj all).member? "result" = some (.obj members) := by
      cases (Json.obj all).member? "result" <;> simp
    simp only [herror, hresult]
    constructor
    · intro h
      cases h with
      | body hparse hnone hresult => exact ⟨_, hparse, hnone, hresult⟩
    · rintro ⟨all, hparse, hnone, hresult⟩
      exact .body hparse hnone hresult

end OpReturn.Node
