import OpReturn.Proofs.Node.Reply
import OpReturn.Proofs.Server.Agreement

/-!
# The state of a node

The state of a node is put together from the replies to two questions. The second is asked only if
the first has a result.

**Theorem (`getInfo_outcome`).** Whatever the two replies are, asking for the state gives the
connected one that their fields tell, if all fields are there, and otherwise a disconnected one
with the text of what goes wrong first, unless a reply that counts is unexpected: then the error of
that reply is passed on.

Asking for the state comes down to the two replies in any world (`outcome_getInfo`), what goes wrong
with them is named by `FirstError`, and whether that is passed on depends on the replies alone
(`FirstError.hasUnexpected_iff`).
-/

namespace OpReturn.Node

open Tool (outcome)

/-! ## The fields of a state -/

/-- The state has the fields of two results, and no warnings where the first names none. -/
structure Info.ToldBy (info : Info) (chainInfo networkInfo : Json) : Prop where
  connected : info.connected = true
  network : chainInfo.member? "chain" = some info.network
  blockHeight : chainInfo.member? "blocks" = some info.blockHeight
  version : networkInfo.member? "version" = some info.version
  errors : (chainInfo.member? "warnings").getD (.str "") = info.errors

/-- The fields that a state needs, in the order in which they are looked up. -/
def neededFields (chain network : Json) : List (Json × String) :=
  [(chain, "chain"), (chain, "blocks"), (network, "version")]

theorem memberOr_of_member? {v x : Json} {key : String} (h : v.member? key = some x)
    (key' : String) (default : Json) :
    memberOr v key' default = .ok ((v.member? key').getD default) := by
  obtain ⟨members, rfl⟩ := exists_object_of_member? h
  rfl

theorem ofAnswers_eq_ok_iff {chain network : Json} {info : Info} :
    Info.ofAnswers chain network = .ok info ↔ info.ToldBy chain network := by
  unfold Info.ofAnswers
  simp only [bind_eq_ok_iff, member_eq_ok_iff]
  constructor
  · rintro ⟨name, hname, blocks, hblocks, version, hversion, warnings, hwarnings, hinfo⟩
    rw [memberOr_of_member? hname] at hwarnings
    obtain rfl := Except.ok.inj hwarnings
    obtain rfl := Except.ok.inj hinfo
    exact ⟨rfl, hname, hblocks, hversion, rfl⟩
  · intro h
    obtain ⟨connected, name, blocks, version, warnings⟩ := info
    obtain ⟨rfl, hname, hblocks, hversion, rfl⟩ := h
    exact ⟨name, hname, blocks, hblocks, version, hversion, _, memberOr_of_member? hname _ _, rfl⟩

/-- The first field that is not there is reported. -/
theorem ofAnswers_eq_error_iff {chain network : Json} {e : Error} :
    Info.ofAnswers chain network = .error e ↔ ∃ v key,
      (neededFields chain network).find? (fun field => (field.1.member? field.2).isNone) =
        some (v, key) ∧ e = lacking v key := by
  unfold Info.ofAnswers neededFields
  cases hname : chain.member? "chain" with
  | none =>
    rw [member_eq_error_iff.mpr ⟨hname, rfl⟩]
    simp [bind, Except.bind, hname, eq_comm]
  | some name =>
    rw [member_eq_ok_iff.mpr hname, memberOr_of_member? hname]
    cases hblocks : chain.member? "blocks" with
    | none =>
      rw [member_eq_error_iff.mpr ⟨hblocks, rfl⟩]
      simp [bind, Except.bind, hname, hblocks, eq_comm]
    | some blocks =>
      rw [member_eq_ok_iff.mpr hblocks]
      cases hversion : network.member? "version" with
      | none =>
        rw [member_eq_error_iff.mpr ⟨hversion, rfl⟩]
        simp [bind, Except.bind, hname, hblocks, hversion, eq_comm]
      | some version =>
        rw [member_eq_ok_iff.mpr hversion]
        simp [bind, Except.bind, hname, hblocks, hversion, pure, Except.pure]

/-! ## Two replies -/

/-- A reply that counts is unexpected. The second counts if the first has a result. -/
def HasUnexpected (method : ConnectionMethod) (first second : Reply) : Prop :=
  first.Unexpected method ∨ (∃ chain, first.result = .ok chain) ∧ second.Unexpected method

/-- What goes wrong first with two replies: a reply has no result, or a field is not there. -/
inductive FirstError (first second : Reply) : Error → Prop
  | first {e : Error} : first.result = .error e → FirstError first second e
  | second {chain : Json} {e : Error} : first.result = .ok chain → second.result = .error e →
    FirstError first second e
  | field {chain network v : Json} {key : String} : first.result = .ok chain →
    second.result = .ok network →
    (neededFields chain network).find? (fun field => (field.1.member? field.2).isNone) =
      some (v, key) →
    FirstError first second (lacking v key)

/-- The state that two replies tell. -/
def Info.ofReplies (first second : Reply) : Except Error Info := do
  let chain ← first.result
  let network ← second.result
  Info.ofAnswers chain network

theorem ofReplies_eq_ok_iff {first second : Reply} {info : Info} :
    Info.ofReplies first second = .ok info ↔
      ∃ chain network, first.Gives chain ∧ second.Gives network ∧ info.ToldBy chain network := by
  unfold Info.ofReplies
  simp only [bind_eq_ok_iff, ofAnswers_eq_ok_iff]
  -- Results with a field are objects, and for objects having them as result is giving them.
  constructor
  · rintro ⟨chain, hchain, network, hnetwork, h⟩
    obtain ⟨members, rfl⟩ := exists_object_of_member? h.network
    obtain ⟨members', rfl⟩ := exists_object_of_member? h.version
    exact ⟨_, _, gives_object_iff.mpr hchain, gives_object_iff.mpr hnetwork, h⟩
  · rintro ⟨chain, network, hchain, hnetwork, h⟩
    obtain ⟨members, rfl⟩ := exists_object_of_member? h.network
    obtain ⟨members', rfl⟩ := exists_object_of_member? h.version
    exact ⟨_, gives_object_iff.mp hchain, _, gives_object_iff.mp hnetwork, h⟩

theorem ofReplies_eq_error_iff {first second : Reply} {e : Error} :
    Info.ofReplies first second = .error e ↔ FirstError first second e := by
  unfold Info.ofReplies
  simp only [bind_eq_error_iff, ofAnswers_eq_error_iff]
  constructor
  · rintro (h | ⟨chain, hchain, h | ⟨network, hnetwork, v, key, h, rfl⟩⟩)
    · exact .first h
    · exact .second hchain h
    · exact .field hchain hnetwork h
  · intro h
    cases h with
    | first h => exact Or.inl h
    | second hchain h => exact Or.inr ⟨_, hchain, Or.inl h⟩
    | field hchain hnetwork h => exact Or.inr ⟨_, hchain, Or.inr ⟨_, hnetwork, _, _, h, rfl⟩⟩

/-- What goes wrong means a disconnected node unless a reply that counts is unexpected. -/
theorem FirstError.hasUnexpected_iff {method : ConnectionMethod} {first second : Reply} {e : Error}
    (h : FirstError first second e) (hfirst : first.Suits method) (hsecond : second.Suits method) :
    HasUnexpected method first second ↔ meansDisconnected method e = false := by
  unfold HasUnexpected
  rw [← hfirst.escapes_iff, ← hsecond.escapes_iff]
  unfold Reply.Escapes
  cases h with
  | first h => simp [h]
  | second hchain h => simp [hchain, h]
  | field hchain hnetwork => simp [hchain, hnetwork, meansDisconnected_lacking]

/-! ## Asking for the state -/

/-- What is made of a state that was asked for. -/
def settled (method : ConnectionMethod) : Except Error Info → Except Error Info
  | .ok info => .ok info
  | .error e => if meansDisconnected method e then .ok (.disconnected e) else .error e

section Effects

variable {m : Type → Type} [Monad m]

theorem match_eq_settled (method : ConnectionMethod) (r : Except Error Info) :
    (match r with
      | .ok info => return .ok info
      | .error e =>
        if meansDisconnected method e then return .ok (.disconnected e) else return .error e) =
      (pure (settled method r) : StateT Nat m (Except Error Info)) := by
  cases r with
  | ok info => rfl
  | error e =>
    rw [settled]
    dsimp only
    split_ifs <;> rfl

/-- **The state of a node is made of two replies**, in any monad. The second is heard only if the
first has a result. -/
theorem run_getInfo [LawfulMonad m] (config : Config) (transport : Transport m) :
    (getInfo config transport).run = (do
      let first ← hear config transport (.str "getblockchaininfo") []
      match first.result with
      | .error e => return settled config.method (.error e)
      | .ok chain => do
        let second ← hear config transport (.str "getnetworkinfo") []
        return settled config.method (second.result >>= Info.ofAnswers chain)) := by
  unfold getInfo
  dsimp only
  rw [ExceptT.run_mk, ExceptT.run_bind, run_call, bind_map_left, bind_assoc]
  refine bind_congr fun first => ?_
  cases first.result with
  | error e =>
    dsimp only
    rw [pure_bind]
    exact match_eq_settled _ (.error e)
  | ok chain =>
    dsimp only
    rw [ExceptT.run_bind, run_call, bind_map_left, bind_assoc]
    refine bind_congr fun second => ?_
    cases second.result with
    | error e =>
      dsimp only
      rw [pure_bind]
      exact match_eq_settled _ (.error e)
    | ok network =>
      dsimp only
      rw [ExceptT.run_mk, pure_bind]
      exact match_eq_settled _ (Info.ofAnswers chain network)

end Effects

section Running

variable {σ : Type} (config : Config) (transport : Transport (StateM σ)) (asked : Nat) (world : σ)

/-- What comes back to the two questions, asked one after the other in a world where some requests
were made. -/
def repliesIn : Reply × Reply :=
  let ((first, asked), world) :=
    ((hear config transport (.str "getblockchaininfo") []).run asked).run world
  (first, (((hear config transport (.str "getnetworkinfo") []).run asked).run world).1.1)

theorem suits_repliesIn : (repliesIn config transport asked world).1.Suits config.method ∧
    (repliesIn config transport asked world).2.Suits config.method :=
  ⟨suits_hear .., suits_hear ..⟩

/-- What comes of asking for the state depends on the two replies alone. -/
theorem outcome_getInfo : outcome (getInfo config transport) asked world =
    settled config.method (Info.ofReplies (repliesIn config transport asked world).1
      (repliesIn config transport asked world).2) := by
  unfold outcome repliesIn
  rw [run_getInfo, StateT.run_bind, StateT.run_bind]
  rcases ((hear config transport (.str "getblockchaininfo") []).run asked).run world with
    ⟨⟨first, asked'⟩, world'⟩
  dsimp only [bind]
  unfold Info.ofReplies
  cases first.result with
  | error e => rfl
  | ok chain => rfl

/-- **What comes of asking for the state of a node.** It is the connected state if both replies give
results with the fields of a state, and otherwise the disconnected one with the text of what goes
wrong first, unless a reply that counts is unexpected: then that error is passed on. -/
theorem getInfo_outcome :
    match repliesIn config transport asked world with
    | (first, second) =>
      (∀ info, outcome (getInfo config transport) asked world = .ok info ↔
        (∃ chain network, first.Gives chain ∧ second.Gives network ∧ info.ToldBy chain network) ∨
          ¬ HasUnexpected config.method first second ∧
            ∃ e, FirstError first second e ∧ info = .disconnected e) ∧
      ∀ e, outcome (getInfo config transport) asked world = .error e ↔
        HasUnexpected config.method first second ∧ FirstError first second e := by
  obtain ⟨hfirst, hsecond⟩ := suits_repliesIn config transport asked world
  rw [outcome_getInfo]
  generalize repliesIn config transport asked world = heard at hfirst hsecond ⊢
  obtain ⟨first, second⟩ := heard
  dsimp only at hfirst hsecond ⊢
  simp only [← ofReplies_eq_ok_iff, ← ofReplies_eq_error_iff]
  cases htold : Info.ofReplies first second with
  | ok info => simp [settled]
  | error e =>
    have hiff := (ofReplies_eq_error_iff.mp htold).hasUnexpected_iff hfirst hsecond
    rw [hiff, settled]
    cases meansDisconnected config.method e <;> simp [eq_comm]

end Running

/-- A transport that has one reply for what comes first and another for what comes after. -/
def inTurn (runs : Bool → Except Fault Exit) (posts : Bool → Except Fault Bytes) :
    Transport (StateM Bool) where
  run _ := modifyGet fun later => (runs later, true)
  post _ := modifyGet fun later => (posts later, true)

/-- A byte that is no text from a command, and a list from a connection, are passed on as errors. -/
theorem getInfo_garbled :
    outcome (getInfo {} (inTurn (fun _ => .ok ⟨0, [0xFF], []⟩) fun _ => .ok [])) 0 false =
        .error (.output ⟨.badStart, 0, [0xFF]⟩) ∧
      outcome (getInfo { method := .rpc }
        (inTurn (fun _ => .ok ⟨0, [], []⟩) fun _ => .ok [0x5B, 0x5D])) 0 false =
          .error (.noAttribute "list" "get") :=
  ⟨rfl, rfl⟩

end OpReturn.Node
