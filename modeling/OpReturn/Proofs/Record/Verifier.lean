import Mathlib.Tactic.Common
import OpReturn.Proofs.Success
import OpReturn.Record.Identity

/-!
# Decodings that return, run or fail

A decoding ends in one of three ways: the verifier fails with an error in `ε`, the decoding itself
fails, or it returns a result. `Returns` singles out the last. Each step of a decoding has one
lemma that says when it returns, so a decoding that returns can be taken apart step by step.

In any monad, `Runs` says that the decoding itself cannot fail, so that only the effects of the
verifier decide what comes out, and `Fails` that it ends in an error of some kind unless those
effects stop it before. Both pass through `>>=`.
-/

namespace OpReturn

variable {ε : Type}

/-- The decoding returns a result. -/
def Returns {α : Type} (x : Decoding (Except ε) α) (a : α) : Prop := x.run = .ok (.ok a)

variable {α β : Type} {x : Decoding (Except ε) α} {a : α} {b : β}

theorem returns_iff : Returns x a ↔ x = pure a := Iff.rfl

theorem returns_pure_iff {a' : α} : Returns (pure a : Decoding (Except ε) α) a' ↔ a = a' :=
  pure_eq_pure_iff (m := Decoding (Except ε))

theorem returns_bind_iff {f : α → Decoding (Except ε) β} :
    Returns (x >>= f) b ↔ ∃ a, Returns x a ∧ Returns (f a) b :=
  bind_eq_pure_iff

theorem returns_mapM_iff {f : α → Decoding (Except ε) β} {xs : List α} {bs : List β} :
    Returns (xs.mapM f) bs ↔ List.Forall₂ (fun a b => Returns (f a) b) xs bs :=
  mapM_eq_pure_iff

theorem returns_lift_iff {y : Except ε α} :
    Returns (liftM y : Decoding (Except ε) α) a ↔ y = .ok a := by
  cases y <;> simp [Returns, Functor.map, Except.map]

theorem not_returns_throw {e : DecodeError} : ¬ Returns (throw e : Decoding (Except ε) α) a := by
  simp [Returns, pure, Except.pure]

/-! ## In any monad -/

section Effects

variable {m : Type → Type} [Monad m] {x : Decoding m α} {f : α → Decoding m β}
  {p : DecodeError → Prop}

/-- The decoding has no failure of its own: its result is that of some effects. -/
def Runs (x : Decoding m α) : Prop := ∃ result : m α, x.run = Except.ok <$> result

/-- The decoding ends in an error with the property, found by some effects. -/
def Fails (p : DecodeError → Prop) (x : Decoding m α) : Prop :=
  ∃ error : m {e // p e}, x.run = (fun e => Except.error e.val) <$> error

theorem runs_lift (y : m α) : Runs (liftM y : Decoding m α) := ⟨y, rfl⟩

variable [LawfulMonad m]

theorem runs_pure (a : α) : Runs (pure a : Decoding m α) :=
  ⟨pure a, by rw [ExceptT.run_pure, map_pure]⟩

theorem fails_throw {e : DecodeError} (h : p e) : Fails p (throw e : Decoding m α) :=
  ⟨pure ⟨e, h⟩, by rw [map_pure]; rfl⟩

theorem run_bind_of_runs {result : m α} (hx : x.run = Except.ok <$> result) :
    (x >>= f).run = result >>= fun a => (f a).run := by
  rw [ExceptT.run_bind, hx, bind_map_left]

theorem Runs.bind (hx : Runs x) (hf : ∀ a, Runs (f a)) : Runs (x >>= f) := by
  obtain ⟨result, hx⟩ := hx
  choose next hnext using hf
  refine ⟨result >>= next, ?_⟩
  rw [run_bind_of_runs hx, map_bind]
  simp only [hnext]

theorem Runs.bind_fails (hx : Runs x) (hf : ∀ a, Fails p (f a)) : Fails p (x >>= f) := by
  obtain ⟨result, hx⟩ := hx
  choose next hnext using hf
  refine ⟨result >>= next, ?_⟩
  rw [run_bind_of_runs hx, map_bind]
  simp only [hnext]

theorem runs_mapM (h : ∀ a, Runs (f a)) (xs : List α) : Runs (xs.mapM f) := by
  induction xs with
  | nil =>
    rw [List.mapM_nil]
    exact runs_pure []
  | cons a xs ih =>
    rw [List.mapM_cons]
    exact (h a).bind fun b => ih.bind fun bs => runs_pure (b :: bs)

theorem Fails.bind (hx : Fails p x) (f : α → Decoding m β) : Fails p (x >>= f) := by
  obtain ⟨error, hx⟩ := hx
  refine ⟨error, ?_⟩
  rw [ExceptT.run_bind, hx, bind_map_left, map_eq_pure_bind]

end Effects

/-! ## Without effects -/

section Plain

variable {x : Decoding Id α} {f : α → Decoding Id β}

theorem Runs.exists_run (h : Runs x) : ∃ a, Id.run x.run = .ok a := h

theorem run_eq_ok_iff : Id.run x.run = .ok a ↔ x = pure a := Iff.rfl

theorem run_pure_eq_ok_iff {a' : α} :
    Id.run (pure a : Decoding Id α).run = .ok a' ↔ a = a' :=
  pure_eq_pure_iff (m := Decoding Id)

theorem run_bind_eq_ok_iff :
    Id.run (x >>= f).run = .ok b ↔ ∃ a, Id.run x.run = .ok a ∧ Id.run (f a).run = .ok b :=
  bind_eq_pure_iff (m := Decoding Id)

theorem run_mapM_eq_ok_iff {xs : List α} {bs : List β} :
    Id.run (xs.mapM f).run = .ok bs ↔
      List.Forall₂ (fun a b => Id.run (f a).run = .ok b) xs bs :=
  mapM_eq_pure_iff (m := Decoding Id)

end Plain

end OpReturn
