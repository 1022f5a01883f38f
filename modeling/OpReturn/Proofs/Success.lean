import Mathlib.Data.List.Forall2

/-!
# Computations that return

A computation returns `a` if it is `pure a`. In a monad whose computations end in a value or in an
error and do nothing else (`Definite`), a computation that returns was put together from ones that
return, so it can be taken apart step by step.

* `bind_eq_pure_iff`: one step and what follows.
* `mapM_eq_pure_iff`: a list gone through, whose members and results are then related one by one.
-/

namespace OpReturn

variable {ε α β : Type}

/-- In such a monad a computation that returns was put together from ones that return. -/
class Definite (m : Type → Type) [Monad m] : Prop where
  pure_inj {α : Type} {a b : α} : (pure a : m α) = pure b → a = b
  exists_of_bind {α β : Type} {x : m α} {f : α → m β} {b : β} :
    x >>= f = pure b → ∃ a, x = pure a ∧ f a = pure b

section Definite

variable {m : Type → Type} [Monad m] [Definite m]

theorem pure_eq_pure_iff {a b : α} : (pure a : m α) = pure b ↔ a = b :=
  ⟨Definite.pure_inj, congrArg pure⟩

variable [LawfulMonad m]

theorem bind_eq_pure_iff {x : m α} {f : α → m β} {b : β} :
    x >>= f = pure b ↔ ∃ a, x = pure a ∧ f a = pure b := by
  constructor
  · exact Definite.exists_of_bind
  · rintro ⟨a, rfl, h⟩
    rw [pure_bind, h]

theorem mapM_eq_pure_iff {f : α → m β} {xs : List α} {ys : List β} :
    xs.mapM f = pure ys ↔ List.Forall₂ (fun x y => f x = pure y) xs ys := by
  induction xs generalizing ys with
  | nil => rw [List.mapM_nil, pure_eq_pure_iff, List.forall₂_nil_left_iff, eq_comm]
  | cons x xs ih =>
    rw [List.mapM_cons, bind_eq_pure_iff]
    constructor
    · rintro ⟨y, hy, h⟩
      obtain ⟨zs, hzs, hpure⟩ := bind_eq_pure_iff.mp h
      obtain rfl := pure_eq_pure_iff.mp hpure
      exact .cons hy (ih.mp hzs)
    · rintro (_ | ⟨hy, hys⟩)
      exact ⟨_, hy, bind_eq_pure_iff.mpr ⟨_, ih.mpr hys, rfl⟩⟩

/-- Adding errors to such a monad keeps it one. -/
instance : Definite (ExceptT ε m) where
  pure_inj {_ a b} h := by
    have hrun : (pure (.ok a) : m (Except ε _)) = pure (.ok b) := congrArg ExceptT.run h
    exact Except.ok.inj (pure_eq_pure_iff.mp hrun)
  exists_of_bind {_ _ x f b} h := by
    have hrun : (x >>= f).run = pure (.ok b) := congrArg ExceptT.run h
    rw [ExceptT.run_bind] at hrun
    obtain ⟨result, hx, hf⟩ := bind_eq_pure_iff.mp hrun
    cases result with
    | error e => exact nomatch pure_eq_pure_iff.mp hf
    | ok a => exact ⟨a, ExceptT.ext hx, ExceptT.ext hf⟩

end Definite

instance : Definite Id where
  pure_inj h := h
  exists_of_bind h := ⟨_, rfl, h⟩

instance : Definite (Except ε) where
  pure_inj h := Except.ok.inj h
  exists_of_bind {_ _ x f b} h := by
    cases x with
    | error e => exact nomatch h
    | ok a => exact ⟨a, rfl, h⟩

/-! ## Errors and nothing else -/

theorem bind_eq_ok_iff {x : Except ε α} {f : α → Except ε β} {b : β} :
    x >>= f = .ok b ↔ ∃ a, x = .ok a ∧ f a = .ok b :=
  bind_eq_pure_iff

theorem bind_eq_error_iff {x : Except ε α} {f : α → Except ε β} {e : ε} :
    x >>= f = .error e ↔ x = .error e ∨ ∃ a, x = .ok a ∧ f a = .error e := by
  cases x <;> simp [bind, Except.bind]

theorem map_eq_ok_iff {x : Except ε α} {f : α → β} {b : β} :
    x.map f = .ok b ↔ ∃ a, x = .ok a ∧ f a = b := by
  cases x <;> simp [Except.map]

theorem map_eq_error_iff {x : Except ε α} {f : α → β} {e : ε} :
    x.map f = .error e ↔ x = .error e := by
  cases x <;> simp [Except.map]

theorem mapError_eq_ok_iff {ε' : Type} {x : Except ε α} {f : ε → ε'} {a : α} :
    x.mapError f = .ok a ↔ x = .ok a := by
  cases x <;> simp [Except.mapError]

theorem mapError_eq_error_iff {ε' : Type} {x : Except ε α} {f : ε → ε'} {e' : ε'} :
    x.mapError f = .error e' ↔ ∃ e, x = .error e ∧ f e = e' := by
  cases x <;> simp [Except.mapError]

/-- What a test finds in a result is the result of a success. -/
theorem exists_ok_of_any {x : Except ε α} {test : α → Bool} (h : x.toOption.any test = true) :
    ∃ a, x = .ok a ∧ test a = true := by
  cases x with
  | error e => exact nomatch h
  | ok a => exact ⟨a, rfl, h⟩

theorem mapM_eq_ok_iff {f : α → Except ε β} {xs : List α} {ys : List β} :
    xs.mapM f = .ok ys ↔ List.Forall₂ (fun x y => f x = .ok y) xs ys :=
  mapM_eq_pure_iff

/-! ## Member by member -/

theorem exists_of_forall₂ {R : α → β → Prop} {xs : List α} {ys : List β}
    (h : List.Forall₂ R xs ys) {x : α} (hx : x ∈ xs) : ∃ y ∈ ys, R x y := by
  induction h with
  | nil => exact nomatch hx
  | @cons x' y' xs ys hxy _ ih =>
    rcases List.mem_cons.mp hx with rfl | hx
    · exact ⟨y', List.mem_cons_self, hxy⟩
    · obtain ⟨y, hy, hR⟩ := ih hx
      exact ⟨y, List.mem_cons_of_mem _ hy, hR⟩

theorem exists_forall₂ {R : α → β → Prop} {xs : List α} (h : ∀ x ∈ xs, ∃ y, R x y) :
    ∃ ys, List.Forall₂ R xs ys := by
  induction xs with
  | nil => exact ⟨[], .nil⟩
  | cons x xs ih =>
    obtain ⟨y, hy⟩ := h x List.mem_cons_self
    obtain ⟨ys, hys⟩ := ih fun x hx => h x (List.mem_cons_of_mem _ hx)
    exact ⟨y :: ys, .cons hy hys⟩

end OpReturn
