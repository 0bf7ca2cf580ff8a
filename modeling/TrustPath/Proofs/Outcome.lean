import Mathlib.Data.List.Forall2
import TrustPath.Log

/-!
# Outcomes of computations

Inversion of computations that may fail, and what a computation that
logs comes to once its lines are left out.

A checker is a chain of steps each of which may end it, so that it
succeeds says that every step did: `bind_eq_ok` takes a chain apart,
and `forM_eq_ok` takes a check of every member of a list apart.

`Logging.outcome` is the value of a computation that logs and may fail.
It carries one step after another to one step after another
(`outcome_bind`), so what an evaluation answers is read off without
following what it writes.
-/

namespace TrustPath

section Except

variable {ε α β : Type}

theorem bind_eq_ok {x : Except ε α} {f : α → Except ε β} {b : β} :
    (x >>= f) = .ok b ↔ ∃ a, x = .ok a ∧ f a = .ok b := by
  cases x with
  | error e => simp [Bind.bind, Except.bind]
  | ok a => simp [Bind.bind, Except.bind]

/-- A chain fails with the fault of the first step that fails. -/
theorem bind_eq_error {x : Except ε α} {f : α → Except ε β} {e : ε} :
    (x >>= f) = .error e ↔ x = .error e ∨ ∃ a, x = .ok a ∧ f a = .error e := by
  cases x with
  | error e => simp [Bind.bind, Except.bind]
  | ok a => simp [Bind.bind, Except.bind]

theorem map_eq_ok {x : Except ε α} {f : α → β} {b : β} :
    x.map f = .ok b ↔ ∃ a, x = .ok a ∧ f a = b := by
  cases x with
  | error e => simp [Except.map]
  | ok a => simp [Except.map]

theorem map_map_outcome {γ : Type} (x : Except ε α) (f : α → β) (g : β → γ) :
    (x.map f).map g = x.map (g ∘ f) := by
  cases x with
  | error e => rfl
  | ok a => rfl

theorem pure_eq_ok {a b : α} : (pure a : Except ε α) = .ok b ↔ a = b := by
  simp [pure, Except.pure]

/-- What the last step of a chain establishes holds of the chain. -/
theorem ok_of_bind {x : Except ε α} {f : α → Except ε β} {P : β → Prop}
    (h : ∀ a b, f a = .ok b → P b) : ∀ b, (x >>= f) = .ok b → P b := by
  intro b hb
  obtain ⟨a, -, ha⟩ := bind_eq_ok.mp hb
  exact h a b ha

/-- A check that answers nothing succeeds in one way only. -/
theorem exists_unit_ok {x : Except ε Unit} {p : Prop} :
    (∃ a, x = .ok a ∧ p) ↔ x = .ok () ∧ p :=
  ⟨fun ⟨(), hx, hp⟩ => ⟨hx, hp⟩, fun ⟨hx, hp⟩ => ⟨(), hx, hp⟩⟩

theorem forM_eq_ok {check : α → Except ε PUnit} :
    ∀ {as : List α}, as.forM check = .ok () ↔ ∀ a ∈ as, check a = .ok ()
  | [] => by simp [List.forM, pure, Except.pure]
  | a :: as => by
      show (check a >>= fun _ => as.forM check) = .ok () ↔ _
      rw [bind_eq_ok, exists_unit_ok, forM_eq_ok, List.forall_mem_cons]

/-- Computing with every member of a list succeeds where it does with each. -/
theorem mapM_eq_ok {f : α → Except ε β} {as : List α} {bs : List β} :
    as.mapM f = .ok bs ↔ List.Forall₂ (fun a b => f a = .ok b) as bs := by
  induction as generalizing bs with
  | nil => rw [List.mapM_nil, pure_eq_ok, List.forall₂_nil_left_iff, eq_comm]
  | cons a as ih =>
      simp only [List.mapM_cons, List.forall₂_cons_left_iff, bind_eq_ok, pure_eq_ok, ih]
      constructor
      · rintro ⟨b, hb, more, hmore, rfl⟩
        exact ⟨b, more, hb, hmore, rfl⟩
      · rintro ⟨b, more, hb, hmore, rfl⟩
        exact ⟨b, hb, more, hmore, rfl⟩

/-- A computation succeeds with a value that passes a test. -/
def succeeds (x : Except ε α) (test : α → Bool) : Bool :=
  match x with
  | .ok a => test a
  | .error _ => false

theorem succeeds_iff {x : Except ε α} {test : α → Bool} :
    succeeds x test = true ↔ ∃ a, x = .ok a ∧ test a = true := by
  cases x with
  | error e => simp [succeeds]
  | ok a => simp [succeeds]

end Except

namespace Logging

variable {ε α β : Type} {max : LogLevel}

@[simp] theorem value_pure (a : α) : value (Pure.pure a : Logging α) max = a := rfl

@[simp] theorem value_bind (m : Logging α) (f : α → Logging β) :
    value (m >>= f) max = value (f (value m max)) max := rfl

@[simp] theorem value_map (f : α → β) (m : Logging α) :
    value (f <$> m) max = f (value m max) := rfl

@[simp] theorem value_lines (ls : List LogLine) : value (lines ls) max = () := rfl

@[simp] theorem value_line (level : LogLevel) (text : String) :
    value (line level text) max = () := rfl

/-- What a computation that logs and may fail comes to. -/
def outcome (m : ExceptT ε Logging α) (max : LogLevel) : Except ε α := value m.run max

theorem outcome_bind (m : ExceptT ε Logging α) (f : α → ExceptT ε Logging β) :
    outcome (m >>= f) max = outcome m max >>= fun a => outcome (f a) max := by
  unfold outcome
  rw [ExceptT.run_bind, value_bind]
  cases value m.run max with
  | error e => rfl
  | ok a => rfl

@[simp] theorem outcome_pure (a : α) :
    outcome (Pure.pure a : ExceptT ε Logging α) max = Pure.pure a := rfl

@[simp] theorem outcome_logDebug (text : String) :
    outcome (logDebug text : ExceptT ε Logging Unit) max = Pure.pure () := rfl

@[simp] theorem outcome_throw (e : ε) :
    outcome (throw e : ExceptT ε Logging α) max = .error e := rfl

@[simp] theorem outcome_ofExcept (x : Except ε α) :
    outcome (MonadExcept.ofExcept x : ExceptT ε Logging α) max = x := by
  cases x with
  | error e => rfl
  | ok a => rfl

@[simp] theorem outcome_liftM (m : Logging α) :
    outcome (liftM m : ExceptT ε Logging α) max = Pure.pure (value m max) := rfl

end Logging

end TrustPath
