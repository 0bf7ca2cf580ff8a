import TrustPath.Proofs.Outcome

/-!
# Levels that only filter

A computation that logs could do anything else under another maximum level.
One that is `Levelled` does not: its value is the same under all of them, and
what it writes under a maximum is what it writes in full detail, less the
lines above the maximum.

Lines are levelled, and so is what is put together from levelled parts,
whether it may fail (`Levelled.run_bind`) or not (`Levelled.bind`). Only to
ask whether a level is enabled is not.
-/

namespace TrustPath

namespace LogLevel

theorem le_trace (level : LogLevel) : level ≤ .trace := by
  cases level <;> decide

end LogLevel

namespace Logging

variable {α β ε : Type}

/-- The lines that a maximum level admits. -/
def admitted (max : LogLevel) (ls : List LogLine) : List LogLine :=
  ls.filter fun l => decide (l.level ≤ max)

/-- The maximum level has no influence but on which lines are written. -/
structure Levelled (m : Logging α) : Prop where
  value_eq : ∀ max, m.value max = m.value .trace
  written_eq : ∀ max, m.written max = admitted max (m.written .trace)

theorem admitted_append (max : LogLevel) (first second : List LogLine) :
    admitted max (first ++ second) = admitted max first ++ admitted max second :=
  List.filter_append ..

theorem admitted_trace (ls : List LogLine) : admitted .trace ls = ls :=
  List.filter_eq_self.mpr fun l _ => decide_eq_true l.level.le_trace

theorem written_bind (m : Logging α) (f : α → Logging β) (max : LogLevel) :
    written (m >>= f) max = m.written max ++ (f (m.value max)).written max := rfl

theorem written_lines (ls : List LogLine) (max : LogLevel) :
    written (lines ls) max = admitted max ls := rfl

theorem line_eq_lines (level : LogLevel) (text : String) :
    line level text = lines [⟨level, text⟩] := by
  funext max
  by_cases h : level ≤ max
  · simp [line, lines, h]
  · simp [line, lines, h]

namespace Levelled

theorem pure (a : α) : Levelled (Pure.pure a) := ⟨fun _ => rfl, fun _ => rfl⟩

/-- What follows need only be levelled after the value that there is. -/
theorem bind_value {m : Logging α} {f : α → Logging β} (hm : Levelled m)
    (hf : Levelled (f (m.value .trace))) : Levelled (m >>= f) where
  value_eq max := by rw [value_bind, value_bind, hm.value_eq max, hf.value_eq max]
  written_eq max := by
    rw [written_bind, written_bind, admitted_append, ← hm.written_eq max, hm.value_eq max,
      ← hf.written_eq max]

theorem bind {m : Logging α} {f : α → Logging β} (hm : Levelled m) (hf : ∀ a, Levelled (f a)) :
    Levelled (m >>= f) :=
  hm.bind_value (hf _)

theorem lines (ls : List LogLine) : Levelled (lines ls) where
  value_eq _ := rfl
  written_eq max := by rw [written_lines, written_lines, admitted_trace]

theorem line (level : LogLevel) (text : String) : Levelled (line level text) :=
  line_eq_lines level text ▸ lines _

/-! ## Computations that may fail -/

theorem run_pure (a : α) : Levelled (Pure.pure a : ExceptT ε Logging α).run := pure _

theorem run_bind {m : ExceptT ε Logging α} {f : α → ExceptT ε Logging β} (hm : Levelled m.run)
    (hf : ∀ a, Levelled (f a).run) : Levelled (m >>= f).run := by
  rw [ExceptT.run_bind]
  refine bind hm fun result => ?_
  cases result with
  | ok a => exact hf a
  | error e => exact pure _

theorem run_ofExcept (x : Except ε α) :
    Levelled (MonadExcept.ofExcept x : ExceptT ε Logging α).run := by
  cases x with
  | ok a => exact pure _
  | error e => exact pure _

theorem run_liftM {m : Logging α} (hm : Levelled m) :
    Levelled (liftM m : ExceptT ε Logging α).run :=
  bind hm fun _ => pure _

end Levelled

end Logging

end TrustPath
