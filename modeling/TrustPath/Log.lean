/-!
# Logging

What a computation reports on its way is part of its result: lines of text, each with a level. A
computation runs under a maximum level, may ask whether a level is enabled, and keeps only the
lines that the maximum admits.
-/

namespace TrustPath

/-- How important a line is. `off` is only a maximum: no line has it. -/
inductive LogLevel
  | off
  | error
  | warn
  | info
  | debug
  | trace
deriving Repr, DecidableEq

namespace LogLevel

/-- The place of a level in the order from silence to full detail. -/
def rank : LogLevel → Nat
  | .off => 0
  | .error => 1
  | .warn => 2
  | .info => 3
  | .debug => 4
  | .trace => 5

instance : LE LogLevel := ⟨fun a b => a.rank ≤ b.rank⟩

instance (a b : LogLevel) : Decidable (a ≤ b) := inferInstanceAs (Decidable (a.rank ≤ b.rank))

def label : LogLevel → String
  | .off => "OFF"
  | .error => "ERROR"
  | .warn => "WARN"
  | .info => "INFO"
  | .debug => "DEBUG"
  | .trace => "TRACE"

end LogLevel

/-- A line of the log. -/
structure LogLine where
  level : LogLevel
  text : String
deriving Repr, DecidableEq

/-- A computation that logs: under a maximum level it gives a value and the lines it wrote. -/
def Logging (α : Type) : Type := LogLevel → α × List LogLine

namespace Logging

def pure {α : Type} (a : α) : Logging α := fun _ => (a, [])

/-- One computation after another, the second given the value of the first. -/
def bind {α β : Type} (m : Logging α) (f : α → Logging β) : Logging β := fun max =>
  let (a, first) := m max
  let (b, second) := f a max
  (b, first ++ second)

instance : Monad Logging where
  pure := pure
  bind := bind

instance : LawfulMonad Logging := LawfulMonad.mk' Logging
  (fun m => by funext max; simp [Functor.map, bind, pure])
  (fun a f => by funext max; simp [Bind.bind, Pure.pure, bind, pure])
  (fun m f g => by funext max; simp [Bind.bind, bind, List.append_assoc])

def line (level : LogLevel) (text : String) : Logging Unit := fun max =>
  ((), if level ≤ max then [⟨level, text⟩] else [])

def lines (ls : List LogLine) : Logging Unit := fun max =>
  ((), ls.filter fun l => decide (l.level ≤ max))

def enabled (level : LogLevel) : Logging Bool := fun max => (decide (level ≤ max), [])

/-- The value that a computation gives under a maximum level. -/
def value {α : Type} (m : Logging α) (max : LogLevel) : α := (m max).1

/-- The lines that a computation writes under a maximum level. -/
def written {α : Type} (m : Logging α) (max : LogLevel) : List LogLine := (m max).2

end Logging

/-- Computations that can write lines, whatever else they do. -/
class MonadLog (m : Type → Type) where
  log : LogLevel → String → m Unit

/-- Write a line for those who follow what is done step by step. -/
def logDebug {m : Type → Type} [MonadLog m] (text : String) : m Unit := MonadLog.log .debug text

def logTrace {m : Type → Type} [MonadLog m] (text : String) : m Unit := MonadLog.log .trace text

instance : MonadLog Logging := ⟨Logging.line⟩

instance {σ : Type} {m : Type → Type} [Monad m] [MonadLog m] : MonadLog (StateT σ m) :=
  ⟨fun level text => StateT.lift (MonadLog.log level text)⟩

instance {ε : Type} {m : Type → Type} [Monad m] [MonadLog m] : MonadLog (ExceptT ε m) :=
  ⟨fun level text => ExceptT.lift (MonadLog.log level text)⟩

end TrustPath
