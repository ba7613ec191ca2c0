/-!
# Log messages

Scanning and translating report what they do. The reports are part of the
result: a function that reports returns its value together with its messages,
in the order in which they arise.

## Main definitions

* `LogEntry`: a message and its level.
* `Logged`: a value with the messages on the way to it.

## Theorems

* `Logged.andThen_value`, `Logged.after_value`, `Logged.map_value`: Messages do
  not change values.
-/

namespace Highlighter

/-- How detailed a message is. -/
inductive LogLevel where
  /-- A step of the caller. -/
  | debug
  /-- A step of a scan. -/
  | trace
deriving DecidableEq

/-- A message and its level. -/
structure LogEntry where
  /-- The level. -/
  level : LogLevel
  /-- The message. -/
  text : String
deriving DecidableEq

/-- A value with the messages on the way to it. -/
structure Logged (α : Type) where
  /-- The value. -/
  value : α
  /-- The messages, in order. -/
  log : List LogEntry := []

namespace Logged

/-- A message about a step of the caller. -/
def debug (text : String) : LogEntry := ⟨.debug, text⟩

/-- A message about a step of a scan. -/
def trace (text : String) : LogEntry := ⟨.trace, text⟩

/-- Continues with the value; the messages of the continuation come later. -/
def andThen {α β : Type} (a : Logged α) (f : α → Logged β) : Logged β :=
  let b := f a.value
  ⟨b.value, a.log ++ b.log⟩

/-- Puts messages in front. -/
def after {α : Type} (log : List LogEntry) (a : Logged α) : Logged α :=
  ⟨a.value, log ++ a.log⟩

/-- Changes the value. -/
def map {α β : Type} (f : α → β) (a : Logged α) : Logged β := ⟨f a.value, a.log⟩

@[simp]
theorem andThen_value {α β : Type} (a : Logged α) (f : α → Logged β) :
    (a.andThen f).value = (f a.value).value := rfl

@[simp]
theorem after_value {α : Type} (log : List LogEntry) (a : Logged α) :
    (Logged.after log a).value = a.value := rfl

@[simp]
theorem map_value {α β : Type} (f : α → β) (a : Logged α) : (a.map f).value = f a.value := rfl

end Logged

end Highlighter
