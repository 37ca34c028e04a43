import IntentWire.Event

/-!
# Logged computations

A computation that reports events is `Logged`: a value, and the events on the way to
it, in order. The events do not bear on the value, and a value that is an error has
its events too.
-/

namespace IntentWire

/-- A value, and the events reported on the way to it. -/
structure Logged (α : Type) where
  value : α
  events : List Event

namespace Logged

instance : Monad Logged where
  pure a := ⟨a, []⟩
  bind x f := ⟨(f x.value).value, x.events ++ (f x.value).events⟩

/-- Reports an event. -/
def report (e : Event) : Logged Unit :=
  ⟨(), [e]⟩

/-- The values of a list of computations, which report one after the other. -/
def collect {α : Type} (l : List (Logged α)) : Logged (List α) :=
  ⟨l.map (·.value), l.flatMap (·.events)⟩

variable {α β : Type}

@[simp] theorem value_pure (a : α) : (pure a : Logged α).value = a := rfl

@[simp] theorem events_pure (a : α) : (pure a : Logged α).events = [] := rfl

@[simp] theorem value_bind (x : Logged α) (f : α → Logged β) :
    (x >>= f).value = (f x.value).value := rfl

@[simp] theorem events_bind (x : Logged α) (f : α → Logged β) :
    (x >>= f).events = x.events ++ (f x.value).events := rfl

end Logged

end IntentWire
