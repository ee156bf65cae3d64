import LessonShell.Event

/-! Delivery of events. Every event goes to all listeners, in the order in which they
subscribed, before the next event goes to any. -/
namespace LessonShell

structure Delivery where
  listener : Nat
  event : Event
  deriving DecidableEq

/-- Listeners are numbered in the order of subscription. Every event goes to each of
them at once and waits to be handed back at the end of the turn. -/
structure EventBus where
  listeners : Nat
  delivered : List Delivery
  pending : List Event
  deriving DecidableEq

namespace EventBus

def empty : EventBus := ⟨0, [], []⟩

def subscribe (bus : EventBus) : EventBus := { bus with listeners := bus.listeners + 1 }

def emit (bus : EventBus) (event : Event) : EventBus :=
  { bus with
    delivered := bus.delivered ++ (List.range bus.listeners).map (⟨·, event⟩)
    pending := bus.pending ++ [event] }

def drained (bus : EventBus) : EventBus := { bus with pending := [] }

def received (bus : EventBus) (listener : Nat) : List Event :=
  (bus.delivered.filter (·.listener = listener)).map (·.event)

end EventBus

end LessonShell
