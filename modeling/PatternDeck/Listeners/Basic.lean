/-!
Listeners: callbacks registered for events, told of them in the order of their registration. A
callback may be registered several times.
-/
namespace PatternDeck

structure Listeners (Event Callback : Type) where
  registered : List (Event × Callback) := []
  deriving Inhabited

namespace Listeners

variable {Event Callback : Type} [DecidableEq Event] [DecidableEq Callback]

def on (listeners : Listeners Event Callback) (event : Event) (callback : Callback) :
    Listeners Event Callback :=
  ⟨listeners.registered ++ [(event, callback)]⟩

/-- Takes back the first registration of a callback for an event, if there is one. -/
def unsubscribe (listeners : Listeners Event Callback) (event : Event) (callback : Callback) :
    Listeners Event Callback :=
  ⟨listeners.registered.erase (event, callback)⟩

/-- Takes back the first registration of a callback for an event, which must be there. -/
def off? (listeners : Listeners Event Callback) (event : Event) (callback : Callback) :
    Option (Listeners Event Callback) :=
  if (event, callback) ∈ listeners.registered then some (listeners.unsubscribe event callback)
  else none

/-- The callbacks registered for an event. -/
def of (listeners : Listeners Event Callback) (event : Event) : List Callback :=
  listeners.registered.filterMap fun (e, callback) => if e = event then some callback else none

def count (listeners : Listeners Event Callback) (event : Event) : Nat :=
  (listeners.of event).length

omit [DecidableEq Callback] in
theorem of_cons (first : Event × Callback) (rest : List (Event × Callback)) (event : Event) :
    of ⟨first :: rest⟩ event =
      if first.1 = event then first.2 :: of ⟨rest⟩ event else of ⟨rest⟩ event := by
  by_cases own : first.1 = event <;> simp [of, own]

omit [DecidableEq Callback] in
theorem mem_of_iff {listeners : Listeners Event Callback} {event : Event} {callback : Callback} :
    callback ∈ listeners.of event ↔ (event, callback) ∈ listeners.registered := by
  simp [of]

omit [DecidableEq Callback] in
theorem of_on (listeners : Listeners Event Callback) (event : Event) (callback : Callback)
    (other : Event) :
    (listeners.on event callback).of other =
      listeners.of other ++ if event = other then [callback] else [] := by
  by_cases own : event = other <;> simp [on, of, own]

omit [DecidableEq Callback] in
theorem of_on_self (listeners : Listeners Event Callback) (event : Event) (callback : Callback) :
    (listeners.on event callback).of event = listeners.of event ++ [callback] := by
  rw [of_on, if_pos rfl]

theorem of_unsubscribe (listeners : Listeners Event Callback) (event : Event) (callback : Callback)
    (other : Event) :
    (listeners.unsubscribe event callback).of other =
      if event = other then (listeners.of other).erase callback else listeners.of other := by
  obtain ⟨registered⟩ := listeners
  rw [unsubscribe]
  induction registered with
  | nil => simp [of]
  | cons first rest ih =>
    by_cases same : first = (event, callback)
    · subst same
      by_cases own : event = other <;> simp [of_cons, own]
    · rw [List.erase_cons_tail (by simpa using same), of_cons, of_cons, ih]
      by_cases own : event = other
      · subst own
        by_cases known : first.1 = event
        · have another : first.2 ≠ callback := fun like => same (Prod.ext known like)
          simp [known, List.erase_cons_tail, another]
        · simp [known]
      · simp [own]

end Listeners

end PatternDeck
