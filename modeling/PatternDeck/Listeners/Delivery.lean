import PatternDeck.Listeners.Basic
import PatternDeck.Text.Quoted

/-!
Delivery of events to listeners that act on the emitter in turn: they register and take back
callbacks, emit events, and fail. An emit reaches the callbacks that are registered when it begins,
whatever becomes of the registrations meanwhile; a callback that fails is passed over.
-/
namespace PatternDeck.Listeners

/-- What can be done with an emitter whose events carry values of a type. -/
inductive Action (Value : Type) where
  /-- Registers a callback, and remembers under a token how to take it back. -/
  | on (event callback token : String)
  | off (event callback : String)
  | unsubscribe (token : String)
  | emit (event : String) (values : List Value)
  | count (event : String)
  | fail

/-- Why an action was not done. -/
inductive Trouble where
  | notRegistered (event : String)
  | unknownToken (token : String)
  | failed
  /-- Emits nested too deep. -/
  | tooDeep
  deriving DecidableEq, Repr

def Trouble.message : Trouble → String
  | notRegistered event => "Callback not registered for event " ++ Text.quoted event
  | unknownToken token => Text.quoted token
  | failed => "failed"
  | tooDeep => "too deep"

/-- What an action yields. -/
abbrev Yield := Except Trouble (Option Nat)

/-- What a callback does once it is called: actions, each chosen by what the one before it yielded,
and in the end it returns or fails. -/
inductive Script (Value : Type) where
  | returns
  | fails (trouble : Trouble)
  | acts (action : Action Value) (next : Yield → Script Value)

/-- Actions in order, up to the first that fails. -/
def Script.ofActions {Value : Type} : List (Action Value) → Script Value
  | [] => returns
  | action :: rest =>
    acts action fun
      | .ok _ => ofActions rest
      | .error trouble => fails trouble

/-- A registration, as the function remembers it that takes it back. -/
structure Registration where
  /-- How many registrations were made before it. -/
  number : Nat
  event : String
  callback : String
  deriving DecidableEq, Repr

/-- What happens at an emitter. -/
inductive Happening (Value : Type) where
  | registered (made : Registration)
  | removed (event callback : String)
  /-- The function is called that takes a registration back. -/
  | unsubscribed (made : Registration)
  /-- An emit begins. -/
  | began (event : String) (values : List Value)
  /-- The emit that began last and goes on calls a callback. -/
  | called (callback : String) (values : List Value)
  /-- The emit that began last and goes on comes to its end. -/
  | ended
  /-- An emit does not begin, since it is nested too deep. -/
  | refused (event : String) (values : List Value)
  deriving DecidableEq, Repr

def Happening.call? {Value : Type} : Happening Value → Option (String × List Value)
  | called callback values => some (callback, values)
  | _ => none

/-- The script of a call: by all that happened before it, the callback and the values. -/
abbrev Scripts (Value : Type) :=
  List (Happening Value) → String → List Value → Script Value

/-- An emitter with the tokens given out and what happened so far. -/
structure Emitter (Value : Type) where
  listeners : Listeners String String := {}
  /-- One for each registration that was made, the newest first. -/
  tokens : List (String × Registration) := []
  /-- The latest last. -/
  journal : List (Happening Value) := []

namespace Emitter

variable {Value : Type}

/-- What an action yields, and what it leaves. -/
abbrev Done (Value : Type) := Yield × Emitter Value

def note (emitter : Emitter Value) (happening : Happening Value) : Emitter Value :=
  { emitter with journal := emitter.journal ++ [happening] }

/-- The calls made so far. -/
def calls (emitter : Emitter Value) : List (String × List Value) :=
  emitter.journal.filterMap Happening.call?

/-- Registers a callback, and remembers under a token how to take it back. -/
def register (emitter : Emitter Value) (event callback token : String) : Emitter Value :=
  let made : Registration := ⟨emitter.tokens.length, event, callback⟩
  { emitter with
    listeners := emitter.listeners.on event callback
    tokens := (token, made) :: emitter.tokens }.note (.registered made)

/-- Takes back the first registration of a callback for an event, which must be there. -/
def remove? (emitter : Emitter Value) (event callback : String) : Option (Emitter Value) :=
  (emitter.listeners.off? event callback).map fun listeners =>
    { emitter with listeners }.note (.removed event callback)

/-- Takes back the first registration, if any, that is like the one remembered. -/
def takeBack (emitter : Emitter Value) (made : Registration) : Emitter Value :=
  { emitter with
    listeners := emitter.listeners.unsubscribe made.event made.callback }.note (.unsubscribed made)

/-- Follows a script to its end. -/
def follow (perform : Action Value → Emitter Value → Done Value) :
    Script Value → Emitter Value → Except Trouble Unit × Emitter Value
  | .returns, emitter => (.ok (), emitter)
  | .fails trouble, emitter => (.error trouble, emitter)
  | .acts action next, emitter =>
    let (yield, emitter) := perform action emitter
    follow perform (next yield) emitter

/-- Calls callbacks in order. One that fails is passed over. -/
def callAll (scripts : Scripts Value) (perform : Action Value → Emitter Value → Done Value)
    (values : List Value) : List String → Emitter Value → Emitter Value
  | [], emitter => emitter
  | callback :: rest, emitter =>
    let script := scripts emitter.journal callback values
    let followed := follow perform script (emitter.note (.called callback values))
    callAll scripts perform values rest followed.2

/-- Does one action, with so many emits nested at most. -/
def perform (scripts : Scripts Value) : Nat → Action Value → Emitter Value → Done Value
  | _, .on event callback token, emitter => (.ok none, emitter.register event callback token)
  | _, .off event callback, emitter =>
    match emitter.remove? event callback with
    | some emitter => (.ok none, emitter)
    | none => (.error (.notRegistered event), emitter)
  | _, .unsubscribe token, emitter =>
    match emitter.tokens.lookup token with
    | some made => (.ok none, emitter.takeBack made)
    | none => (.error (.unknownToken token), emitter)
  | _, .count event, emitter => (.ok (some (emitter.listeners.count event)), emitter)
  | _, .fail, emitter => (.error .failed, emitter)
  | 0, .emit event values, emitter => (.error .tooDeep, emitter.note (.refused event values))
  | depth + 1, .emit event values, emitter =>
    let present := emitter.listeners.of event
    let emitter := emitter.note (.began event values)
    (.ok none, (callAll scripts (perform scripts depth) values present emitter).note .ended)

/-- Does actions in order, also those after one that fails. -/
def performAll (scripts : Scripts Value) (depth : Nat) (actions : List (Action Value))
    (emitter : Emitter Value) : Emitter Value :=
  actions.foldl (fun emitter action => (emitter.perform scripts depth action).2) emitter

end Emitter

end PatternDeck.Listeners
