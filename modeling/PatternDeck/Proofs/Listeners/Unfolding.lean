import PatternDeck.Proofs.Listeners.Course

/-!
How what is done at an emitter unfolds. An emit begins, calls one after another the callbacks that are
registered then, each of which follows its script to the end, and ends. There is one relation for all
that is done, since callbacks act and actions call.
-/
namespace PatternDeck.Listeners.Emitter

variable {Value : Type}

/-- What is done at an emitter. -/
inductive Task (Value : Type) where
  | act (action : Action Value)
  /-- A callback does what its script says, once it is called. -/
  | follow (script : Script Value)
  /-- An emit calls callbacks with its values. -/
  | deliver (values : List Value) (callbacks : List String)
  /-- Actions are done one after another, also after one that fails. -/
  | actAll (actions : List (Action Value))

/-- The calls of the emit underway. -/
def Task.calls : Task Value → List (String × List Value)
  | deliver values callbacks => callbacks.map (·, values)
  | _ => []

/-- What is done unfolds from one emitter to another, with so many emits nested at most: what it yields,
and the course of what happens. -/
inductive Unfolds (scripts : Scripts Value) :
    Nat → Task Value → Emitter Value → Yield → List (Happening Value) → Emitter Value → Prop where
  | registered {depth : Nat} {emitter : Emitter Value} (event callback token : String) :
      Unfolds scripts depth (.act (.on event callback token)) emitter (.ok none)
        [.registered ⟨emitter.tokens.length, event, callback⟩]
        (emitter.register event callback token)
  | removed {depth : Nat} {emitter after : Emitter Value} {event callback : String}
      (there : emitter.remove? event callback = some after) :
      Unfolds scripts depth (.act (.off event callback)) emitter (.ok none)
        [.removed event callback] after
  | notRegistered {depth : Nat} {emitter : Emitter Value} {event callback : String}
      (missing : emitter.remove? event callback = none) :
      Unfolds scripts depth (.act (.off event callback)) emitter (.error (.notRegistered event)) []
        emitter
  | unsubscribed {depth : Nat} {emitter : Emitter Value} {token : String} {made : Registration}
      (known : emitter.tokens.lookup token = some made) :
      Unfolds scripts depth (.act (.unsubscribe token)) emitter (.ok none) [.unsubscribed made]
        (emitter.takeBack made)
  | unknownToken {depth : Nat} {emitter : Emitter Value} {token : String}
      (unknown : emitter.tokens.lookup token = none) :
      Unfolds scripts depth (.act (.unsubscribe token)) emitter (.error (.unknownToken token)) []
        emitter
  | counted {depth : Nat} {emitter : Emitter Value} (event : String) :
      Unfolds scripts depth (.act (.count event)) emitter
        (.ok (some (emitter.listeners.count event))) [] emitter
  | failed {depth : Nat} {emitter : Emitter Value} :
      Unfolds scripts depth (.act .fail) emitter (.error .failed) [] emitter
  | refused {emitter : Emitter Value} (event : String) (values : List Value) :
      Unfolds scripts 0 (.act (.emit event values)) emitter (.error .tooDeep)
        [.refused event values] (emitter.note (.refused event values))
  /-- An emit begins, calls the callbacks that are registered then, and ends. -/
  | emitted {depth : Nat} {before after : Emitter Value} {event : String} {values : List Value}
      {yield : Yield} {course : List (Happening Value)}
      (delivered : Unfolds scripts depth (.deliver values (before.listeners.of event))
        (before.note (.began event values)) yield course after) :
      Unfolds scripts (depth + 1) (.act (.emit event values)) before (.ok none)
        (.began event values :: (course ++ [.ended])) (after.note .ended)
  | returned {depth : Nat} {emitter : Emitter Value} :
      Unfolds scripts depth (.follow .returns) emitter (.ok none) [] emitter
  | raised {depth : Nat} {emitter : Emitter Value} (trouble : Trouble) :
      Unfolds scripts depth (.follow (.fails trouble)) emitter (.error trouble) [] emitter
  /-- The first action is done, and then what its yield asks for. -/
  | acted {depth : Nat} {before middle after : Emitter Value} {action : Action Value}
      {next : Yield → Script Value} {yield outcome : Yield} {first later : List (Happening Value)}
      (done : Unfolds scripts depth (.act action) before yield first middle)
      (rest : Unfolds scripts depth (.follow (next yield)) middle outcome later after) :
      Unfolds scripts depth (.follow (.acts action next)) before outcome (first ++ later) after
  | delivered {depth : Nat} {emitter : Emitter Value} (values : List Value) :
      Unfolds scripts depth (.deliver values []) emitter (.ok none) [] emitter
  /-- A callback is called and follows its script; whether it fails or not, the others are called. -/
  | called {depth : Nat} {before middle after : Emitter Value} {values : List Value}
      {callback : String} {others : List String} {outcome yield : Yield}
      {own later : List (Happening Value)}
      (followed : Unfolds scripts depth (.follow (scripts before.journal callback values))
        (before.note (.called callback values)) outcome own middle)
      (rest : Unfolds scripts depth (.deliver values others) middle yield later after) :
      Unfolds scripts depth (.deliver values (callback :: others)) before yield
        (.called callback values :: (own ++ later)) after
  | idle {depth : Nat} {emitter : Emitter Value} :
      Unfolds scripts depth (.actAll []) emitter (.ok none) [] emitter
  | proceeded {depth : Nat} {before middle after : Emitter Value} {action : Action Value}
      {actions : List (Action Value)} {yield outcome : Yield} {first later : List (Happening Value)}
      (done : Unfolds scripts depth (.act action) before yield first middle)
      (rest : Unfolds scripts depth (.actAll actions) middle outcome later after) :
      Unfolds scripts depth (.actAll (action :: actions)) before outcome (first ++ later) after

section Unfolds

variable {scripts : Scripts Value} {depth : Nat} {task : Task Value} {yield : Yield}
variable {before after : Emitter Value} {course : List (Happening Value)}

theorem Unfolds.passes (unfolds : Unfolds scripts depth task before yield course after) :
    Passes before task.calls course after := by
  induction unfolds with
  | registered event callback token => exact .registered _ event callback token
  | removed there =>
    obtain rfl := eq_of_remove? there
    exact .of_unmade _ (.removed _ _) rfl rfl trivial
  | @unsubscribed depth emitter token made known =>
    -- a token stands for a registration that was made
    obtain ⟨newer, older, tokens, -⟩ := List.lookup_eq_some_iff.1 known
    have owned : made ∈ emitter.tokens.map (·.2) := by rw [tokens]; simp
    exact .of_unmade emitter (.unsubscribed made) rfl rfl ⟨owned, trivial⟩
  | refused event values => exact .of_unmade _ (.refused event values) rfl rfl trivial
  | emitted _ ih => exact .emitted ih
  | acted _ _ first later | proceeded _ _ first later => exact first.trans later
  | called _ _ own later => exact ((Passes.called _ _ _).trans own).trans later
  | notRegistered | unknownToken | counted | failed | returned | raised | delivered | idle =>
    exact .refl _

/-! ### The rules are carried out -/

/-- What a task yields, and what it leaves. -/
def Task.run (scripts : Scripts Value) (depth : Nat) : Task Value → Emitter Value → Done Value
  | act action, emitter => emitter.perform scripts depth action
  | follow script, emitter =>
    let (outcome, after) := Emitter.follow (Emitter.perform scripts depth) script emitter
    (outcome.map fun _ => none, after)
  | deliver values callbacks, emitter =>
    (.ok none, callAll scripts (Emitter.perform scripts depth) values callbacks emitter)
  | actAll actions, emitter => (.ok none, emitter.performAll scripts depth actions)

/-- A task is run as the rules say, and in no other way. -/
theorem Unfolds.run_eq (unfolds : Unfolds scripts depth task before yield course after) :
    task.run scripts depth before = (yield, after) := by
  -- the premises of a rule are the calls that its branch makes
  induction unfolds with
  | removed there | notRegistered there | unsubscribed there | unknownToken there =>
    simp only [Task.run, perform, there]
  | emitted _ ih =>
    simp only [Task.run, Prod.mk.injEq] at ih
    simp only [Task.run, perform, ih.2]
  | acted _ _ first later =>
    simp only [Task.run] at first later
    simp only [Task.run, follow, first]
    exact later
  | called _ _ own later =>
    simp only [Task.run, Prod.mk.injEq] at own later
    simp only [Task.run, callAll, own.2, later.2, later.1]
  | proceeded _ _ first later =>
    simp only [Task.run] at first later
    simp only [Task.run, performAll, List.foldl_cons, first]
    exact later
  | registered | counted | failed => simp only [Task.run, perform]
  | refused | returned | raised | delivered | idle => rfl

section Exists

variable (acts : ∀ action emitter, ∃ course, Unfolds scripts depth (.act action) emitter
  (emitter.perform scripts depth action).1 course (emitter.perform scripts depth action).2)
include acts

theorem exists_unfolds_follow (script : Script Value) (emitter : Emitter Value) :
    ∃ course, Unfolds scripts depth (.follow script) emitter
      ((Task.follow script).run scripts depth emitter).1 course
      ((Task.follow script).run scripts depth emitter).2 := by
  induction script generalizing emitter with
  | returns => exact ⟨[], .returned⟩
  | fails trouble => exact ⟨[], .raised trouble⟩
  | acts action next ih =>
    obtain ⟨first, done⟩ := acts action emitter
    -- what the action yields decides how the script goes on
    obtain ⟨later, rest⟩ := ih (emitter.perform scripts depth action).1
      (emitter.perform scripts depth action).2
    exact ⟨first ++ later, .acted done rest⟩

theorem exists_unfolds_deliver (values : List Value) (callbacks : List String)
    (emitter : Emitter Value) :
    ∃ course, Unfolds scripts depth (.deliver values callbacks) emitter (.ok none) course
      (callAll scripts (Emitter.perform scripts depth) values callbacks emitter) := by
  induction callbacks generalizing emitter with
  | nil => exact ⟨[], .delivered values⟩
  | cons callback others ih =>
    -- the script hangs on all that happened before the call, the calls before it included
    obtain ⟨own, followed⟩ := exists_unfolds_follow acts
      (scripts emitter.journal callback values) (emitter.note (.called callback values))
    obtain ⟨later, rest⟩ := ih _
    exact ⟨_, .called followed rest⟩

end Exists

variable (scripts)

theorem exists_unfolds_of_plain (depth : Nat) {action : Action Value}
    (plain : ∀ event values, action ≠ .emit event values) (emitter : Emitter Value) :
    ∃ course, Unfolds scripts depth (.act action) emitter
      (emitter.perform scripts depth action).1 course
      (emitter.perform scripts depth action).2 := by
  cases action with
  | on event callback token =>
    rw [perform]
    exact ⟨_, .registered event callback token⟩
  | off event callback =>
    rw [perform]
    split
    next there => exact ⟨_, .removed there⟩
    next missing => exact ⟨_, .notRegistered missing⟩
  | unsubscribe token =>
    rw [perform]
    split
    next known => exact ⟨_, .unsubscribed known⟩
    next unknown => exact ⟨_, .unknownToken unknown⟩
  | count event =>
    rw [perform]
    exact ⟨_, .counted event⟩
  | fail =>
    rw [perform]
    exact ⟨_, .failed⟩
  | emit event values => exact absurd rfl (plain event values)

theorem exists_unfolds_perform (depth : Nat) (action : Action Value) (emitter : Emitter Value) :
    ∃ course, Unfolds scripts depth (.act action) emitter
      (emitter.perform scripts depth action).1 course
      (emitter.perform scripts depth action).2 := by
  -- an emit hands all that its callbacks do to a smaller bound, and the rest asks for no bound
  induction depth generalizing action emitter with
  | zero =>
    cases action with
    | emit event values => exact ⟨_, .refused event values⟩
    | _ => exact exists_unfolds_of_plain scripts 0 (by simp) emitter
  | succ depth ih =>
    cases action with
    | emit event values =>
      obtain ⟨course, delivered⟩ := exists_unfolds_deliver ih values (emitter.listeners.of event)
        (emitter.note (.began event values))
      exact ⟨_, .emitted delivered⟩
    | _ => exact exists_unfolds_of_plain scripts (depth + 1) (by simp) emitter

theorem exists_unfolds_performAll (depth : Nat) (actions : List (Action Value))
    (emitter : Emitter Value) :
    ∃ course, Unfolds scripts depth (.actAll actions) emitter (.ok none) course
      (emitter.performAll scripts depth actions) := by
  induction actions generalizing emitter with
  | nil => exact ⟨[], .idle⟩
  | cons action rest ih =>
    obtain ⟨first, done⟩ := exists_unfolds_perform scripts depth action emitter
    obtain ⟨later, rest⟩ := ih (emitter.perform scripts depth action).2
    exact ⟨first ++ later, .proceeded done rest⟩

theorem exists_passes_performAll (depth : Nat) (actions : List (Action Value))
    (emitter : Emitter Value) :
    ∃ course, Passes emitter [] course (emitter.performAll scripts depth actions) := by
  obtain ⟨course, unfolds⟩ := exists_unfolds_performAll scripts depth actions emitter
  exact ⟨course, unfolds.passes⟩

end Unfolds

end PatternDeck.Listeners.Emitter
