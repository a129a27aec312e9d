import PatternDeck.Proofs.Listeners.Unfolding

/-!
Delivery, whatever the callbacks do. The bound on how deep emits nest is no part of it: where no
emit is refused, a greater bound gives the same. Main result: in every run each emit that begins
calls just the callbacks that are registered when it begins, each of which does all that its script
says, and returns.
-/
namespace PatternDeck.Listeners.Emitter

variable {Value : Type} {scripts : Scripts Value}

/-- No emit is refused for its depth. -/
def Unrefused (course : List (Happening Value)) : Prop :=
  ∀ event values, .refused event values ∉ course

theorem Unrefused.tail {happening : Happening Value} {course : List (Happening Value)}
    (full : Unrefused (happening :: course)) : Unrefused course :=
  fun event values there => full event values (List.mem_cons_of_mem _ there)

theorem Unrefused.parts {first later : List (Happening Value)} (full : Unrefused (first ++ later)) :
    Unrefused first ∧ Unrefused later :=
  ⟨fun event values there => full event values (List.mem_append_left _ there),
    fun event values there => full event values (List.mem_append_right _ there)⟩

/-- Where no emit is refused, the bound on their nesting has no part in what happens. -/
theorem Unfolds.deeper {depth deeper : Nat} {task : Task Value} {before after : Emitter Value}
    {yield : Yield} {course : List (Happening Value)}
    (unfolds : Unfolds scripts depth task before yield course after) (full : Unrefused course)
    (deep : depth ≤ deeper) : Unfolds scripts deeper task before yield course after := by
  induction unfolds generalizing deeper with
  | registered event callback token => exact .registered event callback token
  | removed there => exact .removed there
  | notRegistered missing => exact .notRegistered missing
  | unsubscribed known => exact .unsubscribed known
  | unknownToken unknown => exact .unknownToken unknown
  | counted event => exact .counted event
  | failed => exact .failed
  | refused event values => exact absurd (List.mem_singleton_self _) (full event values)
  | emitted _ ih =>
    -- the emit takes one from the bound, and what its callbacks do has the rest
    obtain ⟨deeper, rfl⟩ := Nat.exists_eq_add_of_lt deep
    exact .emitted (ih full.tail.parts.1 (by omega))
  | returned => exact .returned
  | raised trouble => exact .raised trouble
  | acted _ _ first later => exact .acted (first full.parts.1 deep) (later full.parts.2 deep)
  | delivered values => exact .delivered values
  | called _ _ own later =>
    exact .called (own full.tail.parts.1 deep) (later full.tail.parts.2 deep)
  | idle => exact .idle
  | proceeded _ _ first later =>
    exact .proceeded (first full.parts.1 deep) (later full.parts.2 deep)

/-- An emit that is not nested too deep begins, makes its calls and ends, and it returns. -/
theorem exists_of_emit (depth : Nat) (event : String) (values : List Value)
    (emitter : Emitter Value) :
    ∃ inside after, emitter.perform scripts (depth + 1) (.emit event values) = (.ok none, after) ∧
      after.journal = emitter.journal ++ .began event values :: (inside ++ [.ended]) ∧
      callsMade 0 (inside ++ [.ended]) = some ((emitter.listeners.of event).map (·, values)) ∧
      Unfolds scripts (depth + 1) (.act (.emit event values)) emitter (.ok none)
        (.began event values :: (inside ++ [.ended])) after := by
  obtain ⟨inside, delivered⟩ := exists_unfolds_deliver (exists_unfolds_perform scripts depth) values
    (emitter.listeners.of event) (emitter.note (.began event values))
  have unfolds := Unfolds.emitted delivered
  refine ⟨inside, _, unfolds.run_eq, unfolds.passes.journal, ?_, unfolds⟩
  rw [delivered.passes.makes.outer]
  simp [callsMade, Task.calls]

/-- A run, whatever the callbacks do in it, has a course of happenings of which the following holds.
1. It unfolds action by action as the rules say: an emit begins, calls callbacks one after another,
   and ends, and behind each call comes all that the script of the callback leads to there.
2. What is registered in the end is what the course makes of what was registered at first.
3. Each emit that begins in it, at any depth, calls the callbacks that are registered for its event
   by all that happened before, in their order and with its values, and no others, and it ends.
4. An emit that is not nested too deep begins, whatever was done before it, and returns.
5. If none is refused for its depth, the run is the same under every greater bound on the depth. -/
theorem delivered_of_performAll (scripts : Scripts Value) (depth : Nat)
    (actions : List (Action Value)) (emitter : Emitter Value) :
    ∃ course,
      Unfolds scripts depth (.actAll actions) emitter (.ok none) course
        (emitter.performAll scripts depth actions) ∧
      (emitter.performAll scripts depth actions).journal = emitter.journal ++ course ∧
      (emitter.performAll scripts depth actions).listeners = emitter.listeners.following course ∧
      (∀ before event values rest, course = before ++ .began event values :: rest →
        callsMade 0 rest =
          some (((emitter.listeners.following before).of event).map (·, values))) ∧
      (∀ event values (underway : Emitter Value), ∃ inside after,
        underway.perform scripts (depth + 1) (.emit event values) = (.ok none, after) ∧
        after.journal = underway.journal ++ .began event values :: (inside ++ [.ended]) ∧
        callsMade 0 (inside ++ [.ended]) = some ((underway.listeners.of event).map (·, values)) ∧
        Unfolds scripts (depth + 1) (.act (.emit event values)) underway (.ok none)
          (.began event values :: (inside ++ [.ended])) after) ∧
      ((∀ event values, .refused event values ∉ course) → ∀ deeper, depth ≤ deeper →
        emitter.performAll scripts deeper actions = emitter.performAll scripts depth actions) := by
  obtain ⟨course, unfolds⟩ := exists_unfolds_performAll scripts depth actions emitter
  have passes := unfolds.passes
  refine ⟨course, unfolds, passes.journal, passes.listeners, passes.faithful,
    fun event values underway => exists_of_emit depth event values underway, ?_⟩
  intro full deeper deep
  exact congrArg Prod.snd (unfolds.deeper full deep).run_eq

private def relaying : Scripts Nat := fun _ callback _ =>
  if callback = "once" then .ofActions [.off "tick" "once", .on "tick" "late" "late"]
  else if callback = "broken" then .ofActions [.fail]
  else if callback = "relay" then .ofActions [.emit "tock" [9]]
  else .returns

private def twoTicks : List (Action Nat) :=
  [.on "tick" "once" "a", .on "tick" "broken" "b", .on "tick" "relay" "c", .on "tock" "end" "d",
    .emit "tick" [1], .emit "tick" [2]]

private def firstTick : List (Happening Nat) :=
  [.registered ⟨0, "tick", "once"⟩, .registered ⟨1, "tick", "broken"⟩,
    .registered ⟨2, "tick", "relay"⟩, .registered ⟨3, "tock", "end"⟩, .began "tick" [1],
    .called "once" [1], .removed "tick" "once", .registered ⟨4, "tick", "late"⟩,
    .called "broken" [1], .called "relay" [1], .began "tock" [9], .called "end" [9], .ended, .ended]

private def secondTick : List (Happening Nat) :=
  [.called "broken" [2], .called "relay" [2], .began "tock" [9], .called "end" [9], .ended,
    .called "late" [2], .ended]

/-- In the first of two emits one callback takes itself back and registers another, one fails, and one
emits in turn; the second finds what they left. -/
theorem delivered_to_changing :
    Unfolds relaying 2 (.actAll twoTicks) {} (.ok none)
        (firstTick ++ .began "tick" [2] :: secondTick) (performAll relaying 2 twoTicks {}) ∧
      callsMade 0 secondTick = some [("broken", [2]), ("relay", [2]), ("late", [2])] ∧
      ∀ deeper, 2 ≤ deeper →
        performAll relaying deeper twoTicks {} = performAll relaying 2 twoTicks {} := by
  obtain ⟨course, unfolds, journal, -, faithful, -, same⟩ :=
    delivered_of_performAll relaying 2 twoTicks {}
  have shown : (performAll relaying 2 twoTicks {}).journal =
      firstTick ++ .began "tick" [2] :: secondTick := by decide +kernel
  obtain rfl : course = firstTick ++ .began "tick" [2] :: secondTick := journal.symm.trans shown
  refine ⟨unfolds, ?_, same (by simp [firstTick, secondTick])⟩
  rw [faithful firstTick "tick" [2] secondTick rfl]
  decide +kernel

end PatternDeck.Listeners.Emitter
