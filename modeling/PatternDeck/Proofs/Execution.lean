import PatternDeck.Failure

/-!
Execution of edits and of actions. Both are functions from a state to an outcome and a state, and
`perform` runs them. What one of them leaves alone is said by `Keeps`: an observation of the state
that has the same value afterwards, whether it failed or not. What it does not break is said by
`Preserves`.
-/
namespace PatternDeck

/-- What an action yields from a state, and the state that it leaves. -/
def perform {State α : Type} (action : ExceptT Failure (StateM State) α) (state : State) :
    Except Failure α × State :=
  action.run.run state

section Monad

variable {State α β : Type}

@[simp] theorem perform_pure (a : α) (state : State) :
    perform (pure a : ExceptT Failure (StateM State) α) state = (.ok a, state) := rfl

@[simp] theorem perform_throw (failure : Failure) (state : State) :
    perform (throw failure : ExceptT Failure (StateM State) α) state = (.error failure, state) :=
  rfl

@[simp] theorem perform_bind (action : ExceptT Failure (StateM State) α)
    (next : α → ExceptT Failure (StateM State) β) (state : State) :
    perform (action >>= next) state =
      match perform action state with
      | (.ok a, after) => perform (next a) after
      | (.error failure, after) => (.error failure, after) := by
  unfold perform
  -- both sides run the first part once, and go on by its outcome
  change (ExceptT.bindCont next (action.run.run state).1).run (action.run.run state).2 = _
  rcases action.run.run state with ⟨_ | _, after⟩ <;> rfl

@[simp] theorem perform_get (state : State) :
    perform (get : ExceptT Failure (StateM State) State) state = (.ok state, state) := rfl

@[simp] theorem perform_modify (f : State → State) (state : State) :
    perform (modify f : ExceptT Failure (StateM State) PUnit) state = (.ok (), f state) := rfl

@[simp] theorem perform_tryCatch (action : ExceptT Failure (StateM State) α)
    (answer : Failure → ExceptT Failure (StateM State) α) (state : State) :
    perform (tryCatch action answer) state =
      match perform action state with
      | (.ok a, after) => (.ok a, after)
      | (.error failure, after) => perform (answer failure) after := by
  unfold perform
  change (ExceptT.tryCatch action answer).run.run state = _
  -- the answer starts from the state that the failure left
  simp only [ExceptT.tryCatch, ExceptT.run, ExceptT.mk, StateT.run_bind]
  rcases StateT.run action state with ⟨_ | _, after⟩ <;> rfl

@[simp] theorem perform_ite (c : Prop) [Decidable c] (a b : ExceptT Failure (StateM State) α)
    (state : State) :
    perform (if c then a else b) state = if c then perform a state else perform b state := by
  split <;> rfl

theorem perform_discard (action : ExceptT Failure (StateM State) α) (state : State) :
    perform (discard action) state =
      ((perform action state).1.map fun _ => (), (perform action state).2) := by
  -- discarding is going on with nothing
  change perform (action >>= fun _ => pure PUnit.unit) state = _
  rw [perform_bind]
  rcases perform action state with ⟨_ | _, after⟩ <;> rfl

/-- What is known of some end of an action is known of the end that it came to. -/
theorem ends_of_perform {Ends : Except Failure α → State → Prop}
    {action : ExceptT Failure (StateM State) α} {state after : State} {outcome : Except Failure α}
    (ends : ∃ outcome after, perform action state = (outcome, after) ∧ Ends outcome after)
    (performed : perform action state = (outcome, after)) : Ends outcome after := by
  -- an action comes to one end only
  obtain ⟨outcome', after', same, ended⟩ := ends
  rw [performed, Prod.mk.injEq] at same
  obtain ⟨rfl, rfl⟩ := same
  exact ended

theorem perform_ends {Ends : Except Failure α → State → Prop}
    {action : ExceptT Failure (StateM State) α} {state : State}
    (ends : ∃ outcome after, perform action state = (outcome, after) ∧ Ends outcome after) :
    Ends (perform action state).1 (perform action state).2 :=
  ends_of_perform ends rfl

/-- An observation of the state that an action does not change. -/
def Keeps {Seen : Type} (observe : State → Seen) (action : ExceptT Failure (StateM State) α) :
    Prop :=
  ∀ state, observe (perform action state).2 = observe state

section Keeps

variable {Seen : Type} {observe : State → Seen} {action : ExceptT Failure (StateM State) α}

theorem Keeps.pure (a : α) : Keeps observe (pure a : ExceptT Failure (StateM State) α) :=
  fun _ => rfl

theorem Keeps.throw (failure : Failure) :
    Keeps observe (throw failure : ExceptT Failure (StateM State) α) :=
  fun _ => rfl

theorem Keeps.get : Keeps observe (get : ExceptT Failure (StateM State) State) :=
  fun _ => rfl

theorem Keeps.modify {f : State → State} (same : ∀ state, observe (f state) = observe state) :
    Keeps observe (modify f : ExceptT Failure (StateM State) PUnit) :=
  same

theorem Keeps.bind {next : α → ExceptT Failure (StateM State) β} (first : Keeps observe action)
    (rest : ∀ a, Keeps observe (next a)) : Keeps observe (action >>= next) := by
  intro state
  have kept := first state
  rw [perform_bind]
  rcases performed : perform action state with ⟨failure | a, after⟩
  -- a failure leaves out the rest
  · simpa only [performed] using kept
  · rw [performed] at kept
    exact (rest a after).trans kept

theorem Keeps.ite {c : Prop} [Decidable c] {other : ExceptT Failure (StateM State) α}
    (yes : Keeps observe action) (no : Keeps observe other) :
    Keeps observe (if c then action else other) := by
  split
  · exact yes
  · exact no

end Keeps

/-- A property of the state that an action does not break, whether it fails or not. -/
def Preserves (P : State → Prop) (action : ExceptT Failure (StateM State) α) : Prop :=
  ∀ state, P state → P (perform action state).2

section Preserves

variable {P : State → Prop} {action : ExceptT Failure (StateM State) α}

theorem Preserves.pure (a : α) : Preserves P (pure a : ExceptT Failure (StateM State) α) :=
  fun _ holds => holds

theorem Preserves.throw (failure : Failure) :
    Preserves P (throw failure : ExceptT Failure (StateM State) α) :=
  fun _ holds => holds

theorem Preserves.get : Preserves P (get : ExceptT Failure (StateM State) State) :=
  fun _ holds => holds

theorem Preserves.bind {next : α → ExceptT Failure (StateM State) β} (first : Preserves P action)
    (rest : ∀ a, Preserves P (next a)) : Preserves P (action >>= next) := by
  intro state holds
  have kept := first state holds
  rw [perform_bind]
  rcases performed : perform action state with ⟨failure | a, after⟩
  all_goals rw [performed] at kept
  -- a failure leaves out the rest
  · exact kept
  · exact rest a after kept

theorem Preserves.tryCatch {answer : Failure → ExceptT Failure (StateM State) α}
    (first : Preserves P action) (rest : ∀ failure, Preserves P (answer failure)) :
    Preserves P (tryCatch action answer) := by
  intro state holds
  have kept := first state holds
  rw [perform_tryCatch]
  rcases performed : perform action state with ⟨failure | a, after⟩
  all_goals rw [performed] at kept
  · exact rest failure after kept
  · exact kept

theorem Preserves.ite {c : Prop} [Decidable c] {other : ExceptT Failure (StateM State) α}
    (yes : Preserves P action) (no : Preserves P other) :
    Preserves P (if c then action else other) := by
  split
  · exact yes
  · exact no

theorem Preserves.discard (kept : Preserves P action) : Preserves P (discard action) := by
  intro state holds
  rw [perform_discard]
  exact kept state holds

end Preserves

end Monad

end PatternDeck
