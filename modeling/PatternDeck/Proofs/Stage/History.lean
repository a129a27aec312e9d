import PatternDeck.Proofs.Execution
import PatternDeck.Stage.History

/-!
Invariants of histories: what holds at the start and is kept by every step holds before and after
every step.
-/
namespace PatternDeck.Stage

variable {Handle Listener World : Type} (around : Surroundings Handle Listener World)
variable (stage : Stage Handle Listener World) (operations : List Operation)
variable {step : Step Handle Listener World}

/-- A step is its operation, done on the stage that the steps before it left. -/
theorem perform_of_mem_history (taken : step ∈ history around stage operations) :
    perform (step.operation.act around) step.before = (step.outcome, step.after) := by
  induction operations generalizing stage with
  | nil => simp [history] at taken
  | cons operation rest ih =>
    rcases List.mem_cons.1 taken with rfl | later
    · rfl
    · exact ih _ later

theorem operation_of_mem_history (taken : step ∈ history around stage operations) :
    step.operation ∈ operations := by
  induction operations generalizing stage with
  | nil => simp [history] at taken
  | cons operation rest ih =>
    rcases List.mem_cons.1 taken with rfl | later
    · exact List.mem_cons_self
    · exact List.mem_cons_of_mem _ (ih _ later)

theorem operations_of_history :
    (history around stage operations).map (·.operation) = operations := by
  induction operations generalizing stage with
  | nil => rfl
  | cons operation rest ih => exact congrArg (operation :: ·) (ih _)

/-- Each step is of the operation in its place. -/
theorem operation_get {i : Nat} {operation : Operation}
    (there : i < (history around stage operations).length)
    (asked : operations[i]? = some operation) :
    ((history around stage operations).get ⟨i, there⟩).operation = operation := by
  have named := congrArg (·[i]?) (operations_of_history around stage operations)
  simpa [asked, there] using named

theorem invariant_of_history (Good : Stage Handle Listener World → Prop) (initial : Good stage)
    (kept : ∀ step ∈ history around stage operations, Good step.before → Good step.after) :
    ∀ step ∈ history around stage operations, Good step.before ∧ Good step.after := by
  induction operations generalizing stage with
  | nil => simp [history]
  | cons operation rest ih =>
    -- the first step, and then the others from where it ended
    have first := kept _ List.mem_cons_self initial
    intro step taken
    rcases List.mem_cons.1 taken with rfl | later
    · exact ⟨initial, first⟩
    · exact ih _ first (fun step there => kept step (List.mem_cons_of_mem _ there)) step later

end PatternDeck.Stage

namespace PatternDeck

theorem eq_ok_of_isOk {outcome : Except Failure Unit} (shown : outcome.isOk) : outcome = .ok () := by
  cases outcome with
  | ok => rfl
  | error => cases shown

/-- Surroundings in which everything works, except that some programs are refused. -/
def Surroundings.refusing (refused : String → Bool) : Surroundings Nat Empty Nat where
  compile program world :=
    if refused program then (.error ⟨"SyntaxError", "refused"⟩, world) else (.ok world, world + 1)
  start _ world := (.ok (), world)
  stop _ world := (.ok (), world)
  hush world := (.ok (), world)
  stack := Program.stackText
  save := none
  hear listener _ _ _ := nomatch listener
  clock _ := 0

/-- A bank of two slots, neither of which plays. -/
def Bank.pair : Bank :=
  ⟨[{ id := 3, code := "a" }, { id := 5, code := "b" }], "", "", by decide, by decide⟩

/-- Surroundings in which the calls on the renderer come out as a list says, and well after its end. -/
def Surroundings.scripted : Surroundings Nat Empty (List Bool) where
  compile _ world :=
    (if world.headD true then .ok world.length else .error ⟨"SyntaxError", "refused"⟩, world.tail)
  start _ world := (if world.headD true then .ok () else .error ⟨"", "engine down"⟩, world.tail)
  stop _ world := (if world.headD true then .ok () else .error ⟨"", "gone"⟩, world.tail)
  hush world := (if world.headD true then .ok () else .error ⟨"", "gone"⟩, world.tail)
  stack := Program.stackText
  save := none
  hear listener _ _ _ := nomatch listener
  clock _ := 0

end PatternDeck
