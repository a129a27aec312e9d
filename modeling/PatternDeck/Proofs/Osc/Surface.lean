import Mathlib.Tactic.SplitIfs
import PatternDeck.Osc.Surface

/-!
What cannot be asked for by message. A number that is none is passed over. One that is too large is
not: an infinity has no whole number, a whole number may lie beyond all doubles, and one of too many
digits can be read but not written.
-/
namespace PatternDeck.Osc

/-- A message with a number in its address and one more is passed over for one of them. -/
def PassedOver {α : Type} (address : String) (number : Except Unreadable α) : Prop :=
  numberIn address = none ∨ ∃ fault, number = .error fault ∧ fault ≠ .tooLarge

/-- A message of a route asks for nothing that can be done, for the size of a number. -/
inductive Excessive (address : String) : Route → List Argument → Failure → Prop where
  | select {x : Float} {negative : Bool} {more : List Argument}
      (infinite : Binary.ofFloat x = .infinite negative) :
      Excessive address .select (.float x :: more) .tooLarge
  | selectLong {first : Argument} {more : List Argument} {id : Int} (read : first.toInt = .ok id)
      (positive : 0 ≤ id) (long : Literal.isTooLong id) :
      Excessive address .select (first :: more) .tooManyDigits
  | knob {index : Int} {x : Float} {negative : Bool} {more : List Argument}
      (named : numberIn address = some index) (infinite : Binary.ofFloat x = .infinite negative) :
      Excessive address .knob (.float x :: more) .tooLarge
  | knobNoted {first : Argument} {more : List Argument} {n : Int}
      (passed : PassedOver address first.toInt) (member : .int n ∈ first :: more)
      (long : Literal.isTooLong n) : Excessive address .knob (first :: more) .tooManyDigits
  | parameter {id n : Int} {more : List Argument} (named : numberIn address = some id)
      (beyond : Binary.toFloat? n = none) :
      Excessive address .parameter (.int n :: more) .tooLarge
  | parameterNoted {first : Argument} {more : List Argument} {n : Int}
      (passed : PassedOver address first.toFloat) (member : .int n ∈ first :: more)
      (long : Literal.isTooLong n) : Excessive address .parameter (first :: more) .tooManyDigits
  | code {id n : Int} {more : List Argument} (named : numberIn address = some id)
      (long : Literal.isTooLong n) : Excessive address .code (.int n :: more) .tooManyDigits

/-- What a message of a route asks for. -/
inductive Asks (address : String) : Route → List Argument → Operation → Prop where
  | toggle {id : Int} {arguments : List Argument} (named : numberIn address = some id) :
      Asks address .toggle arguments (.toggle id)
  | start {id : Int} {arguments : List Argument} (named : numberIn address = some id) :
      Asks address .start arguments (.start id)
  | stop {id : Int} {arguments : List Argument} (named : numberIn address = some id) :
      Asks address .stop arguments (.stop id)
  | stopAll {arguments : List Argument} : Asks address .stopAll arguments .stopAll
  | select {first : Argument} {more : List Argument} {id : Int} (read : first.toInt = .ok id) :
      Asks address .select (first :: more) (.select (if id < 0 then none else some id))
  | knob {first : Argument} {more : List Argument} {index ticks : Int}
      (named : numberIn address = some index) (read : first.toInt = .ok ticks) :
      Asks address .knob (first :: more) (.turnKnob index ticks)
  | parameter {first : Argument} {more : List Argument} {id : Int} {value : Float}
      (named : numberIn address = some id) (read : first.toFloat = .ok value) :
      Asks address .parameter (first :: more)
        (.setParameterValue id (String.ofList (segment address 3)) value)
  | code {first : Argument} {more : List Argument} {id : Int} (named : numberIn address = some id) :
      Asks address .code (first :: more) (.updateLiveCode id first.shown)

section Arguments

namespace Argument

variable {argument : Argument}

theorem toInt_eq_tooLarge_iff :
    argument.toInt = .error .tooLarge ↔
      ∃ x negative, argument = .float x ∧ Binary.ofFloat x = .infinite negative := by
  cases argument with
  | float x => cases read : Binary.ofFloat x <;> simp [toInt, read, Binary.truncate]
  | text s =>
    simp only [toInt]
    split <;> simp
  | int | bool | null => simp [toInt]

theorem toFloat_eq_tooLarge_iff :
    argument.toFloat = .error .tooLarge ↔
      ∃ n, argument = .int n ∧ Binary.toFloat? n = none := by
  cases argument with
  | int n => cases read : Binary.toFloat? n <;> simp [toFloat, read]
  | text s =>
    simp only [toFloat]
    split <;> simp
  | float | bool | null => simp [toFloat]

theorem isWritable_eq_false_iff :
    argument.isWritable = false ↔ ∃ n, argument = .int n ∧ Literal.isTooLong n := by
  cases argument <;> simp [isWritable]

end Argument

variable {α : Type} {number : Except Unreadable α} {arguments : List Argument} {failure : Failure}

theorem noted_eq_error_iff :
    noted arguments = .error failure ↔
      failure = .tooManyDigits ∧ ∃ n, .int n ∈ arguments ∧ Literal.isTooLong n := by
  have unwritable : (arguments.all (·.isWritable) = false) ↔
      ∃ n, .int n ∈ arguments ∧ Literal.isTooLong n := by
    simp only [List.all_eq_false, Bool.not_eq_true, Argument.isWritable_eq_false_iff]
    constructor
    · rintro ⟨_, member, n, rfl, long⟩
      exact ⟨n, member, long⟩
    · rintro ⟨n, member, long⟩
      exact ⟨_, member, n, rfl, long⟩
  rw [← unwritable, noted]
  cases arguments.all (·.isWritable) <;> simp [eq_comm]

theorem withNumber_eq_error_iff {otherwise : Except Failure (Option Operation)}
    {asked : α → Except Failure (Option Operation)} :
    withNumber number otherwise asked = .error failure ↔
      (∃ a, number = .ok a ∧ asked a = .error failure) ∨
      (number = .error .tooLarge ∧ failure = .tooLarge) ∨
      ∃ fault, number = .error fault ∧ fault ≠ .tooLarge ∧ otherwise = .error failure := by
  rcases number with (_ | _ | _) | a <;> simp [withNumber, eq_comm]

theorem withNumbers_eq_error_iff {address : String} {asked : Int → α → Operation} :
    withNumbers address number arguments asked = .error failure ↔
      (failure = .tooLarge ∧ (∃ n, numberIn address = some n) ∧ number = .error .tooLarge) ∨
      (failure = .tooManyDigits ∧ PassedOver address number ∧
        ∃ n, .int n ∈ arguments ∧ Literal.isTooLong n) := by
  rcases named : numberIn address with _ | n
  · simp [withNumbers, PassedOver, named, noted_eq_error_iff]
  · simp only [withNumbers, PassedOver, named, withNumber_eq_error_iff, noted_eq_error_iff]
    constructor
    · rintro (⟨_, _, done⟩ | ⟨large, rfl⟩ | ⟨fault, unread, small, rfl, long⟩)
      · cases done
      · exact .inl ⟨rfl, ⟨n, rfl⟩, large⟩
      · exact .inr ⟨rfl, .inr ⟨fault, unread, small⟩, long⟩
    · rintro (⟨rfl, -, large⟩ | ⟨rfl, named | ⟨fault, unread, small⟩, long⟩)
      · exact .inr (.inl ⟨large, rfl⟩)
      · cases named
      · exact .inr (.inr ⟨fault, unread, small, rfl, long⟩)

theorem withNumbers_eq_some {address : String} {asked : Int → α → Operation} {operation : Operation}
    (asks : withNumbers address number arguments asked = .ok (some operation)) :
    ∃ n a, numberIn address = some n ∧ number = .ok a ∧ operation = asked n a := by
  have silent : noted arguments ≠ .ok (some operation) := by
    unfold noted
    split <;> simp
  rcases named : numberIn address with _ | n
  all_goals simp only [withNumbers, named] at asks
  · exact absurd asks silent
  · rcases number with (_ | _ | _) | a
    · exact absurd asks silent
    · exact absurd asks silent
    · cases asks
    · cases asks
      exact ⟨n, a, rfl, rfl, rfl⟩

theorem selection_eq_error_iff {id : Int} :
    selection id = .error failure ↔
      failure = .tooManyDigits ∧ 0 ≤ id ∧ Literal.isTooLong id := by
  unfold selection
  split_ifs with negative long
  · simp [Int.not_le.2 negative]
  · simp [long, Int.not_lt.1 negative, eq_comm]
  · simp [long]

end Arguments

variable {route : Route} {address : String} {arguments : List Argument} {failure : Failure}

theorem excessive_of_operation? (stopped : route.operation? address arguments = .error failure) :
    Excessive address route arguments failure := by
  -- without arguments nothing is read, and with some only the first is, but for the note
  rcases arguments with _ | ⟨first, more⟩
  · cases route <;> cases stopped
  cases route with
  | toggle | start | stop | stopAll => cases stopped
  | select =>
    rcases withNumber_eq_error_iff.1 stopped with ⟨id, read, chosen⟩ | ⟨large, rfl⟩ | ⟨_, _, _, other⟩
    · obtain ⟨rfl, positive, long⟩ := selection_eq_error_iff.1 chosen
      exact .selectLong read positive long
    · obtain ⟨x, negative, rfl, infinite⟩ := Argument.toInt_eq_tooLarge_iff.1 large
      exact .select infinite
    · cases other
  | knob =>
    rcases withNumbers_eq_error_iff.1 stopped with
      ⟨rfl, ⟨index, named⟩, large⟩ | ⟨rfl, passed, n, member, long⟩
    · obtain ⟨x, negative, rfl, infinite⟩ := Argument.toInt_eq_tooLarge_iff.1 large
      exact .knob named infinite
    · exact .knobNoted passed member long
  | parameter =>
    rcases withNumbers_eq_error_iff.1 stopped with
      ⟨rfl, ⟨id, named⟩, large⟩ | ⟨rfl, passed, n, member, long⟩
    · obtain ⟨n, rfl, beyond⟩ := Argument.toFloat_eq_tooLarge_iff.1 large
      exact .parameter named beyond
    · exact .parameterNoted passed member long
  | code =>
    rcases named : numberIn address with _ | id
    all_goals simp only [Route.operation?, named] at stopped
    · cases stopped
    split at stopped
    next => cases stopped
    next unwritable =>
      cases stopped
      rw [Bool.not_eq_true] at unwritable
      obtain ⟨n, rfl, long⟩ := Argument.isWritable_eq_false_iff.1 unwritable
      exact .code named long

/-- What keeps a message from asking for something is the size of a number, and each of these sizes
does. -/
theorem operation?_eq_error_iff :
    route.operation? address arguments = .error failure ↔
      Excessive address route arguments failure := by
  refine ⟨excessive_of_operation?, fun excessive => ?_⟩
  cases excessive with
  | select infinite =>
    have large := Argument.toInt_eq_tooLarge_iff.2 ⟨_, _, rfl, infinite⟩
    exact withNumber_eq_error_iff.2 (.inr (.inl ⟨large, rfl⟩))
  | selectLong read positive long =>
    have refused := selection_eq_error_iff.2 ⟨rfl, positive, long⟩
    exact withNumber_eq_error_iff.2 (.inl ⟨_, read, refused⟩)
  | knob named infinite =>
    have large := Argument.toInt_eq_tooLarge_iff.2 ⟨_, _, rfl, infinite⟩
    exact withNumbers_eq_error_iff.2 (.inl ⟨rfl, ⟨_, named⟩, large⟩)
  | parameter named beyond =>
    have large := Argument.toFloat_eq_tooLarge_iff.2 ⟨_, rfl, beyond⟩
    exact withNumbers_eq_error_iff.2 (.inl ⟨rfl, ⟨_, named⟩, large⟩)
  | knobNoted passed member long | parameterNoted passed member long =>
    exact withNumbers_eq_error_iff.2 (.inr ⟨rfl, passed, _, member, long⟩)
  | code named long => simp [Route.operation?, named, Argument.isWritable, long]

theorem asks_of_operation? {operation : Operation}
    (asked : route.operation? address arguments = .ok (some operation)) :
    Asks address route arguments operation := by
  cases route with
  | toggle =>
    obtain ⟨id, named, rfl⟩ := Option.map_eq_some_iff.1 (Except.ok.inj asked)
    exact .toggle named
  | start =>
    obtain ⟨id, named, rfl⟩ := Option.map_eq_some_iff.1 (Except.ok.inj asked)
    exact .start named
  | stop =>
    obtain ⟨id, named, rfl⟩ := Option.map_eq_some_iff.1 (Except.ok.inj asked)
    exact .stop named
  | stopAll =>
    cases asked
    exact .stopAll
  | select =>
    rcases arguments with _ | ⟨first, more⟩
    · cases asked
    rcases read : first.toInt with (_ | _ | _) | id
    all_goals simp only [Route.operation?, read, withNumber] at asked
    · cases asked
    · cases asked
    · cases asked
    have chosen : operation = .select (if id < 0 then none else some id) := by
      unfold selection at asked
      split_ifs at asked ⊢
      all_goals
        cases asked
        rfl
    exact chosen ▸ .select read
  | knob =>
    rcases arguments with _ | ⟨first, more⟩
    · cases asked
    obtain ⟨index, ticks, named, read, rfl⟩ := withNumbers_eq_some asked
    exact .knob named read
  | parameter =>
    rcases arguments with _ | ⟨first, more⟩
    · cases asked
    obtain ⟨id, value, named, read, rfl⟩ := withNumbers_eq_some asked
    exact .parameter named read
  | code =>
    rcases arguments with _ | ⟨first, more⟩
    · cases asked
    rcases named : numberIn address with _ | id
    all_goals simp only [Route.operation?, named] at asked
    · cases asked
    split at asked
    next =>
      cases asked
      exact .code named
    next => cases asked

section Moderate

/-- Neither an argument nor what it stands for is too large. -/
structure Argument.Moderate (argument : Argument) : Prop where
  writable : argument.isWritable
  whole : argument.toInt ≠ .error .tooLarge
  double : argument.toFloat ≠ .error .tooLarge
  converts : ∀ n, argument.toInt = .ok n → ¬Literal.isTooLong n ∧ (Binary.toFloat? n).isSome

theorem not_excessive_of_moderate (moderate : ∀ argument ∈ arguments, argument.Moderate) :
    ¬Excessive address route arguments failure := by
  have short : ∀ n, .int n ∈ arguments → ¬Literal.isTooLong n := by
    intro n member long
    have unwritable := Argument.isWritable_eq_false_iff.2 ⟨n, rfl, long⟩
    rw [(moderate _ member).writable] at unwritable
    cases unwritable
  intro excessive
  cases excessive with
  | select infinite | knob named infinite =>
    exact (moderate _ List.mem_cons_self).whole
      (Argument.toInt_eq_tooLarge_iff.2 ⟨_, _, rfl, infinite⟩)
  | selectLong read positive long => exact ((moderate _ List.mem_cons_self).converts _ read).1 long
  | parameter named beyond =>
    exact (moderate _ List.mem_cons_self).double
      (Argument.toFloat_eq_tooLarge_iff.2 ⟨_, rfl, beyond⟩)
  | knobNoted _ member long | parameterNoted _ member long => exact short _ member long
  | code named long => exact short _ List.mem_cons_self long

end Moderate

end PatternDeck.Osc
