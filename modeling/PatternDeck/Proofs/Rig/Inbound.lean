import PatternDeck.Proofs.Osc.Address
import PatternDeck.Proofs.Osc.Surface
import PatternDeck.Proofs.Parameter.Bounded
import PatternDeck.Proofs.Rig.Lights
import PatternDeck.Proofs.Stage.Ownership
import PatternDeck.Proofs.Stage.Reporting
import PatternDeck.Proofs.Stage.Tenure

/-!
Messages that come in. What a message asks of the deck fails with the deck's own failures, and these
stay with the deck. Only the size of a number gets out to who delivers the message: one that the
message holds, or one that a knob would turn its parameter to. The deck is then as it was.
-/
namespace PatternDeck

open Controller

/-- The knobs of a controller are turned by the ticks of its messages. -/
theorem Controller.Gesture.ticks_of_ofMessage? {message : Message} {index ticks : Int}
    (made : Gesture.ofMessage? message = some (.knob index ticks)) : ∃ value, ticks = ticksOf value := by
  cases message with
  | noteOn | noteOff =>
    simp only [ofMessage?, ofNote?] at made
    split_ifs at made
    all_goals cases made
  | controlChange control value =>
    simp only [ofMessage?] at made
    split_ifs at made
    cases made
    exact ⟨value, rfl⟩
  | other => cases made

/-- A message that comes in. -/
inductive Inbound where
  | controller (message : Message)
  | osc (address : String) (arguments : List Osc.Argument)

namespace Inbound

/-- The operation that a message asks for, if its numbers can be read. -/
def operation? : Inbound → Except Failure (Option Operation)
  | controller message => .ok ((Gesture.ofMessage? message).bind Gesture.operation?)
  | osc address arguments =>
    match Osc.routesOf address with
    | [] => .ok none
    | route :: _ => route.operation? address arguments

/-- What a message asks for is asked by a gesture, or by the arguments on the one route. -/
theorem asks_of_operation? {message : Inbound} {operation : Operation}
    (asked : message.operation? = .ok (some operation)) :
    (∃ sent gesture, message = .controller sent ∧ Gesture.ofMessage? sent = some gesture ∧
      gesture.operation? = some operation) ∨
    ∃ address arguments route, message = .osc address arguments ∧
      Osc.Asks address route arguments operation := by
  cases message with
  | controller sent =>
    obtain ⟨gesture, made, asks⟩ := Option.bind_eq_some_iff.1 (Except.ok.inj asked)
    exact .inl ⟨sent, gesture, rfl, made, asks⟩
  | osc address arguments =>
    simp only [operation?] at asked
    split at asked
    next => cases asked
    next route _ _ => exact .inr ⟨address, arguments, route, rfl, Osc.asks_of_operation? asked⟩

theorem isRemote_of_operation? {message : Inbound} {operation : Operation}
    (asked : message.operation? = .ok (some operation)) : operation.isRemote := by
  rcases asks_of_operation? asked with ⟨_, gesture, -, -, asks⟩ | ⟨_, _, _, -, asks⟩
  · cases gesture with
    | holdShift => cases asks
    | stopAll | button | knob =>
      cases asks
      rfl
  · cases asks <;> rfl

section Taken

open Stage

variable {Handle Listener World : Type} (around : Surroundings Handle Listener World)

/-- Takes a message in. -/
def taken : Inbound → Act Handle Listener World Unit
  | controller message => Controller.handle around message
  | osc address arguments => discard (Osc.dispatch around address arguments)

/-- Does what is asked for. -/
def obeyed : Except Failure (Option Operation) → Act Handle Listener World Unit
  | .error failure => throw failure
  | .ok none => return
  | .ok (some operation) => Act.dropOwn (operation.act around)

variable (stage : Stage Handle Listener World)

theorem perform_follow (route : Osc.Route) (address : String) (arguments : List Osc.Argument) :
    perform (Osc.follow around route address arguments) stage =
      perform (obeyed around (route.operation? address arguments)) stage := by
  unfold Osc.follow
  split
  next asked => rw [asked, obeyed]
  next asked => rw [asked, obeyed]
  next asked =>
    rw [asked, obeyed, Operation.act, perform_dropOwn]
    -- stopping all has no failure that would be dropped
    rcases stopped : perform (stopAll around) stage with ⟨outcome, after⟩
    obtain ⟨rfl, -⟩ := reports_of_stopAll around stopped
    rfl
  next asked => rw [asked, obeyed]

theorem perform_taken (message : Inbound) :
    perform (message.taken around) stage = perform (obeyed around message.operation?) stage := by
  cases message with
  | controller message =>
    rw [taken, operation?, Controller.handle]
    rcases Gesture.ofMessage? message with _ | _ | _ | _ | _
    all_goals rfl
  | osc address arguments =>
    rw [taken, perform_discard, Osc.dispatch, operation?]
    rcases Osc.routesOf_cases address with found | ⟨route, found⟩
    · simp [found, obeyed, Except.map]
    · simp only [found, List.forIn_cons, List.forIn_nil, perform_bind, perform_follow]
      rcases perform (obeyed around (route.operation? address arguments)) stage with ⟨_ | ⟨⟩, after⟩
      all_goals rfl

end Taken

section Escapes

variable {Handle Listener World : Type}

/-- What gets out of a message to who delivers it. -/
inductive Escapes (deck : Deck Handle Listener) : Inbound → Failure → Prop where
  | excessive {address : String} {arguments : List Osc.Argument} {route : Osc.Route}
      {failure : Failure} (leads : route ∈ Osc.routesOf address)
      (excessive : Osc.Excessive address route arguments failure) :
      Escapes deck (.osc address arguments) failure
  | unbounded {message : Inbound} {knob ticks : Int} {slot : Slot} {p : Parameter}
      {fault : Binary.Unbounded} (asked : message.operation? = .ok (some (.turnKnob knob ticks)))
      (driven : Selection.driven? deck.bank deck.selected knob = some (slot, p))
      (outside : p.turned (.whole ticks) = .error fault) : Escapes deck message fault.failure

variable {deck : Deck Handle Listener} {message : Inbound} {failure : Failure}

theorem Escapes.cases (escapes : message.Escapes deck failure) :
    message.operation? = .error failure ∨
      ∃ knob ticks slot p fault, message.operation? = .ok (some (.turnKnob knob ticks)) ∧
        Selection.driven? deck.bank deck.selected knob = some (slot, p) ∧
        p.turned (.whole ticks) = .error fault ∧ failure = fault.failure := by
  cases escapes with
  | @excessive address _ _ _ leads excessive =>
    left
    rcases Osc.routesOf_cases address with found | ⟨other, found⟩
    · simp [found] at leads
    · rw [found, List.mem_singleton] at leads
      rw [operation?, found, ← leads]
      exact Osc.operation?_eq_error_iff.2 excessive
  | unbounded asked driven outside => exact .inr ⟨_, _, _, _, _, asked, driven, outside, rfl⟩

theorem escapes_of_operation? (stopped : message.operation? = .error failure) :
    message.Escapes deck failure := by
  cases message with
  | controller => cases stopped
  | osc address arguments =>
    rw [operation?] at stopped
    rcases Osc.routesOf_cases address with found | ⟨route, found⟩
    all_goals simp only [found] at stopped
    · cases stopped
    · exact .excessive (by simp [found]) (Osc.operation?_eq_error_iff.1 stopped)

/-- Nothing in a message is too large. -/
def Moderate : Inbound → Prop
  | controller _ => True
  | osc _ arguments => ∀ argument ∈ arguments, argument.Moderate

theorem not_escapes_of_bounded
    (bounded : ∀ slot ∈ deck.bank.slots, ∀ p ∈ slot.parameters.toList, p.range.Bounded)
    (moderate : message.Moderate) : ¬message.Escapes deck failure := by
  rintro (⟨-, excessive⟩ | @⟨_, knob, ticks, slot, p, fault, asked, driven, outside⟩)
  · exact Osc.not_excessive_of_moderate moderate excessive
  · -- ticks are those of a controller, or what a moderate argument stands for
    have double : (Binary.toFloat? ticks).isSome := by
      rcases asks_of_operation? asked with
        ⟨sent, gesture, rfl, made, asks⟩ | ⟨_, arguments, _, rfl, asks⟩
      · cases gesture with
        | holdShift | stopAll | button => cases asks
        | knob =>
          cases asks
          obtain ⟨value, rfl⟩ := Gesture.ticks_of_ofMessage? made
          exact isSome_toFloat?_ticksOf value
      · cases asks with
        | knob _ read => exact ((moderate _ List.mem_cons_self).converts _ read).2
    obtain ⟨id, -, found, drives⟩ := Selection.driven?_eq_some driven
    have there : slot ∈ deck.bank.slots := (Bank.find?_eq_some_iff.1 found).1
    obtain ⟨new, reached⟩ :=
      Parameter.exists_turned (bounded slot there p (List.mem_of_find?_eq_some drives)) double
    rw [reached] at outside
    cases outside

end Escapes

section Received

open Stage

variable {Handle Listener World : Type} (around : Surroundings Handle Listener World)
variable {stage after : Stage Handle Listener World} {failure : Failure} {operation : Operation}

/-- What a surface asks for fails with the deck's own failures, but for a turn that leads nowhere. -/
theorem own_or_unbounded (remote : operation.isRemote) (placed : stage.deck.Placed)
    (failed : perform (operation.act around) stage = (.error failure, after)) :
    failure.isOwn ∨
      ∃ knob ticks slot p fault, operation = .turnKnob knob ticks ∧
        Selection.driven? stage.deck.bank stage.deck.selected knob = some (slot, p) ∧
        p.turned (.whole ticks) = .error fault ∧ failure = fault.failure ∧ after = stage := by
  have present := placed.present
  cases operation with
  | start id =>
    exact .inl ((ends_of_perform (perform_start around stage id present) failed).isOwn around present)
  | stop id =>
    exact .inl ((ends_of_perform (perform_stop around stage id present) failed).isOwn around present)
  | toggle id => exact .inl (isOwn_of_toggle around present failed)
  | stopAll => cases (reports_of_stopAll around failed).1
  | updateLiveCode id code =>
    have ends := ends_of_perform (perform_updateLiveCode around stage id code present) failed
    exact .inl (ends.isOwn around present)
  | select id => exact .inl (isOwn_of_select around failed)
  | setParameterValue id name value =>
    obtain ⟨came, ended, changes, adjusts⟩ :=
      perform_changeParameter around stage id true fun now => Binding.setValue now id name value
    rw [Operation.act, setParameterValue, perform_discard, changes, Prod.mk.injEq] at failed
    obtain ⟨failed, rfl⟩ := failed
    rcases came with other | p
    · cases failed
      exact .inl (adjusts.isOwn around present rfl)
    · cases failed
  | pressButton id pressed => exact .inl (isOwn_of_pressButton around present failed)
  | turnKnob knob ticks =>
    rcases turnKnob_cases around present failed with
      ⟨slot, p, fault, driven, outside, stopped, same⟩ | ⟨-, own⟩
    · exact .inr ⟨knob, ticks, slot, p, fault, rfl, driven, outside, Except.error.inj stopped, same⟩
    · exact .inl (own failure rfl)
  | _ => cases remote

/-- How a message is received by the deck of a stage. -/
structure Received (stage : Stage Handle Listener World) (message : Inbound) : Prop where
  /-- An address has the parts that are read from it, the first of which says what to do. -/
  parts : ∀ address arguments, message = .osc address arguments →
    ∀ route ∈ Osc.routesOf address, Osc.segment address 1 = route.name.toList ∧
      route.parts ≤ (Osc.segments address.toList).length
  returns : (perform (message.taken around) stage).1 = .ok () ↔
    ∀ failure, ¬message.Escapes stage.deck failure
  escapes : ∀ failure, message.Escapes stage.deck failure →
    perform (message.taken around) stage = (.error failure, stage)
  /-- A message that is passed over changes nothing. -/
  passes : message.operation? = .ok none → perform (message.taken around) stage = (.ok (), stage)
  /-- Otherwise the message does what it asks for, and a failure of that has been told. -/
  obeys : ∀ operation, message.operation? = .ok (some operation) →
    (∀ failure, ¬message.Escapes stage.deck failure) →
    ∃ outcome after, perform (operation.act around) stage = (outcome, after) ∧
      perform (message.taken around) stage = (.ok (), after) ∧
      ∀ failure, outcome = .error failure → failure.isOwn ∧
        ∃ id, operation.addressee? stage.deck = some id ∧
          after.reports = stage.reports ++ [(some id, failure)]
  /-- Where all bounds are finite, nothing but the size of a number in the message gets out. -/
  bounded : (∀ slot ∈ stage.deck.bank.slots, ∀ p ∈ slot.parameters.toList, p.range.Bounded) →
    message.Moderate → ∀ failure, ¬message.Escapes stage.deck failure

variable {message : Inbound}

theorem perform_taken_of_unbounded {knob ticks : Int} {slot : Slot} {p : Parameter}
    {fault : Binary.Unbounded} (placed : stage.deck.Placed)
    (asked : message.operation? = .ok (some (.turnKnob knob ticks)))
    (driven : Selection.driven? stage.deck.bank stage.deck.selected knob = some (slot, p))
    (outside : p.turned (.whole ticks) = .error fault) :
    perform (message.taken around) stage = (.error fault.failure, stage) := by
  rw [perform_taken, asked, obeyed, Operation.act, perform_dropOwn]
  rcases turned : perform (turnKnob around knob ticks) stage with ⟨outcome, after⟩
  rcases turnKnob_cases around placed.present turned with
    ⟨other, q, found, drives, stopped, rfl, rfl⟩ | ⟨reaches, -⟩
  · -- the same parameter meets the same fault, which is not the deck's own and so is not dropped
    cases driven.symm.trans drives
    cases outside.symm.trans stopped
    cases fault <;> rfl
  · obtain ⟨new, reached⟩ := reaches slot p driven
    cases outside.symm.trans reached

theorem perform_taken_of_escapes (placed : stage.deck.Placed)
    (escapes : message.Escapes stage.deck failure) :
    perform (message.taken around) stage = (.error failure, stage) := by
  rcases escapes.cases with stopped | ⟨knob, ticks, slot, p, fault, asked, driven, outside, rfl⟩
  · rw [perform_taken, stopped]
    rfl
  · exact perform_taken_of_unbounded around placed asked driven outside

theorem perform_taken_of_operation? (placed : stage.deck.Placed)
    (asked : message.operation? = .ok (some operation))
    (kept : ∀ failure, ¬message.Escapes stage.deck failure) :
    ∃ outcome after, perform (operation.act around) stage = (outcome, after) ∧
      perform (message.taken around) stage = (.ok (), after) ∧
      ∀ failure, outcome = .error failure → failure.isOwn ∧
        ∃ id, operation.addressee? stage.deck = some id ∧
          after.reports = stage.reports ++ [(some id, failure)] := by
  rcases done : perform (operation.act around) stage with ⟨outcome, after⟩
  -- any other failure would get out
  have own : ∀ failure, outcome = .error failure → failure.isOwn := by
    rintro failure rfl
    rcases own_or_unbounded around (isRemote_of_operation? asked) placed done with
      own | ⟨knob, ticks, slot, p, fault, rfl, driven, outside, -⟩
    · exact own
    · exact absurd (.unbounded asked driven outside) (kept _)
  refine ⟨outcome, after, rfl, ?_, fun failure failed => ⟨own failure failed, ?_⟩⟩
  · rw [perform_taken, asked, obeyed, perform_dropOwn, done]
    rcases outcome with failure | ⟨⟩
    · exact if_pos (own failure rfl)
    · rfl
  · subst failed
    obtain ⟨told, grown, answered⟩ := answers_of_operation around placed done
    cases answered with
    | own _ addressee => exact ⟨_, addressee, grown⟩
    | foreign foreign =>
      rw [own failure rfl] at foreign
      cases foreign

theorem received_of_placed (placed : stage.deck.Placed) (message : Inbound) :
    Received around stage message where
  parts := by
    rintro address arguments - route leads
    exact ⟨Osc.segment_of_mem_routesOf leads, Osc.parts_le_of_mem_routesOf leads⟩
  returns := by
    constructor
    · intro returned failure escapes
      rw [perform_taken_of_escapes around placed escapes] at returned
      cases returned
    · intro kept
      rcases asked : message.operation? with failure | _ | operation
      · exact absurd (escapes_of_operation? asked) (kept failure)
      · rw [perform_taken, asked]
        rfl
      · obtain ⟨_, after, -, returned, -⟩ := perform_taken_of_operation? around placed asked kept
        rw [returned]
  escapes _ escapes := perform_taken_of_escapes around placed escapes
  passes asked := by
    rw [perform_taken, asked]
    rfl
  obeys _ asked kept := perform_taken_of_operation? around placed asked kept
  bounded bounded moderate _ := not_escapes_of_bounded bounded moderate

variable (bank : Bank) (catalog : Catalog) (listeners : Listeners Topic Listener) (world : World)
variable (operations : List Operation)

/-- A message that comes in after any operations returns to who delivers it, unless the size of a
number gets out: of one that the message holds, or of one that a knob would turn its parameter to. What
gets out changes nothing, and neither does a message that is passed over. What a message asks for
fails with the deck's own failures alone, which have been told. -/
theorem received_after_operations (message : Inbound) :
    Received around ((fresh bank catalog listeners world).afterAll around operations) message :=
  received_of_placed around
    (placed_afterAll around _ operations (placed_fresh bank catalog listeners world)) message

private def widened : List Operation :=
  [.updatePatternCode 3 "s($a)", .select (some 3), .setParameterRange 3 "a" 0 (1 / 0),
    .assignParameter 3 "a" (some 0)]

private def wide : Stage Nat Empty Nat :=
  (fresh .pair .empty {} 0).afterAll (.refusing (· = "?")) widened

/-- One turn leads a knob with no upper bound to an infinity, and the failure of that gets out. So does
that of a selection by an infinity. -/
theorem escapes_to_infinity :
    perform (taken (.refusing (· = "?")) (.controller (.controlChange 48 1))) wide =
        (.error .tooLarge, wide) ∧
      perform (taken (.refusing (· = "?")) (.osc "/select" [.float (1 / 0)])) wide =
        (.error .tooLarge, wide) := by
  have known : (Selection.driven? wide.deck.bank wide.deck.selected 0).any
      (·.2.turned (.whole 1) = .error .infinite) := by decide +kernel
  obtain ⟨⟨slot, p⟩, driven, outside⟩ := Option.any_eq_true _ _ |>.1 known
  rw [decide_eq_true_eq] at outside
  have turn := received_after_operations (.refusing (· = "?")) Bank.pair .empty {} 0 widened
    (.controller (.controlChange 48 1))
  have selects : Osc.Route.select ∈ Osc.routesOf "/select" := by decide +kernel
  have infinite : Binary.ofFloat (1 / 0) = .infinite false := by decide +kernel
  have selection := received_after_operations (.refusing (· = "?")) Bank.pair .empty {} 0 widened
    (.osc "/select" [.float (1 / 0)])
  exact ⟨turn.escapes _ (.unbounded rfl driven outside),
    selection.escapes _ (.excessive selects (.select infinite))⟩

end Received

end Inbound

end PatternDeck
