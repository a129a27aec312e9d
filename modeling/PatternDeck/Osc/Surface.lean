import PatternDeck.Osc.Address
import PatternDeck.Osc.Message
import PatternDeck.Stage.History

/-!
The control surface by messages: `/toggle/5`, `/start/5`, `/stop/5`, `/stop_all`, `/select 5`,
`/knob/0 3`, `/param/5/speed 2.5` and `/code/5 text`. A message whose numbers cannot be read is
passed over.
-/
namespace PatternDeck.Osc

/-- What a message asks for. -/
inductive Route where
  | toggle
  | start
  | stop
  | stopAll
  | select
  | knob
  | parameter
  | code
  deriving DecidableEq, Repr

def routes : List (String × Route) :=
  [("/toggle/*", .toggle), ("/start/*", .start), ("/stop/*", .stop), ("/stop_all", .stopAll),
   ("/select", .select), ("/knob/*", .knob), ("/param/*/*", .parameter), ("/code/*", .code)]

/-- The routes whose patterns lead to an address. -/
def routesOf (address : String) : List Route :=
  (routes.filter fun (pattern, _) => leadsTo pattern.toList address.toList).map (·.2)

/-- The slot or knob that an address names. -/
def numberIn (address : String) : Option Int :=
  (Literal.int (segment address 2)).toOption

/-- What is asked for by a message that is passed over with a note of its arguments: nothing, but the
note is not written if one of them cannot be. -/
def noted (arguments : List Argument) : Except Failure (Option Operation) :=
  if arguments.all (·.isWritable) then .ok none else .error .tooManyDigits

/-- What is asked for with a number, or else if there is none. Numbers too large to read are a
failure. -/
def withNumber {α : Type} (number : Except Unreadable α)
    (otherwise : Except Failure (Option Operation))
    (asked : α → Except Failure (Option Operation)) : Except Failure (Option Operation) :=
  match number with
  | .ok a => asked a
  | .error .tooLarge => .error .tooLarge
  | .error _ => otherwise

/-- What is asked for with the number in the address and one more. -/
def withNumbers {α : Type} (address : String) (number : Except Unreadable α)
    (arguments : List Argument) (asked : Int → α → Operation) : Except Failure (Option Operation) :=
  match numberIn address with
  | none => noted arguments
  | some n => withNumber number (noted arguments) fun a => .ok (some (asked n a))

/-- A slot is selected by its number, and none by a number below zero. That there is no slot of a
number is said with the number, which is not possible for one of too many digits. -/
def selection (id : Int) : Except Failure (Option Operation) :=
  if id < 0 then .ok (some (.select none))
  else if Literal.isTooLong id then .error .tooManyDigits
  else .ok (some (.select (some id)))

/-- The operation that a message asks for, if its numbers can be read. -/
def Route.operation? (route : Route) (address : String) (arguments : List Argument) :
    Except Failure (Option Operation) :=
  match route, arguments with
  | .toggle, _ => .ok ((numberIn address).map .toggle)
  | .start, _ => .ok ((numberIn address).map .start)
  | .stop, _ => .ok ((numberIn address).map .stop)
  | .stopAll, _ => .ok (some .stopAll)
  | _, [] => .ok none
  | .select, argument :: _ => withNumber argument.toInt (.ok none) selection
  | .knob, argument :: _ => withNumbers address argument.toInt arguments .turnKnob
  | .parameter, argument :: _ =>
    withNumbers address argument.toFloat arguments fun id value =>
      .setParameterValue id (String.ofList (segment address 3)) value
  | .code, argument :: _ =>
    match numberIn address with
    | none => .ok none
    | some id =>
      if argument.isWritable then .ok (some (.updateLiveCode id argument.shown))
      else .error .tooManyDigits

variable {Handle Listener World : Type} (around : Surroundings Handle Listener World)

/-- Does what a message asks for. Failures of the deck's own have been told by then; stopping all
has none, and is not guarded against any. -/
def follow (route : Route) (address : String) (arguments : List Argument) :
    Act Handle Listener World Unit :=
  match route.operation? address arguments with
  | .error failure => throw failure
  | .ok none => return
  | .ok (some .stopAll) => Stage.stopAll around
  | .ok (some operation) => Act.dropOwn (operation.act around)

/-- Follows every route of a message, and tells how many there were. -/
def dispatch (address : String) (arguments : List Argument) : Act Handle Listener World Nat := do
  let found := routesOf address
  for route in found do
    follow around route address arguments
  return found.length

/-- Tells whether a slot plays. -/
def playingMessage (slot : Int) (playing : Bool) : Message :=
  ⟨"/slot/" ++ intText slot ++ "/playing", .many [.int (if playing then 1 else 0)]⟩

/-- Tells of a failure. -/
def errorMessage (failure : Failure) : Message :=
  ⟨"/error", .many [.text failure.message]⟩

end PatternDeck.Osc
