import Mathlib.Data.Option.Basic
import PatternDeck.Proofs.Stage.Blocks
import PatternDeck.Proofs.Stage.Journal

/-!
Two runs side by side. The renderer answers both alike where it compiles and starts; the other calls
may fail in the one and work in the other. Two actions are in step when they come to the same outcome
and the same deck, by the same calls. The parts of operations are in step with themselves, and so is
what is made of parts that are.
-/
namespace PatternDeck

section Answer

variable {Handle : Type}

/-- What the renderer answered when it was to compile or to start. -/
def Entry.answer? : Entry Handle → Option (Except Fault (Option Handle))
  | compiled _ outcome => some (outcome.map some)
  | started _ outcome => some (outcome.map fun _ => none)
  | _ => none

/-- The entry without the outcome of a call that may fail unnoticed. -/
def Entry.attempt : Entry Handle → Entry Handle
  | stopped handle _ => stopped handle (.ok ())
  | hushed _ => hushed (.ok ())
  | saved slot _ => saved slot (.ok ())
  | entry => entry

@[simp] theorem Entry.answer?_attempt (entry : Entry Handle) : entry.attempt.answer? = entry.answer? := by
  cases entry <;> rfl

/-- The renderer's answers, in order. -/
def answers (journal : List (Entry Handle)) : List (Except Fault (Option Handle)) :=
  journal.filterMap Entry.answer?

/-- As far as the renderer was asked in both runs, it answered both alike. -/
def Agree (journal journal' : List (Entry Handle)) : Prop :=
  ∀ (n : Nat) answer answer', (answers journal)[n]? = some answer →
    (answers journal')[n]? = some answer' → answer = answer'

variable {journal journal' later later' : List (Entry Handle)}

theorem Agree.of_prefix (agree : Agree later later') (grown : journal <+: later)
    (grown' : journal' <+: later') : Agree journal journal' := by
  have still : ∀ {early late : List (Entry Handle)} {n : Nat} {answer}, early <+: late →
      (answers early)[n]? = some answer → (answers late)[n]? = some answer := by
    rintro early late n answer ⟨more, rfl⟩ given
    have bound := (List.getElem?_eq_some_iff.1 given).1
    rw [answers, List.filterMap_append, ← answers, List.getElem?_append_left bound, given]
  exact fun n answer answer' given given' =>
    agree n answer answer' (still grown given) (still grown' given')

theorem Agree.of_answers (same : answers journal = answers journal') : Agree journal journal' := by
  intro n answer answer' given given'
  rw [same, given'] at given
  exact (Option.some.inj given).symm

theorem answers_of_attempts (same : journal.map Entry.attempt = journal'.map Entry.attempt) :
    answers journal = answers journal' := by
  have erased : ∀ journal : List (Entry Handle),
      answers (journal.map Entry.attempt) = answers journal := by
    intro journal
    rw [answers, List.filterMap_map]
    exact List.filterMap_congr fun entry _ => entry.answer?_attempt
  rw [← erased journal, same, erased]

/-- The last answers of two runs that were alike until then. -/
theorem Agree.last {entry entry' : Entry Handle} {answer answer' : Except Fault (Option Handle)}
    (agree : Agree (journal ++ [entry]) (journal' ++ [entry']))
    (same : journal.map Entry.attempt = journal'.map Entry.attempt)
    (answered : entry.answer? = some answer) (answered' : entry'.answer? = some answer') :
    answer = answer' := by
  have before := answers_of_attempts same
  have given : ∀ {journal : List (Entry Handle)} {entry answer}, entry.answer? = some answer →
      answers (journal ++ [entry]) = answers journal ++ [answer] := by
    intro journal entry answer answered
    simp [answers, answered]
  apply agree (answers journal).length
  · rw [given answered, List.getElem?_concat_length]
  · rw [given answered', before, List.getElem?_concat_length]

end Answer

section Alike

variable {Handle Listener World World' : Type}

/-- Surroundings that may differ in which calls fail. In worlds that are alike the clock shows the
same, and every call leaves them alike, whatever comes of it. -/
structure Surroundings.Alike (first : Surroundings Handle Listener World)
    (second : Surroundings Handle Listener World') (alike : World → World' → Prop) : Prop where
  clock : ∀ {world world'}, alike world world' → first.clock world = second.clock world'
  stack : first.stack = second.stack
  compile : ∀ program {world world'}, alike world world' →
    alike (first.compile program world).2 (second.compile program world').2
  start : ∀ handle {world world'}, alike world world' →
    alike (first.start handle world).2 (second.start handle world').2
  stop : ∀ handle {world world'}, alike world world' →
    alike (first.stop handle world).2 (second.stop handle world').2
  hush : ∀ {world world'}, alike world world' → alike (first.hush world).2 (second.hush world').2
  save : Option.Rel (fun save save' => ∀ slot {world world'}, alike world world' →
    alike (save slot world).2 (save' slot world').2) first.save second.save
  hear : ∀ listener event deck {world world'}, alike world world' →
    alike (first.hear listener event deck world).2 (second.hear listener event deck world').2

end Alike

namespace Stage

open Act

variable {Handle Listener World World' : Type}
variable {first : Surroundings Handle Listener World}
variable {second : Surroundings Handle Listener World'} {alike : World → World' → Prop}

/-- The same deck in worlds that are alike, after the same calls. -/
structure Matches (alike : World → World' → Prop) (stage : Stage Handle Listener World)
    (stage' : Stage Handle Listener World') : Prop where
  deck : stage.deck = stage'.deck
  world : alike stage.world stage'.world
  attempts : stage.journal.map Entry.attempt = stage'.journal.map Entry.attempt

/-- What an action writes down comes after what was there. -/
def Grows {α : Type} (action : Act Handle Listener World α) : Prop :=
  ∀ base, Preserves (fun stage => base <+: stage.journal) action

/-- Two actions that come to the same, as long as the renderer's answers agree. -/
structure InStep (alike : World → World' → Prop) {α : Type} (action : Act Handle Listener World α)
    (action' : Act Handle Listener World' α) : Prop where
  grows : Grows action
  grows' : Grows action'
  same : ∀ {stage stage'}, Matches alike stage stage' →
    Agree (perform action stage).2.journal (perform action' stage').2.journal →
    (perform action stage).1 = (perform action' stage').1 ∧
      Matches alike (perform action stage).2 (perform action' stage').2

section Grows

variable {α β : Type} {action : Act Handle Listener World α}

theorem Grows.grown (grows : Grows action) (stage : Stage Handle Listener World) :
    stage.journal <+: (perform action stage).2.journal :=
  grows stage.journal stage (List.prefix_refl _)

theorem Grows.of_append
    (appends : ∀ stage, ∃ entries, (perform action stage).2.journal = stage.journal ++ entries) :
    Grows action := by
  intro base stage grown
  obtain ⟨entries, appended⟩ := appends stage
  exact appended ▸ grown.trans (List.prefix_append _ _)

theorem grown_bind {next : α → Act Handle Listener World β} (grows : ∀ a, Grows (next a))
    (stage : Stage Handle Listener World) :
    (perform action stage).2.journal <+: (perform (action >>= next) stage).2.journal := by
  rw [perform_bind]
  rcases perform action stage with ⟨failure | a, after⟩
  · exact List.prefix_refl _
  · exact (grows a).grown after

theorem grown_tryCatch {answer : Failure → Act Handle Listener World α}
    (grows : ∀ failure, Grows (answer failure)) (stage : Stage Handle Listener World) :
    (perform action stage).2.journal <+: (perform (tryCatch action answer) stage).2.journal := by
  rw [perform_tryCatch]
  rcases perform action stage with ⟨failure | a, after⟩
  · exact (grows failure).grown after
  · exact List.prefix_refl _

end Grows

namespace InStep

section Structure

variable {α β : Type} {action other : Act Handle Listener World α}
variable {action' other' : Act Handle Listener World' α}

theorem pure (a : α) : InStep alike (Pure.pure a : Act Handle Listener World α)
    (Pure.pure a : Act Handle Listener World' α) :=
  ⟨fun _ => .pure a, fun _ => .pure a, fun matched _ => ⟨rfl, matched⟩⟩

theorem throw (failure : Failure) :
    InStep alike (MonadExcept.throw failure : Act Handle Listener World α)
      (MonadExcept.throw failure : Act Handle Listener World' α) :=
  ⟨fun _ => .throw failure, fun _ => .throw failure, fun matched _ => ⟨rfl, matched⟩⟩

theorem bind {next : α → Act Handle Listener World β} {next' : α → Act Handle Listener World' β}
    (begins : InStep alike action action') (rest : ∀ a, InStep alike (next a) (next' a)) :
    InStep alike (action >>= next) (action' >>= next') where
  grows base := (begins.grows base).bind fun a => (rest a).grows base
  grows' base := (begins.grows' base).bind fun a => (rest a).grows' base
  same {stage stage'} matched agree := by
    -- the answers agree in the first part, since they do in the whole
    obtain ⟨outcome, middle⟩ := begins.same matched (agree.of_prefix
      (grown_bind (fun a => (rest a).grows) stage) (grown_bind (fun a => (rest a).grows') stage'))
    rw [perform_bind, perform_bind] at agree ⊢
    generalize perform action stage = came, perform action' stage' = came' at *
    obtain ⟨came, after⟩ := came
    obtain ⟨came', after'⟩ := came'
    obtain rfl : came = came' := outcome
    cases came with
    | error failure => exact ⟨rfl, middle⟩
    | ok a => exact (rest a).same middle agree

theorem tryCatch {answer : Failure → Act Handle Listener World α}
    {answer' : Failure → Act Handle Listener World' α} (begins : InStep alike action action')
    (rest : ∀ failure, InStep alike (answer failure) (answer' failure)) :
    InStep alike (MonadExcept.tryCatch action answer) (MonadExcept.tryCatch action' answer') where
  grows base := (begins.grows base).tryCatch fun failure => (rest failure).grows base
  grows' base := (begins.grows' base).tryCatch fun failure => (rest failure).grows' base
  same {stage stage'} matched agree := by
    obtain ⟨outcome, middle⟩ := begins.same matched (agree.of_prefix
      (grown_tryCatch (fun failure => (rest failure).grows) stage)
      (grown_tryCatch (fun failure => (rest failure).grows') stage'))
    rw [perform_tryCatch, perform_tryCatch] at agree ⊢
    generalize perform action stage = came, perform action' stage' = came' at *
    obtain ⟨came, after⟩ := came
    obtain ⟨came', after'⟩ := came'
    obtain rfl : came = came' := outcome
    cases came with
    | error failure => exact (rest failure).same middle agree
    | ok a => exact ⟨rfl, middle⟩

theorem ite {c : Prop} [Decidable c] (yes : InStep alike action action')
    (no : InStep alike other other') :
    InStep alike (if c then action else other) (if c then action' else other') := by
  split
  · exact yes
  · exact no

theorem getDeck : InStep alike (Act.getDeck : Act Handle Listener World _)
    (Act.getDeck : Act Handle Listener World' _) where
  grows := fun _ _ grown => grown
  grows' := fun _ _ grown => grown
  same matched _ := ⟨congrArg Except.ok matched.deck, matched⟩

theorem changeDeck (change : Deck Handle Listener → Deck Handle Listener) :
    InStep alike (Act.changeDeck change : Act Handle Listener World _)
      (Act.changeDeck change : Act Handle Listener World' _) where
  grows := fun _ _ grown => grown
  grows' := fun _ _ grown => grown
  same matched _ := ⟨rfl, congrArg change matched.deck, matched.world, matched.attempts⟩

theorem changeSlot (id : Int) (f : Slot → Slot) :
    InStep alike (Act.changeSlot id f : Act Handle Listener World _)
      (Act.changeSlot id f : Act Handle Listener World' _) :=
  changeDeck _

theorem edit (change : Edit α) : InStep alike (Act.edit change : Act Handle Listener World α)
    (Act.edit change : Act Handle Listener World' α) where
  grows := .of_append fun stage => by
    rw [perform_edit]
    exact ⟨_, rfl⟩
  grows' := .of_append fun stage => by
    rw [perform_edit]
    exact ⟨_, rfl⟩
  same {stage stage'} matched _ := by
    simp only [perform_edit, edited]
    obtain ⟨deck, world, attempts⟩ := matched
    rw [deck]
    exact ⟨rfl, rfl, world, by rw [List.map_append, attempts, List.map_append]⟩

theorem note (entry : Entry Handle) : InStep alike (Act.note entry : Act Handle Listener World _)
    (Act.note entry : Act Handle Listener World' _) where
  grows := .of_append fun _ => ⟨[entry], rfl⟩
  grows' := .of_append fun _ => ⟨[entry], rfl⟩
  same {stage stage'} matched _ := by
    refine ⟨rfl, matched.deck, matched.world, ?_⟩
    change (stage.journal ++ [entry]).map Entry.attempt = (stage'.journal ++ [entry]).map Entry.attempt
    rw [List.map_append, matched.attempts, List.map_append]

theorem orElseOwn {answer : Failure → Act Handle Listener World Unit}
    {answer' : Failure → Act Handle Listener World' Unit} (begins : InStep alike action action')
    (answers : ∀ failure, InStep alike (answer failure) (answer' failure)) :
    InStep alike (Act.orElseOwn action answer) (Act.orElseOwn action' answer') := by
  refine begins.tryCatch fun failure => ?_
  exact .ite ((answers failure).bind fun _ => .throw _) (.throw _)

theorem andFinally {closing : Act Handle Listener World Unit}
    {closing' : Act Handle Listener World' Unit} (begins : InStep alike action action')
    (closes : InStep alike closing closing') :
    InStep alike (Stage.andFinally action closing) (Stage.andFinally action' closing') := by
  refine .bind (begins.tryCatch fun failure => ?_) fun _ => ?_
  · exact .bind closes fun _ => .throw _
  · exact .bind closes fun _ => .pure _

end Structure

section Calls

variable {α β : Type} {call : World → Except Fault α × World}
variable {call' : World' → Except Fault α × World'} {entry : Except Fault α → Entry Handle}

theorem grows_ask : Grows (ask call entry : Act Handle Listener World _) :=
  .of_append fun _ => ⟨_, rfl⟩

/-- A call whose outcome the deck hangs on: it is one of the renderer's answers. -/
theorem ask {read : Except Fault α → Except Fault (Option Handle)}
    (answers : ∀ outcome, (entry outcome).answer? = some (read outcome))
    (faithful : Function.Injective read)
    (leaves : ∀ {world world'}, alike world world' → alike (call world).2 (call' world').2) :
    InStep alike (Act.ask call entry : Act Handle Listener World _)
      (Act.ask call' entry : Act Handle Listener World' _) where
  grows := grows_ask
  grows' := grows_ask
  same {stage stage'} matched agree := by
    rw [perform_ask, perform_ask] at agree ⊢
    have outcome : (call stage.world).1 = (call' stage'.world).1 :=
      faithful (agree.last matched.attempts (answers _) (answers _))
    refine ⟨congrArg Except.ok outcome, matched.deck, leaves matched.world, ?_⟩
    rw [List.map_append, matched.attempts, outcome, List.map_append]

/-- A call that may fail in one run and work in the other, since its outcome is passed over. -/
theorem attempt {next : Act Handle Listener World β} {next' : Act Handle Listener World' β}
    (erased : ∀ outcome outcome', (entry outcome).attempt = (entry outcome').attempt)
    (leaves : ∀ {world world'}, alike world world' → alike (call world).2 (call' world').2)
    (rest : InStep alike next next') :
    InStep alike (do let _ ← Act.ask call entry; next) (do let _ ← Act.ask call' entry; next') where
  grows base := (grows_ask base).bind fun _ => rest.grows base
  grows' base := (grows_ask base).bind fun _ => rest.grows' base
  same {stage stage'} matched agree := by
    simp only [perform_bind, perform_ask] at agree ⊢
    refine rest.same ⟨matched.deck, leaves matched.world, ?_⟩ agree
    rw [List.map_append, matched.attempts, List.map_singleton, erased, List.map_append,
      List.map_singleton]

/-- What follows once the deck and the clock were read. -/
theorem timed (pair : first.Alike second alike)
    {next : Deck Handle Listener → Float → Act Handle Listener World β}
    {next' : Deck Handle Listener → Float → Act Handle Listener World' β}
    (rest : ∀ deck now, InStep alike (next deck now) (next' deck now)) :
    InStep alike (do let stage ← get; next stage.deck (first.clock stage.world))
      (do let stage ← get; next' stage.deck (second.clock stage.world)) where
  grows base := Preserves.get.bind fun stage => (rest _ _).grows base
  grows' base := Preserves.get.bind fun stage => (rest _ _).grows' base
  same {stage stage'} matched agree := by
    simp only [perform_bind, perform_get] at agree ⊢
    rw [← matched.deck, ← pair.clock matched.world] at agree ⊢
    exact (rest _ _).same matched agree

end Calls

end InStep

end Stage

namespace Surroundings.Alike

open Act Stage

variable {Handle Listener World World' : Type}
variable {first : Surroundings Handle Listener World}
variable {second : Surroundings Handle Listener World'} {alike : World → World' → Prop}
variable (pair : first.Alike second alike)
include pair

theorem inStep_announce (event : Event) :
    InStep alike (announce first event) (announce second event) where
  grows := .of_append fun stage => ⟨_, journal_told first stage event⟩
  grows' := .of_append fun stage => ⟨_, journal_told second stage event⟩
  same {stage stage'} matched _ := by
    obtain ⟨deck, world, attempts⟩ := matched
    refine ⟨rfl, deck, ?_, ?_⟩
    · -- the listeners hear the event one after another
      have told : ∀ (listeners : List Listener) {world world'}, alike world world' →
          alike
            (listeners.foldl (fun w listener => (first.hear listener event stage.deck w).2) world)
            (listeners.foldl (fun w listener => (second.hear listener event stage.deck w).2)
              world') := by
        intro listeners
        induction listeners with
        | nil => exact fun related => related
        | cons listener rest ih => exact fun related => ih (pair.hear listener event _ related)
      have all := told (stage.deck.listeners.of event.topic) world
      rw [perform_announce, perform_announce]
      change alike _ ((stage'.deck.listeners.of event.topic).foldl
        (fun w listener => (second.hear listener event stage'.deck w).2) stage'.world)
      rwa [← deck]
    · rw [perform_announce, perform_announce, journal_told, journal_told, List.map_append, attempts,
        List.map_append]

theorem inStep_report (id : Option Int) (failure : Failure) :
    InStep alike (report first id failure) (report second id failure) :=
  pair.inStep_announce _

theorem inStep_touch (id : Int) : InStep alike (touch first id) (touch second id) := by
  have stamps : ∀ (_ : Deck Handle Listener) (now : Float), InStep alike
      (do changeSlot id fun slot => { slot with modified := .at now }; note (.touched id) :
        Act Handle Listener World Unit)
      (do changeSlot id fun slot => { slot with modified := .at now }; note (.touched id)) :=
    fun _ now => .bind (.changeSlot id _) fun _ => .note _
  have timed := InStep.timed pair stamps
  exact timed

theorem inStep_announceState (id : Int) :
    InStep alike (announceState first id) (announceState second id) := by
  refine .bind .getDeck fun deck => ?_
  cases deck.bank.find? id with
  | some slot => exact pair.inStep_announce _
  | none => exact .pure _

theorem inStep_announcePlaying (id : Int) :
    InStep alike (announcePlaying first id) (announcePlaying second id) := by
  refine .bind (pair.inStep_announceState id) fun _ => ?_
  exact .bind .getDeck fun deck => pair.inStep_announce _

theorem inStep_persist (id : Int) : InStep alike (persist first id) (persist second id) := by
  have saves := pair.save
  unfold persist
  refine .bind .getDeck fun deck => ?_
  generalize first.save = save, second.save = save' at saves
  cases saves with
  | none => exact .pure _
  | some leaves =>
    cases deck.bank.find? id with
    | none => exact .pure _
    | some slot => exact .attempt (fun _ _ => rfl) (leaves slot) (.pure _)

theorem inStep_slot (id : Int) : InStep alike (Act.slot first id) (Act.slot second id) := by
  refine .bind .getDeck fun deck => ?_
  cases deck.bank.get id with
  | ok slot => exact .pure _
  | error failure => exact .bind (pair.inStep_report _ _) fun _ => .throw _

theorem inStep_compiled (program : String) :
    InStep alike (ask (first.compile program) (.compiled program) : Act Handle Listener World _)
      (ask (second.compile program) (.compiled program) : Act Handle Listener World' _) := by
  refine .ask (fun _ => rfl) (fun outcome outcome' same => ?_) (pair.compile program)
  cases outcome <;> cases outcome' <;> cases same <;> rfl

theorem inStep_started (handle : Handle) :
    InStep alike (ask (first.start handle) (.started handle) : Act Handle Listener World _)
      (ask (second.start handle) (.started handle) : Act Handle Listener World' _) := by
  refine .ask (fun _ => rfl) (fun outcome outcome' same => ?_) (pair.start handle)
  cases outcome <;> cases outcome' <;> cases same <;> rfl

theorem inStep_stopCurrent : InStep alike (stopCurrent first) (stopCurrent second) := by
  refine .bind .getDeck fun deck => ?_
  cases deck.running with
  | none => exact .pure _
  | some running =>
    refine .bind (.changeDeck _) fun _ => ?_
    exact .attempt (fun _ _ => rfl) (pair.stop running.handle) (.pure _)

end Surroundings.Alike

end PatternDeck
