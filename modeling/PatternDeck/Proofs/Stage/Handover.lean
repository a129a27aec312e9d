import PatternDeck.Proofs.Stage.Rebuild
import PatternDeck.Proofs.Stage.Steady

/-!
The renderer has one composite at a time. The handle that a deck keeps is the one of the last start
that worked, and the deck lets go of it before it asks for the stop; so a start meets nothing that
plays, and a stop is for what plays and comes once.
-/
namespace PatternDeck

section Journal

variable {Handle : Type} {journal : List (Entry Handle)} {handle : Handle}

/-- A program is compiled right before it is started: in between at most the one before is stopped. -/
def Prepared (earlier : List (Entry Handle)) : Entry Handle → Prop
  | .started handle _ => ∃ first program stops,
      earlier = first ++ .compiled program (.ok handle) :: stops ∧ ∀ entry ∈ stops, entry.isStop
  | _ => True

/-- Every program that was started has been stopped since. -/
def Silenced (journal : List (Entry Handle)) : Prop :=
  ∀ first handle rest, journal = first ++ .started handle (.ok ()) :: rest →
    ∃ outcome, .stopped handle outcome ∈ rest

/-- The latest start is that of a handle, it worked, and nothing has been stopped since. -/
def Sounds (handle : Handle) (journal : List (Entry Handle)) : Prop :=
  ∃ first rest, journal = first ++ .started handle (.ok ()) :: rest ∧
    ∀ entry ∈ rest, entry.isSwitch = false

/-- Nothing is started over another program, and only what plays is stopped. -/
def InTurn (earlier : List (Entry Handle)) : Entry Handle → Prop
  | .started .. => Silenced earlier
  | .stopped handle _ => Sounds handle earlier
  | _ => True

def Playing (journal : List (Entry Handle)) : Option Handle → Prop
  | none => Silenced journal
  | some handle => Sounds handle journal

theorem Prepared.append {entry : Entry Handle} (base : List (Entry Handle))
    (prepared : Prepared journal entry) : Prepared (base ++ journal) entry := by
  cases entry with
  | started handle outcome =>
    obtain ⟨first, program, stops, split, stopped⟩ := prepared
    exact ⟨base ++ first, program, stops, by simp [split], stopped⟩
  | _ => trivial

theorem silenced_nil : Silenced ([] : List (Entry Handle)) := by
  intro first handle rest split
  simp at split

theorem Silenced.concat {entry : Entry Handle} (silenced : Silenced journal)
    (idle : ∀ handle, entry ≠ .started handle (.ok ())) : Silenced (journal ++ [entry]) := by
  intro first handle rest split
  rcases split_of_concat split with ⟨-, rfl, -⟩ | ⟨middle, inner, rfl⟩
  · exact absurd rfl (idle handle)
  · obtain ⟨outcome, there⟩ := silenced first handle middle inner
    exact ⟨outcome, List.mem_append_left _ there⟩

theorem Playing.concat {playing : Option Handle} {entry : Entry Handle}
    (plays : Playing journal playing) (idle : entry.isSwitch = false) :
    Playing (journal ++ [entry]) playing := by
  cases playing with
  | none =>
    refine Silenced.concat plays fun handle same => ?_
    cases same
    cases idle
  | some handle =>
    obtain ⟨first, rest, split, quiet⟩ := plays
    refine ⟨first, rest ++ [entry], by simp [split], ?_⟩
    intro other there
    rcases List.mem_append.1 there with there | there
    · exact quiet other there
    · rw [List.mem_singleton.1 there]
      exact idle

theorem sounds_of_started (journal : List (Entry Handle)) (handle : Handle) :
    Sounds handle (journal ++ [.started handle (.ok ())]) :=
  ⟨journal, [], rfl, by simp⟩

/-- What was started before the program that plays had been stopped by then. -/
theorem silenced_of_stopped (inTurn : Throughout InTurn journal) (sounds : Sounds handle journal)
    (outcome : Except Fault Unit) : Silenced (journal ++ [.stopped handle outcome]) := by
  obtain ⟨first, rest, split, quiet⟩ := sounds
  have before : Silenced first := inTurn first _ rest split
  intro first' handle' rest' split'
  rcases split_of_concat split' with ⟨-, ⟨⟩, -⟩ | ⟨rest', same, rfl⟩
  rw [split] at same
  -- the start in question is the last one, or stands before it, or comes later
  rcases split_trichotomy same with ⟨-, ⟨⟩, -⟩ | ⟨middle, earlier, later⟩ | ⟨middle, earlier, later⟩
  · exact ⟨outcome, by simp⟩
  · obtain ⟨outcome', there⟩ := before first' handle' middle earlier
    refine ⟨outcome', List.mem_append_left _ ?_⟩
    rw [later]
    exact List.mem_append_left _ there
  · have started := quiet (.started handle' (.ok ())) (by simp [later])
    cases started

/-- A handle whose start failed is not stopped unless another start of it worked since. -/
theorem started_since_failure {fault : Fault} {outcome : Except Fault Unit}
    {earlier middle later : List (Entry Handle)} (inTurn : Throughout InTurn journal)
    (split : journal = (earlier ++ .started handle (.error fault) :: middle) ++
      .stopped handle outcome :: later) : .started handle (.ok ()) ∈ middle := by
  obtain ⟨first, rest, sounds, quiet⟩ := inTurn _ _ later split
  rcases split_trichotomy sounds with ⟨-, ⟨⟩, -⟩ | ⟨between, -, later⟩ | ⟨between, -, later⟩
  · -- the failed start would come after the one that sounds
    cases quiet (.started handle (.error fault)) (by simp [later])
  · simp [later]

/-- If no handle is given out twice, one whose start failed is never stopped. -/
theorem notMem_stopped_of_failed {fault : Fault} (prepared : Throughout Prepared journal)
    (inTurn : Throughout InTurn journal) (once : (journal.filterMap Entry.issued?).Nodup)
    (failed : .started handle (.error fault) ∈ journal) (outcome : Except Fault Unit) :
    .stopped handle outcome ∉ journal := by
  intro stopped
  obtain ⟨earlier, later, stop⟩ := List.append_of_mem stopped
  obtain ⟨first, rest, sounds, -⟩ := inTurn earlier _ later stop
  have worked : journal =
      first ++ .started handle (.ok ()) :: (rest ++ .stopped handle outcome :: later) := by
    simp [stop, sounds]
  obtain ⟨first', rest', failure⟩ := List.append_of_mem failed
  -- both starts come right after a compile that gave out the handle, and there is one only
  obtain ⟨start, program, stops, split, stopping⟩ := prepared first _ _ worked
  obtain ⟨start', program', stops', split', stopping'⟩ := prepared first' _ _ failure
  rw [split, List.append_assoc, List.cons_append] at worked
  rw [split', List.append_assoc, List.cons_append] at failure
  obtain ⟨-, -, same⟩ := split_of_nodup once worked failure rfl rfl
  rcases split_trichotomy same with ⟨-, ⟨⟩, -⟩ | ⟨middle, inner, -⟩ | ⟨middle, inner, -⟩
  · cases stopping (.started handle (.error fault)) (by simp [inner])
  · cases stopping' (.started handle (.ok ())) (by simp [inner])

end Journal

namespace Stage

open Act

variable {Handle Listener World : Type} {around : Surroundings Handle Listener World}
variable {base : List (Entry Handle)} {stage : Stage Handle Listener World}

/-- The calls so far are in order, and the deck keeps the handle of what plays. What came after the
base are the calls of one operation, in which every start has its own compile. -/
structure Conducted (base : List (Entry Handle)) (stage : Stage Handle Listener World) : Prop where
  prepared : ∃ entries, stage.journal = base ++ entries ∧ Throughout Prepared entries
  inTurn : Throughout InTurn stage.journal
  playing : Playing stage.journal (stage.deck.running.map (·.handle))

theorem Conducted.noted {entry : Entry Handle} (conducted : Conducted base stage)
    (idle : entry.isSwitch = false) (world : World) :
    Conducted base ⟨stage.deck, world, stage.journal ++ [entry]⟩ := by
  obtain ⟨⟨entries, grown, prepared⟩, inTurn, playing⟩ := conducted
  have free : ∀ earlier, Prepared earlier entry ∧ InTurn earlier entry := by
    intro earlier
    cases entry with
    | started | stopped => cases idle
    | _ => exact ⟨trivial, trivial⟩
  refine ⟨⟨entries ++ [entry], ?_, prepared.concat (free entries).1⟩, ?_, playing.concat idle⟩
  · rw [grown, List.append_assoc]
  · exact inTurn.concat (free stage.journal).2

theorem Conducted.halted {stops : List (Entry Handle)} (conducted : Conducted base stage)
    (halts : Halts stage.deck.running stops) (world : World) :
    Conducted base ⟨{ stage.deck with running := none }, world, stage.journal ++ stops⟩ := by
  obtain ⟨⟨entries, grown, prepared⟩, inTurn, playing⟩ := conducted
  generalize kept : stage.deck.running = running at halts playing
  cases halts with
  | none =>
    rw [List.append_nil]
    exact ⟨⟨entries, grown, prepared⟩, inTurn, playing⟩
  | some running outcome =>
    have stop : Prepared entries (.stopped running.handle outcome) := trivial
    refine ⟨⟨entries ++ [.stopped running.handle outcome], ?_, prepared.concat stop⟩, ?_, ?_⟩
    · rw [grown, List.append_assoc]
    · exact inTurn.concat playing
    · exact silenced_of_stopped inTurn playing outcome

theorem Conducted.started {program : String} {handle : Handle} {stops : List (Entry Handle)}
    {deck : Deck Handle Listener} (conducted : Conducted base stage)
    (halts : Halts stage.deck.running stops) (outcome : Except Fault Unit)
    (running : deck.running.map (·.handle) = outcome.toOption.map fun _ => handle)
    (world : World) :
    Conducted base ⟨deck, world,
      stage.journal ++ [.compiled program (.ok handle)] ++ stops ++ [.started handle outcome]⟩ := by
  -- the compile switches nothing, and the stop leaves nothing that plays
  have accepted : (Entry.compiled program (.ok handle)).isSwitch = false := rfl
  have compiled := conducted.noted accepted world
  obtain ⟨-, inTurn, silent⟩ := compiled.halted halts world
  obtain ⟨entries, grown, prepared⟩ := conducted.prepared
  refine ⟨⟨entries ++ .compiled program (.ok handle) :: stops ++ [.started handle outcome],
    by simp [grown], ?_⟩, inTurn.concat silent, ?_⟩
  · have stopped : Throughout Prepared (entries ++ .compiled program (.ok handle) :: stops) := by
      -- what is written before the start needs no compile of its own
      apply prepared.append
      intro entry there earlier
      rcases List.mem_cons.1 there with rfl | there
      · trivial
      · have stop := halts.isStop entry there
        cases entry <;> simp_all [Entry.isStop, Prepared]
    exact stopped.concat ⟨entries, program, stops, rfl, halts.isStop⟩
  · rw [running]
    cases outcome with
    | ok => exact sounds_of_started _ handle
    | error fault => exact Silenced.concat silent (by simp)

theorem Conducted.of_deck {deck : Deck Handle Listener}
    (same : deck.running = stage.deck.running) (conducted : Conducted base stage) :
    Conducted base { stage with deck } :=
  ⟨conducted.prepared, conducted.inTurn, same ▸ conducted.playing⟩

theorem Conducted.touched (id : Int) (stage : Stage Handle Listener World)
    (conducted : Conducted base stage) :
    Conducted base { stage with journal := stage.journal ++ [.touched id] } :=
  conducted.noted rfl stage.world

theorem conducted_ask {α : Type} {call : World → Except Fault α × World}
    {entry : Except Fault α → Entry Handle} (idle : ∀ outcome, (entry outcome).isSwitch = false) :
    Preserves (Conducted base) (ask call entry : Act Handle Listener World _) :=
  fun _ conducted => conducted.noted (idle _) _

theorem conducted_announce (event : Event) :
    Preserves (Conducted base) (announce around event) := by
  intro stage conducted
  have told : (Entry.announced event : Entry Handle).isSwitch = false := rfl
  exact conducted.noted told (stage.told around event).world

theorem conducted_stopCurrent : Preserves (Conducted base) (stopCurrent around) := by
  intro stage conducted
  obtain ⟨world, stops, halts, performed⟩ := perform_stopCurrent around stage
  rw [performed]
  exact conducted.halted halts world

theorem conducted_rebuild : Preserves (Conducted base) (rebuild around) := by
  refine .bind preserves_getDeck fun deck => ?_
  refine .ite (.bind conducted_stopCurrent fun _ => conducted_announce _) ?_
  refine .bind (preserves_resolveAll (fun same _ => .of_deck same) .touched deck.active) fun programs => ?_
  intro stage conducted
  rcases compiled : around.compile (composite around programs) stage.world with ⟨fault | handle, world⟩
  · have refused : (Entry.compiled (composite around programs) (.error fault) :
        Entry Handle).isSwitch = false := rfl
    simp only [perform_bind, perform_ask, compiled, perform_throw]
    exact conducted.noted refused world
  · obtain ⟨quiet, stops, halts, halted⟩ := perform_stopCurrent around
      ⟨stage.deck, world, stage.journal ++ [.compiled (composite around programs) (.ok handle)]⟩
    rcases started : around.start handle quiet with ⟨outcome, later⟩
    cases outcome with
    | error fault =>
      simp only [perform_bind, perform_ask, compiled, halted, started, perform_throw]
      exact conducted.started halts (.error fault) rfl later
    | ok =>
      simp only [perform_bind, perform_ask, compiled, halted, started, perform_changeDeck]
      apply conducted_announce
      exact conducted.started halts (.ok ()) rfl later

theorem steady_conducted : Steady around (Conducted base) where
  deck same _ := .of_deck same
  touched := .touched
  announce := conducted_announce
  save _ _ := conducted_ask fun _ => rfl
  compile _ := conducted_ask fun _ => rfl
  stopCurrent := conducted_stopCurrent
  hush := conducted_ask fun _ => rfl
  rebuild := conducted_rebuild

/-- The calls of all operations so far are in order. -/
structure Ordered (stage : Stage Handle Listener World) : Prop where
  prepared : Throughout Prepared stage.journal
  inTurn : Throughout InTurn stage.journal
  playing : Playing stage.journal (stage.deck.running.map (·.handle))

theorem Conducted.ordered (conducted : Conducted base stage) (prepared : Throughout Prepared base) :
    stage.Ordered := by
  obtain ⟨⟨entries, grown, own⟩, inTurn, playing⟩ := conducted
  refine ⟨?_, inTurn, playing⟩
  rw [grown]
  exact prepared.append_of fun earlier entry later split => (own earlier entry later split).append base

/-- In a history every start has its compile in its own operation, and the calls are in order. -/
theorem ordered_of_history (bank : Bank) (catalog : Catalog) (listeners : Listeners Topic Listener)
    (world : World) (operations : List Operation) :
    ∀ step ∈ history around (fresh bank catalog listeners world) operations,
      step.after.journal = step.before.journal ++ step.entries ∧
        Throughout Prepared step.entries ∧ step.after.Ordered := by
  have conducted : ∀ step ∈ history around (fresh bank catalog listeners world) operations,
      step.before.Ordered → Conducted step.before.journal step.after := by
    intro step taken ordered
    -- an operation begins with no call of its own
    have begun : Conducted step.before.journal step.before :=
      ⟨⟨[], by simp, throughout_nil⟩, ordered.inTurn, ordered.playing⟩
    have steady : Steady around (Conducted step.before.journal) := steady_conducted
    have kept := steady.operation step.operation step.before begun
    rwa [perform_of_mem_history around _ operations taken] at kept
  have initial : (fresh bank catalog listeners world : Stage Handle Listener World).Ordered :=
    ⟨throughout_nil, throughout_nil, silenced_nil⟩
  intro step taken
  obtain ⟨before, after⟩ := invariant_of_history around _ operations
    (fun stage => stage.Ordered) initial (fun step taken ordered =>
      (conducted step taken ordered).ordered ordered.prepared) step taken
  obtain ⟨entries, grown, prepared⟩ := (conducted step taken before).prepared
  rw [Step.entries_eq grown]
  exact ⟨grown, prepared, after⟩

end Stage

end PatternDeck
