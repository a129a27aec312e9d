import PatternDeck.Proofs.Stage.Handover
import PatternDeck.Rig.World

/-!
What a deck sends to a remote renderer. A message may be lost at any call; of those that were sent,
every program has a higher number than all before it, and every stop is for the latest program. With
what holds of any renderer this says that a renderer is handed one composite at a time.
-/
namespace PatternDeck.Renderer

open Osc Remote

section Messages

variable {handle : Handle} {sent : List Message}

/-- The message tells to play a program, or to stop one. -/
def switches (message : Message) : Prop :=
  message.address = "/eval" ∨ message.address = "/stop"

/-- The latest program is that of a handle, and it was not stopped. -/
def Latest (handle : Handle) (sent : List Message) : Prop :=
  ∃ earlier later, sent = earlier ++ evalMessage handle :: later ∧
    ∀ message ∈ later, ¬ switches message

/-- A program that is sent has passed the check and has the highest number so far. A stop has the
number of the latest program, which was not stopped yet. -/
structure Numbered (earlier : List Message) (message : Message) : Prop where
  eval : message.address = "/eval" → ∃ handle, message = evalMessage handle ∧
    Program.check handle.program = .ok () ∧
    ∀ other, evalMessage other ∈ earlier → other.id < handle.id
  stop : message.address = "/stop" → ∃ handle, message = stopMessage handle ∧ Latest handle earlier

theorem evalMessage_injective {one other : Handle} (same : evalMessage one = evalMessage other) :
    one = other := by
  obtain ⟨id, program⟩ := one
  obtain ⟨id', program'⟩ := other
  simp only [evalMessage, Message.mk.injEq, true_and, Payload.many.injEq, List.cons.injEq,
    Argument.int.injEq, Argument.text.injEq, and_true] at same
  obtain ⟨ids, rfl⟩ := same
  rw [Int.ofNat.inj ids]

/-- What was sent is in order, the numbers so far are used up, and what plays is the latest. -/
structure Attuned (next : Nat) (sent : List Message) (playing : Option Handle) : Prop where
  numbered : Throughout Numbered sent
  below : ∀ handle, evalMessage handle ∈ sent → handle.id < next
  latest : ∀ handle, playing = some handle → Latest handle sent

namespace Attuned

variable {next : Nat} {playing : Option Handle}

theorem later (attuned : Attuned next sent playing) : Attuned (next + 1) sent playing where
  numbered := attuned.numbered
  below handle there := Nat.lt_succ_of_lt (attuned.below handle there)
  latest := attuned.latest

theorem forgets (attuned : Attuned next sent playing) : Attuned next sent none where
  numbered := attuned.numbered
  below := attuned.below
  latest handle absent := by cases absent

theorem concat {message : Message} (attuned : Attuned next sent playing)
    (idle : ¬ switches message) : Attuned next (sent ++ [message]) playing where
  numbered := by
    refine attuned.numbered.concat ⟨fun eval => ?_, fun stop => ?_⟩
    · exact absurd (.inl eval) idle
    · exact absurd (.inr stop) idle
  below handle there := by
    rcases List.mem_append.1 there with there | there
    · exact attuned.below handle there
    · rw [← List.mem_singleton.1 there] at idle
      exact absurd (.inl rfl) idle
  latest handle plays := by
    obtain ⟨earlier, later, split, quiet⟩ := attuned.latest handle plays
    refine ⟨earlier, later ++ [message], by simp [split], fun other there => ?_⟩
    rcases List.mem_append.1 there with there | there
    · exact quiet other there
    · exact List.mem_singleton.1 there ▸ idle

theorem stop (attuned : Attuned next sent (some handle)) :
    Attuned next (sent ++ [stopMessage handle]) none where
  numbered := by
    refine attuned.numbered.concat ⟨fun eval => ?_, fun _ => ?_⟩
    · simp [stopMessage] at eval
    · exact ⟨handle, rfl, attuned.latest handle rfl⟩
  below other there := by
    rcases List.mem_append.1 there with there | there
    · exact attuned.below other there
    · simp [evalMessage, stopMessage] at there
  latest other absent := by cases absent

theorem eval (attuned : Attuned next sent playing) (checked : Program.check handle.program = .ok ())
    (highest : ∀ other, evalMessage other ∈ sent → other.id < handle.id)
    (issued : handle.id < next) :
    Attuned next (sent ++ [evalMessage handle]) (some handle) where
  numbered := by
    refine attuned.numbered.concat ⟨fun _ => ⟨handle, rfl, checked, highest⟩, fun stop => ?_⟩
    simp [evalMessage] at stop
  below other there := by
    rcases List.mem_append.1 there with there | there
    · exact attuned.below other there
    · rw [evalMessage_injective (List.mem_singleton.1 there)]
      exact issued
  latest other plays := by
    cases plays
    exact ⟨sent, [], rfl, by simp⟩

end Attuned

end Messages

variable {Listener World : Type}

/-- The calls on the surroundings are those of a remote renderer: programs are compiled here, the
rest goes by messages, each of which may be lost. Nothing else sends such messages. -/
structure Serves (around : Surroundings Handle Listener World)
    (seen : World → Option (Remote × List Message)) : Prop where
  compile : ∀ {world remote sent}, seen world = some (remote, sent) → ∀ program,
    (around.compile program world).1 = (remote.compile program).1.mapError flawFault ∧
    seen (around.compile program world).2 = some ((remote.compile program).2, sent)
  start : ∀ {world remote sent}, seen world = some (remote, sent) → ∀ handle,
    ((around.start handle world).1 = .ok () ∧
      seen (around.start handle world).2 = some (remote, sent ++ [evalMessage handle])) ∨
    ((∃ fault, (around.start handle world).1 = .error fault) ∧
      seen (around.start handle world).2 = some (remote, sent))
  stop : ∀ {world remote sent}, seen world = some (remote, sent) → ∀ handle,
    seen (around.stop handle world).2 = some (remote, sent ++ [stopMessage handle]) ∨
    seen (around.stop handle world).2 = some (remote, sent)
  hush : ∀ {world remote sent}, seen world = some (remote, sent) →
    seen (around.hush world).2 = some (remote, sent ++ [hushMessage]) ∨
    seen (around.hush world).2 = some (remote, sent)
  save : ∀ {save}, around.save = some save → ∀ slot world, seen (save slot world).2 = seen world
  hear : ∀ listener event deck world, seen (around.hear listener event deck world).2 = seen world

variable {around : Surroundings Handle Listener World}
variable {seen : World → Option (Remote × List Message)}
variable {world : World} {remote : Remote} {sent : List Message}

namespace Serves

theorem refused (serves : Serves around seen) (link : seen world = some (remote, sent))
    {program : String} {fault : Fault} {after : World}
    (compiled : around.compile program world = (.error fault, after)) :
    seen after = some (remote, sent) := by
  obtain ⟨outcome, link⟩ := serves.compile link program
  rw [compiled] at outcome link
  rcases checked : Program.check program with flaw | ⟨⟩
  · simpa only [Remote.compile, checked] using link
  · simp [Remote.compile, checked, Except.mapError] at outcome

theorem accepted (serves : Serves around seen) (link : seen world = some (remote, sent))
    {program : String} {handle : Handle} {after : World}
    (compiled : around.compile program world = (.ok handle, after)) :
    Program.check handle.program = .ok () ∧ handle.id = remote.next ∧
      seen after = some (⟨remote.next + 1⟩, sent) := by
  obtain ⟨outcome, link⟩ := serves.compile link program
  rw [compiled] at outcome link
  rcases checked : Program.check program with flaw | ⟨⟩
  · simp [Remote.compile, checked, Except.mapError] at outcome
  · simp only [Remote.compile, checked, Except.mapError, Except.ok.injEq] at outcome link
    subst outcome
    exact ⟨checked, rfl, link⟩

/-- Listeners have no part in what is sent to the renderer. -/
theorem told (serves : Serves around seen) (stage : Stage Handle Listener World) (event : Event) :
    seen (stage.told around event).world = seen stage.world := by
  have heard : ∀ (listeners : List Listener) (world : World),
      seen (listeners.foldl (fun world listener =>
        (around.hear listener event stage.deck world).2) world) = seen world := by
    intro listeners
    induction listeners with
    | nil => intro world; rfl
    | cons listener rest ih =>
      intro world
      -- the others find what the first of them left as it was
      rw [List.foldl_cons, ih]
      exact serves.hear listener event stage.deck world
  exact heard _ _

end Serves

/-- What was sent is in order, and the deck keeps the latest program. -/
def Linked (seen : World → Option (Remote × List Message)) (stage : Stage Handle Listener World) :
    Prop :=
  ∃ remote sent, seen stage.world = some (remote, sent) ∧
    Attuned remote.next sent (stage.deck.running.map (·.handle))

open Act Stage

theorem Linked.of_deck {stage : Stage Handle Listener World} {deck : Deck Handle Listener}
    (same : deck.running = stage.deck.running) (linked : Linked seen stage) :
    Linked seen { stage with deck } := by
  obtain ⟨remote, sent, link, attuned⟩ := linked
  exact ⟨remote, sent, link, same ▸ attuned⟩

namespace Serves

theorem linked_announce (serves : Serves around seen) (event : Event) :
    Preserves (Linked seen) (announce around event) := by
  rintro stage ⟨remote, sent, link, attuned⟩
  exact ⟨remote, sent, (serves.told stage event).trans link, attuned⟩

theorem linked_compile (serves : Serves around seen) (program : String) :
    Preserves (Linked seen)
      (ask (around.compile program) (.compiled program) : Act Handle Listener World _) := by
  rintro stage ⟨remote, sent, link, attuned⟩
  rw [perform_ask]
  rcases compiled : around.compile program stage.world with ⟨fault | handle, after⟩
  · exact ⟨remote, sent, serves.refused link compiled, attuned⟩
  · obtain ⟨-, -, link⟩ := serves.accepted link compiled
    exact ⟨_, sent, link, attuned.later⟩

theorem linked_hush (serves : Serves around seen) :
    Preserves (Linked seen) (ask around.hush .hushed : Act Handle Listener World _) := by
  rintro stage ⟨remote, sent, link, attuned⟩
  rcases serves.hush link with hushed | hushed
  · have idle : ¬ switches hushMessage := by simp [switches, hushMessage]
    exact ⟨remote, _, hushed, attuned.concat idle⟩
  · exact ⟨remote, sent, hushed, attuned⟩

/-- Stopping sends no program, and afterwards none is the latest. -/
theorem perform_stopCurrent (serves : Serves around seen) (stage : Stage Handle Listener World)
    (link : seen stage.world = some (remote, sent))
    (attuned : Attuned remote.next sent (stage.deck.running.map (·.handle))) :
    ∃ world journal sent', perform (stopCurrent around) stage =
        (.ok (), ⟨{ stage.deck with running := none }, world, journal⟩) ∧
      seen world = some (remote, sent') ∧ Attuned remote.next sent' none ∧
      ∀ handle, evalMessage handle ∈ sent' → evalMessage handle ∈ sent := by
  obtain ⟨⟨bank, catalog, selected, active, running, listeners⟩, world, journal⟩ := stage
  simp only [stopCurrent, perform_bind, perform_getDeck]
  cases running with
  | none => exact ⟨world, journal, sent, rfl, link, attuned, fun _ there => there⟩
  | some running =>
    simp only [perform_bind, perform_changeDeck, perform_ask, perform_pure]
    rcases serves.stop link running.handle with stopped | stopped
    · refine ⟨_, _, _, rfl, stopped, attuned.stop, fun handle there => ?_⟩
      simpa [evalMessage, stopMessage] using there
    · exact ⟨_, _, sent, rfl, stopped, attuned.forgets, fun _ there => there⟩

theorem linked_stopCurrent (serves : Serves around seen) :
    Preserves (Linked seen) (stopCurrent around) := by
  rintro stage ⟨remote, sent, link, attuned⟩
  obtain ⟨world, journal, sent', performed, link', attuned', -⟩ :=
    serves.perform_stopCurrent stage link attuned
  rw [performed]
  exact ⟨remote, sent', link', attuned'⟩

theorem linked_rebuild (serves : Serves around seen) :
    Preserves (Linked seen) (rebuild around) := by
  refine .bind preserves_getDeck fun deck => ?_
  refine .ite (.bind serves.linked_stopCurrent fun _ => serves.linked_announce _) ?_
  refine .bind (preserves_resolveAll (fun same _ => .of_deck same) (fun _ _ linked => linked) deck.active)
    fun programs => ?_
  rintro stage ⟨remote, sent, link, attuned⟩
  rcases compiled : around.compile (composite around programs) stage.world with
    ⟨fault | handle, world⟩
  · simp only [perform_bind, perform_ask, compiled, perform_throw]
    exact ⟨remote, sent, serves.refused link compiled, attuned⟩
  · obtain ⟨checked, number, accepted⟩ := serves.accepted link compiled
    obtain ⟨quiet, journal, sent', halted, link', attuned', fewer⟩ := serves.perform_stopCurrent
      ⟨stage.deck, world, stage.journal ++ [.compiled (composite around programs) (.ok handle)]⟩
      accepted attuned.later
    -- the number was the next one when the program was compiled, so it is above all that was sent
    have highest : ∀ other, evalMessage other ∈ sent' → other.id < handle.id := by
      intro other there
      rw [number]
      exact attuned.below other (fewer other there)
    have issued : handle.id < remote.next + 1 := by omega
    rcases started : around.start handle quiet with ⟨outcome, later⟩
    have start := serves.start link' handle
    rw [started] at start
    rcases start with ⟨rfl, link⟩ | ⟨⟨fault, rfl⟩, link⟩
    · simp only [perform_bind, perform_ask, compiled, halted, started, perform_changeDeck]
      apply serves.linked_announce
      exact ⟨_, _, link, attuned'.eval checked highest issued⟩
    · simp only [perform_bind, perform_ask, compiled, halted, started, perform_throw]
      exact ⟨_, sent', link, attuned'⟩

theorem steady_linked (serves : Serves around seen) : Steady around (Linked seen) where
  deck same _ := .of_deck same
  touched _ _ linked := linked
  announce := serves.linked_announce
  save saves slot := by
    rintro stage ⟨remote, sent, link, attuned⟩
    exact ⟨remote, sent, (serves.save saves slot stage.world).trans link, attuned⟩
  compile := serves.linked_compile
  stopCurrent := serves.linked_stopCurrent
  hush := serves.linked_hush
  rebuild := serves.linked_rebuild

/-- In a history that begins with nothing sent, all that is sent is in order. -/
theorem linked_of_history (serves : Serves around seen) (bank : Bank) (catalog : Catalog)
    (listeners : Listeners Topic Listener) (link : seen world = some (remote, []))
    (operations : List Operation) :
    ∀ step ∈ history around (fresh bank catalog listeners world) operations,
      Linked seen step.after := by
  have initial : Linked seen (fresh bank catalog listeners world) :=
    ⟨remote, [], link, throughout_nil, by simp, by simp [fresh]⟩
  intro step taken
  refine (invariant_of_history around _ operations (Linked seen) initial ?_ step taken).2
  intro step taken linked
  have kept := serves.steady_linked.operation step.operation step.before linked
  rwa [perform_of_mem_history around _ operations taken] at kept

end Serves

section Rig

/-- The messages among what a rig put out that are for the renderer. -/
def toRenderer : Rig.Output → Option Message
  | .send message => if message.address ∈ ["/eval", "/stop", "/hush"] then some message else none
  | _ => none

def remoteOf (world : Rig.World) : Option (Remote × List Message) :=
  match world.player with
  | .rehearsal _ => none
  | .remote remote _ => some (remote, world.output.filterMap toRenderer)

theorem remoteOf_put {output : Rig.Output} (world : Rig.World) (other : toRenderer output = none) :
    remoteOf (world.put output) = remoteOf world := by
  simp [remoteOf, Rig.World.put, other]

/-- Surfaces tell of slots and failures at addresses of their own. -/
theorem remoteOf_sendFrom (world : Rig.World) (n : Nat) {message : Message}
    (other : toRenderer (.send message) = none) :
    remoteOf (world.sendFrom n message) = remoteOf world := by
  unfold Rig.World.sendFrom Rig.World.send
  dsimp only
  split
  · split
    · exact remoteOf_put world rfl
    · exact remoteOf_put world other
  · rfl

theorem toRenderer_playingMessage (slot : Int) (playing : Bool) :
    toRenderer (.send (playingMessage slot playing)) = none := by
  -- the addresses differ in their second letters, or in the third ones
  have own : ∀ address ∈ ["/eval", "/stop", "/hush"],
      "/slot/" ++ intText slot ++ "/playing" ≠ address := by
    intro address there same
    have letters := congrArg String.toList same
    simp only [List.mem_cons, List.not_mem_nil, or_false] at there
    rcases there with rfl | rfl | rfl
    all_goals simp at letters
  have absent : "/slot/" ++ intText slot ++ "/playing" ∉ ["/eval", "/stop", "/hush"] :=
    fun there => own _ there rfl
  simp only [toRenderer, playingMessage, absent, if_false]

theorem player_of_remoteOf {world : Rig.World} {remote : Remote} {sent : List Message}
    (link : remoteOf world = some (remote, sent)) :
    (∃ down, world.player = .remote remote down) ∧ world.output.filterMap toRenderer = sent := by
  unfold remoteOf at link
  split at link
  · cases link
  next down player =>
    cases link
    exact ⟨⟨down, player⟩, rfl⟩

/-- A message to the renderer arrives or is lost. -/
theorem remoteOf_send {world : Rig.World} {remote : Remote} {sent : List Message} (down : Bool)
    {message : Message} (link : remoteOf world = some (remote, sent))
    (named : toRenderer (.send message) = some message) :
    ((world.send down message).1 = .ok () ∧
      remoteOf (world.send down message).2 = some (remote, sent ++ [message])) ∨
    ((world.send down message).1 = .error unreachable ∧
      remoteOf (world.send down message).2 = some (remote, sent)) := by
  cases down with
  | true =>
    have lost : toRenderer (.sendFailed message.address) = none := rfl
    exact .inr ⟨rfl, (remoteOf_put world lost).trans link⟩
  | false =>
    obtain ⟨⟨down, player⟩, sends⟩ := player_of_remoteOf link
    refine .inl ⟨rfl, ?_⟩
    simp [remoteOf, Rig.World.send, Rig.World.put, player, sends, named]

/-- A rig's remote renderer is one. -/
theorem serves_rig (saves : Bool) : Serves (Rig.around saves) remoteOf where
  compile := by
    intro world remote sent link program
    obtain ⟨⟨down, player⟩, sends⟩ := player_of_remoteOf link
    simp only [Rig.around, Rig.World.compile, Remote.compile, player]
    rcases checked : Program.check program with flaw | ⟨⟩
    · exact ⟨rfl, link⟩
    · exact ⟨rfl, by simp only [remoteOf, sends]⟩
  start := by
    intro world remote sent link handle
    obtain ⟨⟨down, player⟩, -⟩ := player_of_remoteOf link
    simp only [Rig.around, Rig.World.start, player]
    have named : toRenderer (.send (evalMessage handle)) = some (evalMessage handle) := rfl
    rcases remoteOf_send down link named with arrived | ⟨lost, same⟩
    · exact .inl arrived
    · exact .inr ⟨⟨_, lost⟩, same⟩
  stop := by
    intro world remote sent link handle
    obtain ⟨⟨down, player⟩, -⟩ := player_of_remoteOf link
    simp only [Rig.around, Rig.World.stop, player]
    have named : toRenderer (.send (stopMessage handle)) = some (stopMessage handle) := rfl
    exact (remoteOf_send down link named).imp And.right And.right
  hush := by
    intro world remote sent link
    obtain ⟨⟨down, player⟩, -⟩ := player_of_remoteOf link
    simp only [Rig.around, Rig.World.hush, player]
    have named : toRenderer (.send hushMessage) = some hushMessage := rfl
    exact (remoteOf_send down link named).imp And.right And.right
  save := by
    intro save given slot world
    cases saves with
    | false => cases given
    | true =>
      cases given
      unfold Rig.World.save
      split
      · rfl
      · exact remoteOf_put world rfl
      · split <;> rfl
  hear := by
    intro listener event deck world
    simp only [Rig.around]
    unfold Rig.World.hear
    split
    · rfl
    · split
      · exact remoteOf_put world rfl
      · rfl
      · rfl
    · exact remoteOf_sendFrom world _ (toRenderer_playingMessage _ _)
    · exact remoteOf_sendFrom world _ rfl
    · rfl

end Rig

/-- A renderer is handed at most one composite at a time, whatever fails. Each start has the handle
of the compile right before it; what was started before is stopped by then; and only the latest start
that worked is stopped, once. A handle whose start failed is not stopped, unless it is one that was
given out again and started. A remote renderer gets its programs checked and numbered in order, and
each stop for the latest of them. -/
theorem one_composite_of_history :
    (∀ {Handle Listener World : Type} (around : Surroundings Handle Listener World) (bank : Bank)
      (catalog : Catalog) (listeners : Listeners Topic Listener) (world : World)
      (operations : List Operation),
      ∀ step ∈ history around (fresh bank catalog listeners world) operations,
        step.after.journal = step.before.journal ++ step.entries ∧
        Throughout Prepared step.entries ∧
        Throughout InTurn step.after.journal ∧
        (∀ (handle : Handle) (fault : Fault) (outcome : Except Fault Unit)
          (earlier middle later : List (Entry Handle)),
          step.after.journal = (earlier ++ .started handle (.error fault) :: middle) ++
            .stopped handle outcome :: later → .started handle (.ok ()) ∈ middle) ∧
        ((step.after.journal.filterMap Entry.issued?).Nodup → ∀ handle fault outcome,
          .started handle (.error fault) ∈ step.after.journal →
          .stopped handle outcome ∉ step.after.journal)) ∧
    (∀ {Listener World : Type} (around : Surroundings Handle Listener World)
      (seen : World → Option (Remote × List Message)), Serves around seen →
      ∀ (bank : Bank) (catalog : Catalog) (listeners : Listeners Topic Listener) (world : World)
        (remote : Remote) (operations : List Operation), seen world = some (remote, []) →
      ∀ step ∈ history around (fresh bank catalog listeners world) operations,
        ∃ remote sent, seen step.after.world = some (remote, sent) ∧ Throughout Numbered sent) := by
  constructor
  · intro Handle Listener World around bank catalog listeners world operations step taken
    obtain ⟨grown, prepared, ordered⟩ :=
      ordered_of_history bank catalog listeners world operations step taken
    refine ⟨grown, prepared, ordered.inTurn, ?_, ?_⟩
    · intro handle fault outcome earlier middle later split
      exact started_since_failure ordered.inTurn split
    · intro once handle fault outcome failed
      exact notMem_stopped_of_failed ordered.prepared ordered.inTurn once failed outcome
  · intro Listener World around seen serves bank catalog listeners world _ operations link step taken
    obtain ⟨remote, sent, link, attuned⟩ :=
      serves.linked_of_history bank catalog listeners link operations step taken
    exact ⟨remote, sent, link, attuned.numbered⟩

private def failedCalls : List (Step Nat Empty (List Bool)) :=
  history .scripted (fresh .pair .empty {} [true, true, true, false, false])
    [.start 3, .start 5, .start 5, .stopAll]

private def call? : Entry Nat → Option (String × Nat × Bool)
  | .compiled _ outcome => some ("compile", outcome.toOption.getD 0, outcome.isOk)
  | .started handle outcome => some ("start", handle, outcome.isOk)
  | .stopped handle outcome => some ("stop", handle, outcome.isOk)
  | .hushed outcome => some ("hush", 0, outcome.isOk)
  | _ => none

private def sentSteps : List (Step Handle Rig.Ear Rig.World) :=
  history (Rig.around true) (fresh .pair .empty {} { player := .remote {} false })
    [.start 3, .start 5, .stop 3]

private def failedStep : Step Nat Empty (List Bool) := failedCalls.get ⟨1, by decide +kernel⟩

private def sentStep : Step Handle Rig.Ear Rig.World := sentSteps.get ⟨2, by decide +kernel⟩

/-- A history in which a stop fails and then a start, and one of messages. -/
theorem one_composite_after_failures :
    (∃ step ∈ failedCalls,
      step.after.journal.filterMap call? = [("compile", 5, true), ("start", 5, true),
        ("compile", 3, true), ("stop", 5, false), ("start", 3, false)] ∧
      Throughout Prepared step.entries ∧ Throughout InTurn step.after.journal ∧
      ∀ outcome, .stopped 3 outcome ∉ step.after.journal) ∧
    ∃ step ∈ sentSteps, ∃ remote sent, remoteOf step.after.world = some (remote, sent) ∧
      sent.map (·.address) = ["/eval", "/stop", "/eval", "/stop", "/eval"] ∧
      Throughout Numbered sent := by
  constructor
  · have taken : failedStep ∈ failedCalls := List.get_mem _ _
    have calls : failedStep.after.journal.filterMap call? = [("compile", 5, true),
        ("start", 5, true), ("compile", 3, true), ("stop", 5, false), ("start", 3, false)] := by
      decide +kernel
    have once : (failedStep.after.journal.filterMap Entry.issued?).Nodup := by decide +kernel
    have failed : ∃ fault, .started 3 (.error fault) ∈ failedStep.after.journal := by
      have there : ("start", 3, false) ∈ failedStep.after.journal.filterMap call? := by
        rw [calls]
        decide
      obtain ⟨entry, member, shown⟩ := List.mem_filterMap.1 there
      rcases entry with _ | ⟨handle, fault | ⟨⟩⟩
      all_goals simp [call?, Except.isOk, Except.toBool] at shown
      exact ⟨fault, shown ▸ member⟩
    obtain ⟨fault, failed⟩ := failed
    obtain ⟨-, prepared, inTurn, -, unstopped⟩ := one_composite_of_history.1 _ _ _ _ _ _ _ taken
    exact ⟨_, taken, calls, prepared, inTurn, fun outcome => unstopped once 3 fault outcome failed⟩
  · have taken : sentStep ∈ sentSteps := List.get_mem _ _
    have sends : (remoteOf sentStep.after.world).map (fun seen => seen.2.map (·.address)) =
        some ["/eval", "/stop", "/eval", "/stop", "/eval"] := by
      decide +kernel
    obtain ⟨remote, sent, link, numbered⟩ :=
      one_composite_of_history.2 _ remoteOf (serves_rig true) _ _ _ _ {} _ rfl _ taken
    rw [link] at sends
    exact ⟨_, taken, remote, sent, link, Option.some.inj sends, numbered⟩

end PatternDeck.Renderer
