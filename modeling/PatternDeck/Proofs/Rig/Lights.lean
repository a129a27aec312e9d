import PatternDeck.Proofs.Rig.World
import PatternDeck.Proofs.Stage.Signal
import PatternDeck.Proofs.Stage.Steady
import PatternDeck.Rig.Operations

/-!
The lights of a controller. A controller that is opened gives every button the color that its slot has
in the deck, and from then on hears of every light that changes. So the color that a button was given
last is its slot's, whatever the deck is asked and whichever of it fails.
-/
namespace PatternDeck

namespace Controller

/-- A light of a channel, as its note and its color. -/
def Light.on? (channel : Int) (light : Light) : Option (Int × Int) :=
  if light.channel = channel then some (light.note, light.color) else none

/-- The operation that a gesture asks for. -/
def Gesture.operation? : Gesture → Option Operation
  | .holdShift _ => none
  | .stopAll => some .stopAll
  | .button slot pressed => some (.pressButton slot pressed)
  | .knob index ticks => some (.turnKnob index ticks)

/-- No gesture loads a library. -/
theorem Gesture.quiet_of_operation? {gesture : Gesture} {operation : Operation}
    (asked : gesture.operation? = some operation) : operation.Quiet := by
  rintro slots name version rfl
  cases gesture <;> cases asked

/-- The device lights buttons on a channel. -/
structure Device.Shines (channel : Int) (device : Device) : Prop where
  opened : device.outputOpen
  channel_eq : device.channel = channel
  inRange : 0 ≤ channel ∧ channel ≤ 15

namespace Device

variable {device : Device} {channel slot color : Int}

theorem note_of_light {light : Light} (lit : device.light slot color = .ok (some light)) :
    light.note = slot ∧ light.color = color ∧ isData color := by
  unfold Device.light at lit
  split_ifs at lit with closed far unsendable
  · cases lit
  · cases lit
    exact ⟨rfl, rfl, by simpa using unsendable⟩

theorem light_of_open {lit : Option Light} (opened : device.outputOpen) (grid : slot ∈ gridNotes)
    (lights : device.light slot color = .ok lit) :
    device.Shines device.channel ∧ lit = some ⟨device.channel, slot, color⟩ := by
  unfold Device.light at lights
  split_ifs at lights with closed far unsendable
  · simp [opened, grid] at closed
  · cases lights
    exact ⟨⟨opened, rfl, by omega⟩, rfl⟩

theorem Shines.light_eq (shines : device.Shines channel) (grid : slot ∈ gridNotes)
    (data : isData color) : device.light slot color = .ok (some ⟨channel, slot, color⟩) := by
  obtain ⟨opened, rfl, inRange⟩ := shines
  unfold Device.light
  rw [if_neg (by simp [opened, grid]), if_neg (by omega), if_neg (by simp [data])]

end Device

end Controller

namespace Rig

open Controller Renderer Work

section Lit

/-- The lights that were lit on a channel, in order. -/
def World.lit (channel : Int) (world : World) : List (Int × Int) :=
  world.lights.filterMap (Light.on? channel)

theorem World.device_congr {world other : World} (same : other.devices = world.devices) (n : Nat) :
    other.device n = world.device n := by
  rw [World.device, World.device, same]

theorem Ear.light?_congr {world other : World} (same : other.devices = world.devices) (ear : Ear)
    (event : Event) : ear.light? other event = ear.light? world event := by
  unfold Ear.light?
  split
  · rw [World.device_congr same]
  · rfl

/-- Controllers light buttons when they are told of lights. -/
theorem Ear.light?_of_unsignalled {world : World} {event : Event} (ear : Ear)
    (dark : (Entry.announced event : Entry Handle).signal? = none) :
    ear.light? world event = none := by
  unfold Ear.light?
  split
  · cases dark
  · rfl

theorem Ear.note_of_light? {world : World} {ear : Ear} {id color : Int} {light : Light}
    (lit : ear.light? world (.indicator id color) = some light) :
    light.note = id ∧ light.color = color ∧ isData color := by
  cases ear with
  | device n =>
    simp only [Ear.light?] at lit
    split at lit
    next lights =>
      subst lit
      exact Device.note_of_light lights
    next => cases lit
  | _ => cases lit

/-- Between two worlds no light was lit, and no controller changed. -/
def World.Unlit (world after : World) : Prop :=
  after.devices = world.devices ∧ after.lights = world.lights

theorem World.Unlit.device {world after : World} (unlit : world.Unlit after) (n : Nat) :
    after.device n = world.device n := device_congr unlit.1 n

theorem World.Unlit.lit {world after : World} (unlit : world.Unlit after) (channel : Int) :
    after.lit channel = world.lit channel := by
  rw [World.lit, World.lit, unlit.2]

theorem World.Called.unlit {world after : World} (called : world.Called after) : world.Unlit after :=
  ⟨called.devices, called.lights⟩

/-- Surroundings whose listeners are the rig's, and that leave all lights to them. -/
structure Spares (around : Surroundings Handle Ear World) : Prop where
  hear : around.hear = World.hear
  compile : ∀ program (world : World), world.Unlit (around.compile program world).2
  start : ∀ handle (world : World), world.Unlit (around.start handle world).2
  stop : ∀ handle (world : World), world.Unlit (around.stop handle world).2
  hush : ∀ world : World, world.Unlit (around.hush world).2
  save : ∀ save ∈ around.save, ∀ slot (world : World), world.Unlit (save slot world).2

theorem World.unlit_save (slot : Slot) (world : World) : world.Unlit (world.save slot).2 := by
  unfold World.save
  split
  · exact ⟨rfl, rfl⟩
  · exact (World.Called.put rfl).unlit
  · split <;> exact ⟨rfl, rfl⟩

theorem spares_around (saves : Bool) : Spares (around saves) where
  hear := rfl
  compile program world := (World.Called.compile world program).unlit
  start handle world := (World.Called.start world handle).unlit
  stop handle world := (World.Called.stop world handle).unlit
  hush world := (World.Called.hush world).unlit
  save := by
    cases saves with
    | false => rintro _ ⟨⟩
    | true =>
      rintro _ ⟨⟩
      exact World.unlit_save

variable {around : Surroundings Handle Ear World} (spares : Spares around)
include spares

/-- Every listener lights its button in turn. -/
theorem Spares.told (stage : State) (event : Event) :
    (stage.told around event).world.devices = stage.world.devices ∧
      (stage.told around event).world.lights = stage.world.lights ++
        (stage.deck.listeners.of event.topic).filterMap (Ear.light? stage.world · event) := by
  change (List.foldl _ stage.world (stage.deck.listeners.of event.topic)).devices = _ ∧
    (List.foldl _ stage.world (stage.deck.listeners.of event.topic)).lights = _
  rw [spares.hear]
  generalize stage.deck.listeners.of event.topic = ears, stage.world = world
  induction ears generalizing world with
  | nil => simp
  | cons ear rest ih =>
    obtain ⟨devices, lights⟩ := ih (World.hear ear event stage.deck world).2
    rw [List.foldl_cons, devices, lights]
    rcases World.hear_cases ear event stage.deck world with ⟨light, shown, lit⟩ | ⟨dark, called⟩
    · rw [lit, World.lights_put, List.filterMap_cons, shown]
      exact ⟨rfl, List.append_assoc ..⟩
    · simp only [called.devices, called.lights, List.filterMap_cons, dark,
        Ear.light?_congr called.devices, and_self]

/-- A controller that listens for lights gives each of its buttons the color that it is told. -/
theorem Spares.last_of_told {stage : State} {n : Nat} {channel note : Int} (event : Event)
    (hears : .device n ∈ stage.deck.listeners.of .indicator)
    (shines : (stage.world.device n).Shines channel) (grid : note ∈ gridNotes) :
    Led.last note ((stage.told around event).world.lit channel) =
      (Led.last note ((Entry.announced event : Entry Handle).signal?.toList.filter
        fun light => isData light.2)).or (Led.last note (stage.world.lit channel)) := by
  rw [World.lit, (spares.told stage event).2, List.filterMap_append, Led.last_append]
  congr 1
  cases event with
  | indicator id color =>
    let shone := ((stage.deck.listeners.of .indicator).filterMap
      (Ear.light? stage.world · (.indicator id color))).filterMap (Light.on? channel)
    have only : ∀ light ∈ shone, light = (id, color) ∧ isData color := by
      intro light there
      obtain ⟨lit, there, on⟩ := List.mem_filterMap.1 there
      obtain ⟨ear, -, shown⟩ := List.mem_filterMap.1 there
      obtain ⟨rfl, rfl, data⟩ := ear.note_of_light? shown
      unfold Light.on? at on
      split at on
      · exact ⟨(Option.some.inj on).symm, data⟩
      · cases on
    change Led.last note shone = Led.last note ([(id, color)].filter fun light => isData light.2)
    by_cases data : isData color
    · simp only [List.filter_cons, data, if_true, List.filter_nil]
      by_cases own : id = note
      · subst own
        refine Led.last_of_repeated id (List.mem_filterMap.2 ⟨⟨channel, id, color⟩, ?_, ?_⟩)
          fun light there => (only light there).1
        · refine List.mem_filterMap.2 ⟨_, hears, ?_⟩
          simp only [Ear.light?, shines.light_eq grid data]
        · simp [Light.on?]
      · rw [Led.last_eq_none fun light there => (only light there).1 ▸ own, Led.last_eq_none]
        exact List.forall_mem_singleton.2 own
    · have none : shone = [] :=
        List.eq_nil_iff_forall_not_mem.2 fun light there => data (only light there).2
      simp [none, data]
  | _ =>
    rw [List.filterMap_eq_nil_iff.2 fun (ear : Ear) _ => ear.light?_of_unsignalled rfl]
    rfl

end Lit

section Relayed

variable {around : Surroundings Handle Ear World} {n : Nat} {channel : Int}
variable {base stage after : State}

/-- From a base on, a controller gave its buttons the colors that the listeners were told, as far as
these can be sent. -/
structure Relayed (n : Nat) (channel : Int) (base stage : State) : Prop where
  hears : .device n ∈ stage.deck.listeners.of .indicator
  shines : (stage.world.device n).Shines channel
  lights : ∃ told, stage.excerpt Entry.signal? = base.excerpt Entry.signal? ++ told ∧
    ∀ note ∈ gridNotes, Led.last note (stage.world.lit channel) =
      (Led.last note (told.filter fun light => isData light.2)).or
        (Led.last note (base.world.lit channel))

theorem Relayed.refl (hears : .device n ∈ base.deck.listeners.of .indicator)
    (shines : (base.world.device n).Shines channel) : Relayed n channel base base :=
  ⟨hears, shines, [], by simp, fun _ _ => rfl⟩

/-- Whatever lights nothing and tells of no light is of no account. -/
theorem Relayed.unlit (relayed : Relayed n channel base stage)
    (listeners : after.deck.listeners = stage.deck.listeners)
    (unlit : stage.world.Unlit after.world)
    (untold : after.excerpt Entry.signal? = stage.excerpt Entry.signal?) :
    Relayed n channel base after := by
  refine ⟨listeners ▸ relayed.hears, unlit.device n ▸ relayed.shines, ?_⟩
  rw [unlit.lit channel, untold]
  exact relayed.lights

theorem relayed_ask {α : Type} {call : World → Except Fault α × World}
    {entry : Except Fault α → Entry Handle} (unlit : ∀ world : World, world.Unlit (call world).2)
    (calm : ∀ outcome, (entry outcome).isAlert = false) :
    Preserves (Relayed n channel base) (Act.ask call entry : Act Handle Ear World _) :=
  fun stage relayed => relayed.unlit rfl (unlit stage.world) <|
    Stage.excerpt_of_grown rfl (List.forall_mem_singleton.2 (calm _))

variable (spares : Spares around)
include spares

theorem relayed_announce (event : Event) :
    Preserves (Relayed n channel base) (Act.announce around event) := by
  intro stage relayed
  obtain ⟨hears, shines, told, grown, lights⟩ := relayed
  refine ⟨hears, ?_, told ++ (Entry.announced event : Entry Handle).signal?.toList, ?_, ?_⟩
  · rw [Stage.perform_announce, World.device_congr (spares.told stage event).1]
    exact shines
  · rw [Stage.perform_announce, Stage.excerpt_told, grown, List.append_assoc]
  · intro note grid
    rw [Stage.perform_announce, spares.last_of_told event hears shines grid, lights note grid,
      List.filter_append, Led.last_append, Option.or_assoc]

theorem steady_relayed : Stage.Steady around (Relayed n channel base) := by
  apply Stage.Steady.of_calls
  · exact fun stage deck same relayed => relayed.unlit same ⟨rfl, rfl⟩ rfl
  · exact fun id stage relayed => relayed.unlit rfl ⟨rfl, rfl⟩ <|
      Stage.excerpt_of_grown rfl (List.forall_mem_singleton.2 rfl)
  · exact relayed_announce spares
  · exact fun saves slot => relayed_ask (spares.save _ saves slot) fun _ => rfl
  · exact fun program => relayed_ask (spares.compile program) fun _ => rfl
  · exact fun handle => relayed_ask (spares.start handle) fun _ => rfl
  · exact fun handle => relayed_ask (spares.stop handle) fun _ => rfl
  · exact relayed_ask spares.hush fun _ => rfl

end Relayed

section Mirrors

/-- A controller that listens for lights, and the buttons of which have the colors of the deck. -/
structure Mirrors (n : Nat) (channel : Int) (stage : State) : Prop where
  showable : stage.deck.Showable
  hears : .device n ∈ stage.deck.listeners.of .indicator
  shines : (stage.world.device n).Shines channel
  lit : ∀ note ∈ gridNotes,
    Led.last note (stage.world.lit channel) = some (stage.deck.color note)

variable {around : Surroundings Handle Ear World} {n : Nat} {channel : Int} {stage : State}

theorem Mirrors.operation (mirrors : Mirrors n channel stage) (spares : Spares around)
    {operation : Operation} (quiet : operation.Quiet) :
    Mirrors n channel (perform (operation.act around) stage).2 := by
  obtain ⟨⟨told, grown, sendable, colors⟩, showable⟩ :=
    Stage.signals_of_operation around mirrors.showable quiet
  obtain ⟨hears, shines, relayed, grown', lit⟩ := (steady_relayed spares).operation operation stage
    (.refl mirrors.hears mirrors.shines)
  refine ⟨showable, hears, shines, fun note grid => ?_⟩
  -- both say what was told, and all of it can be sent
  obtain rfl : relayed = told := List.append_cancel_left (grown'.symm.trans grown)
  rw [lit note grid, colors, mirrors.lit note grid, List.filter_eq_self.2 sendable]
  cases Led.last note relayed <;> rfl

end Mirrors

section Open

@[simp] theorem perform_world (stage : State) : perform world stage = (.ok stage.world, stage) := rfl

@[simp] theorem perform_changeWorld (f : World → World) (stage : State) :
    perform (changeWorld f) stage = (.ok (), { stage with world := f stage.world }) := rfl

@[simp] theorem perform_put (output : Output) (stage : State) :
    perform (put output) stage = (.ok (), { stage with world := stage.world.put output }) := rfl

/-- The deck once a controller listens for its lights. -/
def heard (n : Nat) (deck : Deck Handle Ear) : Deck Handle Ear :=
  { deck with listeners := deck.listeners.on .indicator (.device n) }

@[simp] theorem perform_listen (n : Nat) (stage : State) :
    perform (listen .indicator (.device n)) stage =
      (.ok (), { stage with deck := heard n stage.deck }) := rfl

variable {device : Device} {inputs outputs : Ports} {stage opened : State} {n : Nat}

/-- A controller that was opened listens for lights, and has set its own last. -/
theorem syncLights_of_openDevice
    (returned : perform (openDevice device inputs outputs) stage = (.ok n, opened)) :
    ∃ listening : State, listening.deck = heard n stage.deck ∧
      perform (syncLights n) listening = (.ok (), opened) := by
  rcases opens : outputs.open? device.output with _ | output
  all_goals
    rcases enters : inputs.open? device.input with _ | input
    all_goals
      simp only [openDevice, opens, enters, perform_bind, perform_world, perform_changeWorld,
        perform_put, perform_ite, perform_listen, perform_pure] at returned
      -- whichever ports were found, and whether they have names, the same comes last
      repeat' split at returned
      all_goals cases returned
      all_goals exact ⟨_, rfl, by assumption⟩

/-- A light that could be set is one of an open controller, or of none. -/
theorem light_cases {note color : Int} {after : State}
    (performed : perform (light n note color) stage = (.ok (), after)) :
    ∃ lit, (stage.world.device n).light note color = .ok lit ∧ after.deck = stage.deck ∧
      after.world.devices = stage.world.devices ∧
      after.world.lights = stage.world.lights ++ lit.toList := by
  simp only [light, perform_bind, perform_world] at performed
  rcases lights : (stage.world.device n).light note color with failure | _ | lit
  all_goals
    rw [lights] at performed
    cases performed
  · exact ⟨none, rfl, rfl, rfl, (List.append_nil _).symm⟩
  · exact ⟨some lit, rfl, rfl, rfl, World.lights_put stage.world _⟩

/-- Setting lights one after another. -/
theorem lit_of_lightAll {color : Deck Handle Ear → Int → Int} {notes : List Int} {after : State}
    (grid : ∀ note ∈ notes, note ∈ gridNotes)
    (performed : perform (lightAll n color notes) stage = (.ok (), after)) :
    after.deck = stage.deck ∧ after.world.devices = stage.world.devices ∧
      ((stage.world.device n).outputOpen → ∀ channel, (stage.world.device n).channel = channel →
        after.world.lit channel =
            stage.world.lit channel ++ notes.map (fun note => (note, color stage.deck note)) ∧
          (notes ≠ [] → (stage.world.device n).Shines channel)) := by
  induction notes generalizing stage with
  | nil =>
    cases performed
    exact ⟨rfl, rfl, fun _ channel _ => ⟨by simp, by simp⟩⟩
  | cons note rest ih =>
    obtain ⟨first, others⟩ := List.forall_mem_cons.1 grid
    simp only [lightAll, perform_bind, Stage.perform_getDeck] at performed
    rcases lit : perform (light n note (color stage.deck note)) stage with ⟨failure | ⟨⟩, middle⟩
    all_goals
      rw [lit] at performed
      simp only at performed
    · cases performed
    · obtain ⟨shown, lights, deck, devices, grown⟩ := light_cases lit
      obtain ⟨deck', devices', rest⟩ := ih others performed
      refine ⟨deck'.trans deck, devices'.trans devices, fun opened channel same => ?_⟩
      obtain ⟨shines, rfl⟩ := Device.light_of_open opened first lights
      rw [World.device_congr devices, deck] at rest
      refine ⟨?_, fun _ => same ▸ shines⟩
      rw [(rest opened channel same).1, World.lit, grown, List.filterMap_append, List.map_cons]
      simp [Light.on?, same, World.lit]

/-- A controller that was opened with an open output port shows the colors of the deck. -/
theorem mirrors_of_openDevice (showable : stage.deck.Showable)
    (returned : perform (openDevice device inputs outputs) stage = (.ok n, opened))
    (outputOpen : (opened.world.device n).outputOpen) :
    Mirrors n (opened.world.device n).channel opened := by
  obtain ⟨listening, deck, synced⟩ := syncLights_of_openDevice returned
  obtain ⟨same, devices, lights⟩ := lit_of_lightAll (fun _ grid => grid) synced
  have still := World.device_congr devices n
  obtain ⟨lit, shines⟩ := lights (still ▸ outputOpen) _ (congrArg Device.channel still.symm)
  refine ⟨same.trans deck ▸ showable.listeners rfl, ?_, still ▸ shines (by decide), ?_⟩
  · rw [same, deck, heard, Listeners.of_on_self]
    exact List.mem_append_right _ (List.mem_singleton_self _)
  · intro note grid
    rw [lit, Led.last_append, Led.last_map, if_pos grid, same]
    rfl

end Open

section Goes

variable (around : Surroundings Handle Ear World)

/-- From a stage on, operations are asked for and messages come in, each of which may fail. Slots that
are loaded can be shown. In a pause the world goes on, but no light is lit. -/
inductive Goes (origin : State) : State → Prop where
  | begun : Goes origin origin
  | operation {stage : State} {operation : Operation} (goes : Goes origin stage)
      (quiet : operation.Quiet) : Goes origin (perform (operation.act around) stage).2
  | message {stage : State} (goes : Goes origin stage) (n : Nat) (message : Message) :
      Goes origin (perform (handleMessage around n message) stage).2
  | pause {stage : State} {world : World} (goes : Goes origin stage)
      (unlit : stage.world.Unlit world) : Goes origin { stage with world }

variable {around}

/-- A message leaves the deck as the operation that it asks for does. -/
theorem perform_handle (message : Message) (stage : State) :
    (perform (Controller.handle around message) stage).2 =
      match (Gesture.ofMessage? message).bind Gesture.operation? with
      | some operation => (perform (operation.act around) stage).2
      | none => stage := by
  have dropped : ∀ action : Work Unit,
      (perform (Act.dropOwn action) stage).2 = (perform action stage).2 := by
    intro action
    rw [Stage.perform_dropOwn]
    rcases perform action stage with ⟨failure | ⟨⟩, after⟩
    · by_cases own : failure.isOwn
      · simp [own]
      · simp [own]
    · rfl
  rw [Controller.handle, dropped]
  rcases Gesture.ofMessage? message with _ | _ | _ | _ | _
  all_goals rfl

theorem shines_changeDevice {world : World} {n m : Nat} {channel : Int} (message : Message)
    (shines : (world.device n).Shines channel) :
    ((world.changeDevice m (·.after message)).device n).Shines channel := by
  -- a message moves no port and no channel, whichever controller it comes from
  have kept : ∀ device : Device, device.Shines channel → (device.after message).Shines channel := by
    rintro device ⟨opened, same, inRange⟩
    unfold Device.after
    split <;> exact ⟨opened, same, inRange⟩
  unfold World.device at shines ⊢
  simp only [World.changeDevice, List.getElem?_modify]
  rcases found : world.devices[n]? with _ | device
  all_goals rw [found] at shines
  · exact shines
  · by_cases own : m = n
    · simpa [own] using kept device shines
    · simpa [own] using shines

variable {n : Nat} {channel : Int} {stage after : State}

theorem Mirrors.message (mirrors : Mirrors n channel stage) (spares : Spares around) (m : Nat)
    (message : Message) :
    Mirrors n channel (perform (handleMessage around m message) stage).2 := by
  obtain ⟨showable, hears, shines, lit⟩ := mirrors
  simp only [handleMessage, perform_bind, perform_changeWorld, perform_handle]
  -- first the controller notes whether shift is held
  have taken : Mirrors n channel
      { stage with world := stage.world.changeDevice m (·.after message) } :=
    ⟨showable, hears, shines_changeDevice message shines, lit⟩
  split
  next operation asked =>
    obtain ⟨gesture, -, asks⟩ := Option.bind_eq_some_iff.1 asked
    exact taken.operation spares (Gesture.quiet_of_operation? asks)
  next => exact taken

theorem Mirrors.goes (mirrors : Mirrors n channel stage) (spares : Spares around)
    (goes : Goes around stage after) : Mirrors n channel after := by
  induction goes with
  | begun => exact mirrors
  | operation _ quiet ih => exact ih.operation spares quiet
  | message _ m message ih => exact ih.message spares m message
  | pause _ unlit ih =>
    exact ⟨ih.showable, ih.hears, unlit.device n ▸ ih.shines, unlit.lit channel ▸ ih.lit⟩

end Goes

section Colors

variable {around : Surroundings Handle Ear World}
variable {bank : Bank} {catalog : Catalog} {listeners : Listeners Topic Ear} {world : World}
variable {steps : List (Step Handle Ear World)} {last reached opened after : State} {n : Nat}
variable {device : Device} {inputs outputs : Ports}

/-- From the moment that a controller is opened with an output port, the color that it gave a button
last is the color of the button's slot in the deck, whatever has been asked since and whichever of it
failed. -/
theorem lights_mirror_colors (spares : Spares around)
    (run : (Stage.fresh bank catalog listeners world).Runs around (fun _ _ => True) steps last)
    (quiet : ∀ slot ∈ lastTaken bank.slots steps, slot.Quiet)
    (pause : last.Pauses (fun _ _ => True) reached)
    (returned : perform (openDevice device inputs outputs) reached = (.ok n, opened))
    (outputOpen : (opened.world.device n).outputOpen) (goes : Goes around opened after) :
    ∀ note ∈ gridNotes,
      Led.last note (after.world.lit (opened.world.device n).channel) =
        some (after.deck.color note) := by
  have showable := ((Stage.showable_of_runs run).2 quiet).listeners pause.deck
  exact ((mirrors_of_openDevice showable returned outputOpen).goes spares goes).lit

private def twoColors : Bank :=
  ⟨[{ id := 3, code := "a", color := 5 }, { id := 5, code := "b", color := 13 }], "", "", by decide,
    by decide⟩

private def strict (startFails : Bool) : Player :=
  .rehearsal { rules := [[.has "?"]], startFails }

private def before : Step Handle Ear World :=
  let origin : State :=
    .fresh twoColors .empty {} { player := strict false, saving := .notebook true }
  let came := perform ((Operation.start 3).act (Rig.around true)) origin
  ⟨origin, .start 3, came.1, came.2⟩

private def attached : Except Failure Nat × State :=
  perform (openDevice {} ⟨[], true, true⟩ ⟨[outputPort], true, true⟩) before.after

private def work (operation : Operation) (stage : State) : State :=
  (perform (operation.act (Rig.around true)) stage).2

private def press (note : Int) (stage : State) : State :=
  (perform (handleMessage (Rig.around true) 0 (.noteOn note 1)) stage).2

private def restrict (startFails : Bool) (stage : State) : State :=
  { stage with world := { stage.world with player := strict startFails } }

private def struck : State :=
  restrict true (work (.updatePatternCode 3 "?") (work (.start 5) attached.2))

private def third : Slot := { id := 7, code := "c", color := 96 }

private def replaced : State :=
  press 7 (restrict false (work (.loadLibrary [third] none none) (press 3 struck)))

/-- All saves fail. A slot's new code is refused after the slot was stopped for it, the renderer fails
as another is started by its button, and a library is loaded under a light that is on. -/
theorem lights_after_refusals :
    struck.deck.color 5 = 13 ∧ replaced.deck.color 5 = Led.off ∧ replaced.deck.color 7 = 96 ∧
      ∀ note ∈ gridNotes, Led.last note (replaced.world.lit 0) = some (replaced.deck.color note) := by
  have opens : attached.1.toOption = some 0 ∧ (attached.2.world.device 0).outputOpen ∧
      (attached.2.world.device 0).channel = 0 := by decide +kernel
  obtain ⟨opens, outputOpen, channel⟩ := opens
  have returned : attached = (.ok 0, attached.2) := by
    rcases came : attached with ⟨failure | n, opened⟩
    all_goals
      rw [came] at opens
      cases opens
    rfl
  have quiet : ∀ slot ∈ twoColors.slots, slot.Quiet := by
    intro slot there
    simp only [twoColors, List.mem_cons, List.not_mem_nil, or_false] at there
    rcases there with rfl | rfl
    all_goals exact ⟨rfl, rfl⟩
  have loads : (Operation.loadLibrary [third] none none).Quiet := by
    rintro _ _ _ ⟨⟩ slot there
    rw [List.mem_singleton.1 there]
    exact ⟨rfl, rfl⟩
  have run : before.before.Runs (Rig.around true) (fun _ _ => True) [before] before.after :=
    Stage.Runs.begun.next ⟨rfl, trivial⟩ rfl
  have starts (id : Int) : (Operation.start id).Quiet := by rintro _ _ _ ⟨⟩
  have edits : (Operation.updatePatternCode 3 "?").Quiet := by rintro _ _ _ ⟨⟩
  -- for any stage, since the one at hand is not to be computed
  have turned {origin stage : State} {startFails : Bool}
      (goes : Goes (Rig.around true) origin stage) :
      Goes (Rig.around true) origin (restrict startFails stage) := goes.pause ⟨rfl, rfl⟩
  have first : Goes (Rig.around true) attached.2 struck :=
    turned ((Goes.begun.operation (starts 5)).operation edits)
  have goes : Goes (Rig.around true) attached.2 replaced :=
    (turned ((first.message 0 (.noteOn 3 1)).operation loads)).message 0 (.noteOn 7 1)
  have mirrored := lights_mirror_colors (spares_around true) run quiet ⟨rfl, trivial⟩ returned
    outputOpen goes
  rw [channel] at mirrored
  exact ⟨by decide +kernel, by decide +kernel, by decide +kernel, mirrored⟩

end Colors

end Rig

end PatternDeck
