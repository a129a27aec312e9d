import PatternDeck.Rig.World

/-!
What calls on the rig's world do to it. A call on the renderer may leave another renderer, and is
written down; a listener may light a button. What all of them leave alone follows from that.
-/
namespace PatternDeck.Rig

open Renderer

def Output.light? : Output → Option Controller.Light
  | .light lit => some lit
  | _ => none

/-- The light that a listener lights when it is told of an event. -/
def Ear.light? (world : World) : Ear → Event → Option Controller.Light
  | .device n, .indicator slot color =>
    match (world.device n).light slot color with
    | .ok light => light
    | .error _ => none
  | _, _ => none

namespace World

/-- The lights that were lit, in order. -/
def lights (world : World) : List Controller.Light := world.output.filterMap Output.light?

theorem lights_put (world : World) (output : Output) :
    (world.put output).lights = world.lights ++ output.light?.toList := by
  rw [lights, put, List.filterMap_append]
  cases lit : output.light? <;> simp [lights, lit]

/-- A call that lights nothing: the renderer may be another one then, and the call is written down. -/
def Called (world after : World) : Prop :=
  ∃ player outputs, after = { world with player, output := world.output ++ outputs } ∧
    ∀ output ∈ outputs, output.light? = none

namespace Called

variable {world after : World}

theorem refl : Called world world := ⟨world.player, [], by rw [List.append_nil], by simp⟩

theorem put {output : Output} (dark : output.light? = none) : Called world (world.put output) :=
  ⟨world.player, [output], rfl, List.forall_mem_singleton.2 dark⟩

theorem lights (called : Called world after) : after.lights = world.lights := by
  obtain ⟨player, outputs, rfl, dark⟩ := called
  rw [World.lights, List.filterMap_append, List.filterMap_eq_nil_iff.2 dark, List.append_nil]
  rfl

theorem devices (called : Called world after) : after.devices = world.devices := by
  obtain ⟨player, outputs, rfl, -⟩ := called
  rfl

variable (world)

theorem send (down : Bool) (message : Osc.Message) :
    Called world (World.send down message world).2 := by
  unfold World.send
  split
  all_goals exact put rfl

theorem compile (program : String) : Called world (World.compile program world).2 := by
  unfold World.compile
  split
  next => split <;> exact put rfl
  next =>
    split
    next remote _ => exact ⟨_, [], by rw [List.append_nil], by simp⟩
    next => exact refl

theorem start (handle : Handle) : Called world (World.start handle world).2 := by
  unfold World.start
  split
  · exact put rfl
  · exact send world _ _

theorem stop (handle : Handle) : Called world (World.stop handle world).2 := by
  unfold World.stop
  split
  · exact put rfl
  · exact send world _ _

theorem hush : Called world (World.hush world).2 := by
  unfold World.hush
  split
  · exact put rfl
  · exact send world _ _

theorem sendFrom (n : Nat) (message : Osc.Message) : Called world (world.sendFrom n message) := by
  simp only [World.sendFrom]
  split
  · exact send world _ _
  · exact refl

end Called

/-- A listener lights its button, or calls on something else. -/
theorem hear_cases (ear : Ear) (event : Event) (deck : Deck Handle Ear) (world : World) :
    (∃ light, ear.light? world event = some light ∧
        (hear ear event deck world).2 = world.put (.light light)) ∨
      ear.light? world event = none ∧ Called world (hear ear event deck world).2 := by
  have nothing : Called world world := .refl
  cases ear with
  | observer | broken => exact .inr ⟨rfl, nothing⟩
  | device n =>
    cases event with
    | indicator slot color =>
      simp only [Ear.light?, hear]
      rcases (world.device n).light slot color with failure | _ | light
      · exact .inr ⟨rfl, nothing⟩
      · exact .inr ⟨rfl, nothing⟩
      · exact .inl ⟨light, rfl, rfl⟩
    | _ => exact .inr ⟨rfl, nothing⟩
  | playing n =>
    cases event with
    | indicator slot color => exact .inr ⟨rfl, .sendFrom world n _⟩
    | _ => exact .inr ⟨rfl, nothing⟩
  | errors n =>
    cases event with
    | error slot failure => exact .inr ⟨rfl, .sendFrom world n _⟩
    | _ => exact .inr ⟨rfl, nothing⟩

end World

end PatternDeck.Rig
