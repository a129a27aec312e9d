import PatternDeck.Proofs.Stage.Atomicity
import PatternDeck.Proofs.Stage.Reading

/-!
Changes of one parameter as they end: whether the time was noted, what the slot has, and that it was told
of and saved before the rebuild.
-/
namespace PatternDeck

namespace Slot

variable {slot after : Slot} {now : Float} {name : String} {outcome : Except Failure Parameter}
variable {touched : List Int}

/-- What the ends of every change of a slot's parameters have in common. -/
structure Tidy (slot : Slot) (now : Float) (outcome : Except Failure Parameter) (after : Slot)
    (touched : List Int) : Prop where
  id_eq : after.id = slot.id
  own : ∀ id ∈ touched, id = slot.id
  names : slot.parameters.names ⊆ after.parameters.names
  seen : ∀ p, outcome = .ok p → p.name ∈ after.parameters.names
  /-- A change that was made is noted, unless nothing was to be changed. -/
  done : ∀ p, outcome = .ok p →
    slot.Gains after ∧ touched = [] ∨ slot.id ∈ touched ∧ after.modified = .at now
  kind : ∀ failure, outcome = .error failure → failure.kind ≠ .evaluation

theorem Tunes.tidy {change : Except Failure (Parameters → Parameters)}
    (kind : ∀ failure, change = .error failure → failure.kind ≠ .evaluation)
    (names : ∀ f, change = .ok f → (f slot.parameters).names = slot.parameters.names)
    (tunes : slot.Tunes now name change outcome after touched) :
    slot.Tidy now outcome after touched := by
  cases tunes with
  | refused refusal =>
    refine ⟨rfl, by simp, fun _ there => there, by simp, by simp, ?_⟩
    rintro _ ⟨⟩
    exact kind _ refusal
  | unknown =>
    refine ⟨rfl, by simp, fun _ there => there, by simp, by simp, ?_⟩
    rintro _ ⟨⟩
    simp [Failure.kind]
  | tuned allowed known seen =>
    refine ⟨rfl, by simp, (names _ allowed).symm ▸ fun _ there => there, ?_, ?_, by simp⟩
    · rintro _ ⟨⟩
      exact Parameters.mem_names_of_get? seen
    · exact fun _ _ => .inr ⟨List.mem_singleton_self _, rfl⟩

theorem tidy_of_binding {knob : Option Int}
    (tunes : slot.Tunes now name (Binding.binding name knob) outcome after touched) :
    slot.Tidy now outcome after touched := by
  refine tunes.tidy (fun failure refusal => ?_) fun f allowed => ?_
  · unfold Binding.binding at refusal
    split at refusal
    · split at refusal
      · cases refusal
        simp [Failure.kind]
      · cases refusal
    · cases refusal
  · obtain ⟨-, rfl⟩ := Binding.binding_eq_ok allowed
    exact Parameters.names_assigned _ name knob

theorem tidy_of_ranging {lo hi : Float}
    (tunes : slot.Tunes now name (Binding.ranging name lo hi) outcome after touched) :
    slot.Tidy now outcome after touched := by
  refine tunes.tidy (fun failure refusal => ?_) fun f allowed => ?_
  · unfold Binding.ranging at refusal
    split at refusal
    · cases refusal
    · cases refusal
      simp [Failure.kind]
  · obtain ⟨range, -, rfl⟩ := Binding.ranging_eq_ok allowed
    exact Parameters.names_modify _ name _

theorem tidy_of_valuing {value : Float}
    (tunes : slot.Tunes now name (Binding.valuing name value) outcome after touched) :
    slot.Tidy now outcome after touched := by
  refine tunes.tidy (by simp [Binding.valuing]) fun f allowed => ?_
  cases allowed
  exact Parameters.names_modify _ name _

theorem kind_of_seeded {entry : Catalog.Entry} {failure : Failure}
    (refusal : slot.seeded entry = .error failure) : failure.kind = .value := by
  unfold seeded at refusal
  split at refusal
  · cases refusal
  · unfold Binding.seed at refusal
    split at refusal
    · cases refusal
    · cases refusal
      rfl

theorem Binds.tidy {knob : Option Int} (binds : slot.Binds now name knob outcome after touched) :
    slot.Tidy now outcome after touched := by
  cases binds with
  | unbound free seen =>
    refine ⟨rfl, by simp, fun _ there => there, ?_, fun _ _ => .inl ⟨.refl slot, rfl⟩, by simp⟩
    rintro _ ⟨⟩
    exact Parameters.mem_names_of_get? seen
  | bound given tunes => exact tidy_of_binding tunes

theorem names_of_seeded {entry : Catalog.Entry} {parameters : Parameters}
    (seeded : slot.seeded entry = .ok parameters) : slot.parameters.names ⊆ parameters.names := by
  rcases slot.seeded_eq_ok seeded with ⟨-, rfl⟩ | ⟨p, -, rfl⟩
  · exact fun _ there => there
  · exact (Parameters.names_prefix (slot.parameters.toList_prefix_add p)).subset

theorem Adds.tidy {catalog : Catalog} {knob : Option Int}
    (adds : slot.Adds now name catalog knob outcome after touched) :
    slot.Tidy now outcome after touched := by
  cases adds with
  | unlisted =>
    refine ⟨rfl, by simp, fun _ there => there, by simp, by simp, ?_⟩
    rintro _ ⟨⟩
    simp [Failure.kind]
  | unseeded _ _ refusal =>
    refine ⟨rfl, by simp, fun _ there => there, by simp, by simp, ?_⟩
    rintro _ ⟨⟩
    simp [kind_of_seeded refusal]
  | used _ _ binds =>
    obtain ⟨same, own, names, seen, done, kind⟩ := binds.tidy
    have grown := Gains.refreshed slot
    refine ⟨same, own, fun _ there => names (grown.names there), seen, ?_, kind⟩
    intro p returned
    exact (done p returned).imp_left (And.imp_left grown.trans)
  | appended _ _ seeded binds =>
    obtain ⟨same, own, names, seen, done, kind⟩ := binds.tidy
    refine ⟨same, List.forall_mem_cons.2 ⟨rfl, own⟩, ?_, seen, ?_, kind⟩
    · exact fun _ there => names (names_of_seeded seeded there)
    · intro p returned
      refine .inr ⟨List.mem_cons_self, ?_⟩
      -- the time was noted when the fragment was put after the code, or again when the knob was bound
      rcases done p returned with ⟨gains, -⟩ | ⟨-, stamped⟩
      · exact gains.modified
      · exact stamped

end Slot

namespace Stage

open Act

variable {Handle Listener World : Type} (around : Surroundings Handle Listener World)
variable (stage : Stage Handle Listener World)

section Parameter

variable {origin : Deck Handle Listener} {operation : Operation} {p : Parameter} {rebuilds : Bool}
variable {outcome : Except Failure Unit} {after : Stage Handle Listener World} {id : Int}

/-- A slot of which a parameter was changed is told of and saved before the rebuild. -/
theorem Follows.known (present : stage.deck.Present) {slot : Slot}
    (found : stage.deck.bank.find? id = some slot) (member : p.name ∈ slot.parameters.names)
    (follows : Follows around stage id p rebuilds outcome after) :
    ∃ new entries, after.deck.bank.find? id = some new ∧
      after.journal = stage.journal ++ entries ∧ slot.Gains new ∧
      Current Entry.shown? entries slot.parameters.names new ∧ slot.Filed around entries new := by
  let first := stage.told around (.parameterChange id p)
  obtain ⟨tells, told, current, filed⟩ := closed around first found
  have grown : (stage.toldParameter around id p).journal =
      stage.journal ++ ([.announced (.parameterChange id p)] ++ tells) := by
    rw [toldParameter, told]
    exact List.append_assoc ..
  have found' : (stage.toldParameter around id p).deck.bank.find? id = some slot := by
    rwa [deck_toldParameter]
  have present' : (stage.toldParameter around id p).deck.Present := by rwa [deck_toldParameter]
  have filed : slot.Filed around ([.announced (.parameterChange id p)] ++ tells) slot := by
    obtain rfl := Bank.id_of_find? found
    apply filed.after
    simpa [toldNames, Entry.toldName?] using member
  -- what the rebuild writes down is about no slot
  have rest : Confined [] (stage.toldParameter around id p) after →
      ∃ new entries, after.deck.bank.find? id = some new ∧
        after.journal = stage.journal ++ entries ∧ slot.Gains new ∧
        Current Entry.shown? entries slot.parameters.names new ∧ slot.Filed around entries new := by
    intro confined
    obtain ⟨new, found, gains⟩ := confined.found List.not_mem_nil found'
    obtain ⟨more, grown', within⟩ := confined.grown
    have silent := within.subject?_ne (List.not_mem_nil (a := slot.id))
    refine ⟨new, [.announced (.parameterChange id p)] ++ tells ++ more, found, ?_, gains, ?_, ?_⟩
    · rw [grown', grown, List.append_assoc]
    · exact (current.after _).later gains fun entry there => Entry.shown?_of_other (silent entry there)
    · exact filed.later gains silent
  cases follows with
  | quiet => exact rest .refl
  | @failed _ ended _ _ rebuilt =>
    have tried : Confined [] _ ended := confined_rebuilt around _ present' rebuilt
    exact rest (tried.trans (confined_told around _ (by simp [Entry.subject?])))
  | rebuilt _ _ rebuilt => exact rest (confined_rebuilt around _ present' rebuilt)

theorem within_touched {touched ids : List Int} (own : touched ⊆ ids) :
    Within ids (touched.map Entry.touched : List (Entry Handle)) := by
  intro entry there about shown
  obtain ⟨other, member, rfl⟩ := List.mem_map.1 there
  cases shown
  exact own member

theorem mute_touched (touched : List Int) :
    ∀ entry ∈ (touched.map Entry.touched : List (Entry Handle)), entry.Mute id := by
  intro entry there
  obtain ⟨other, -, rfl⟩ := List.mem_map.1 there
  exact ⟨rfl, rfl⟩

section Change

variable {change : Float → Edit Parameter}
variable {ends : Slot → Float → Except Failure Parameter → Slot → List Int → Prop}
variable (comes : ∀ bank slot, slot.id = id → slot.id ∈ bank.ids → ∀ now,
  Binding.Comes bank slot [] (change now) (ends slot now))
variable (tidy : ∀ {slot now came changed noted}, ends slot now came changed noted →
  slot.Tidy now came changed noted)
include comes tidy

/-- What an edit of a slot's parameters leaves: the slot as the edit ends, and the other slots alone. -/
theorem adjusted_of_comes {slot : Slot} (found : stage.deck.bank.find? id = some slot) :
    ∃ came tuned noted, ends slot.refreshed (around.clock stage.world) came tuned noted ∧
      (perform (change (around.clock stage.world))
        { bank := (stage.deck.refreshed id).bank }).1 = came ∧
      (stage.adjusted around id change).deck.bank.find? id = some tuned ∧
      (stage.adjusted around id change).journal = stage.journal ++ noted.map .touched ∧
      Confined [id] stage (stage.adjusted around id change) := by
  obtain rfl := Bank.id_of_find? found
  have again : (stage.deck.refreshed slot.id).bank.find? slot.refreshed.id = some slot.refreshed :=
    Bank.find?_modify_self found Slot.refreshed
  have present := mem_ids_refreshed stage found
  obtain ⟨came, tuned, noted, performed, ended⟩ :=
    comes _ slot.refreshed rfl present (around.clock stage.world)
  rw [Draft.of_eq again, List.nil_append] at performed
  have tidied := tidy ended
  have same : tuned.id = slot.id := tidied.id_eq
  have bank : (stage.adjusted around slot.id change).deck.bank =
      (stage.deck.refreshed slot.id).bank.put tuned := by
    simp only [adjusted, edited, performed, Draft.of]
  have journal : (stage.adjusted around slot.id change).journal =
      stage.journal ++ noted.map Entry.touched := by
    simp only [adjusted, edited, performed, Draft.of]
  refine ⟨came, tuned, noted, ended, by rw [performed], ?_, journal, ⟨_, journal, ?_⟩, ?_⟩
  · rw [bank, ← same]
    exact Bank.find?_put_self (same.symm ▸ present)
  · exact within_touched fun other there => List.mem_singleton.2 (tidied.own other there)
  · intro other differs
    have apart : other ≠ slot.id := fun same => differs (List.mem_singleton.2 same)
    rw [bank, Bank.find?_put_ne _ _ (same ▸ apart), Deck.refreshed, Bank.find?_modify_ne _ apart]
    exact option_gains_refl _

/-- A change of a parameter that is not refused is made, and then followed up. -/
theorem follows_of_changeParameter (keeps : ∀ now, Keeps flags (change now))
    (present : stage.deck.Present)
    (settled : ∀ failure, outcome = .error failure → failure.kind = .evaluation)
    (performed : perform (discard (changeParameter around id rebuilds change)) stage =
      (outcome, after)) :
    ∃ slot p tuned noted, stage.deck.bank.find? id = some slot ∧
      ends slot.refreshed (around.clock stage.world) (.ok p) tuned noted ∧
      (stage.adjusted around id change).deck.bank.find? id = some tuned ∧
      (stage.adjusted around id change).journal = stage.journal ++ noted.map .touched ∧
      Confined [id] stage (stage.adjusted around id change) ∧
      (stage.adjusted around id change).deck.Present ∧
      Follows around (stage.adjusted around id change) id p rebuilds outcome after := by
  have adjusts := perform_ends (perform_changeParameter around stage id rebuilds change)
  rw [perform_discard, Prod.mk.injEq] at performed
  obtain ⟨rfl, rfl⟩ := performed
  generalize perform (changeParameter around id rebuilds change) stage = came at adjusts settled
  obtain ⟨outcome, after⟩ := came
  have loaded : id ∈ stage.deck.bank.ids := by
    by_contra missing
    cases adjusts with
    | missing => cases settled _ rfl
    | refused loaded | rejected loaded | changed loaded => exact missing loaded
  obtain ⟨slot, found⟩ := Option.isSome_iff_exists.1 (Bank.isSome_find?.2 loaded)
  obtain ⟨came, tuned, noted, ended, performed, there, journal, confined⟩ :=
    adjusted_of_comes around stage comes tidy found
  have still := present_of_standing present (standing_adjusted around stage id keeps)
  -- an edit is not refused for a reason of the renderer's
  have refusal : ∀ {failure}, came = .error failure → outcome = .error failure → False := by
    intro failure refused failed
    exact (tidy ended).kind failure refused (settled failure (by rw [failed]; rfl))
  cases adjusts with
  | missing missing => exact absurd loaded missing
  | refused _ _ refused | rejected _ _ refused =>
    exact (refusal (performed.symm.trans refused) rfl).elim
  | @changed p outcome after _ changed follows =>
    obtain rfl : came = .ok p := performed.symm.trans changed
    have follows : Follows around _ id p rebuilds outcome after :=
      ends_of_perform (perform_parameterChanged around _ id p rebuilds still) follows
    refine ⟨slot, p, tuned, noted, found, ended, there, journal, confined, still, ?_⟩
    -- the parameter that is given back does not matter any more
    cases outcome <;> exact follows

end Change

section Knob

variable {knob ticks : Int}

/-- A knob's turn either moves a parameter of a slot and notes the time, or changes nothing. -/
theorem perform_edit_turn (knob ticks : Int) :
    ((∀ turned, (perform (stage.turn around knob ticks) { bank := stage.deck.bank }).1 ≠
          .ok (some turned)) ∧
        ((perform (stage.turn around knob ticks) { bank := stage.deck.bank }).1 = .ok none →
          Selection.driven? stage.deck.bank stage.deck.selected knob = none) ∧
        stage.edited (stage.turn around knob ticks) = stage) ∨
      ∃ slot p new, Selection.driven? stage.deck.bank stage.deck.selected knob = some (slot, p) ∧
        p.turned (.whole ticks) = .ok new ∧
        (perform (stage.turn around knob ticks) { bank := stage.deck.bank }).1 =
          .ok (some ⟨slot.id, { p with value := new }, p.value, new⟩) ∧
        (stage.edited (stage.turn around knob ticks)).deck.bank.find? slot.id =
          some { slot with
            parameters := slot.parameters.modify p.name fun p => { p with value := new }
            modified := .at (around.clock stage.world) } ∧
        (stage.edited (stage.turn around knob ticks)).journal = stage.journal ++ [.touched slot.id] ∧
        Confined [slot.id] stage (stage.edited (stage.turn around knob ticks)) := by
  have ends := perform_ends (Selection.perform_turn (around.clock stage.world) stage.deck.selected
    knob (.whole ticks) { bank := stage.deck.bank })
  rw [edited, turn]
  revert ends
  rcases perform (Selection.turn (around.clock stage.world) stage.deck.selected knob (.whole ticks))
    { bank := stage.deck.bank } with ⟨outcome, draft⟩
  intro ends
  cases ends with
  | idle undriven => exact .inl ⟨by simp, fun _ => undriven, by simp⟩
  | notANumber | tooLarge => exact .inl ⟨by simp, by simp, by simp⟩
  | @turned slot p new driven reached =>
    have found := Selection.find?_of_driven? driven
    have moved : (stage.deck.bank.modify slot.id fun slot => { slot with
        parameters := slot.parameters.modify p.name fun p => { p with value := new } }).find? slot.id =
          some { slot with
            parameters := slot.parameters.modify p.name fun p => { p with value := new } } :=
      Bank.find?_modify_self found _
    refine .inr ⟨slot, p, new, driven, reached, rfl, Bank.find?_modify_self moved _, rfl, ?_⟩
    have within : Within [slot.id] ([slot.id].map Entry.touched : List (Entry Handle)) :=
      within_touched (List.Subset.refl _)
    refine ⟨⟨[.touched slot.id], rfl, within⟩, ?_⟩
    intro other differs
    have other : other ≠ slot.id := fun same => differs (List.mem_singleton.2 same)
    simp only
    rw [Bank.find?_modify_ne _ other, Bank.find?_modify_ne _ other]
    exact option_gains_refl _

end Knob

end Parameter

end Stage

end PatternDeck
