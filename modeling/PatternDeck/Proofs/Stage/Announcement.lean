import PatternDeck.Proofs.Stage.Reckoning
import PatternDeck.Proofs.Stage.Tenure

/-!
Which parameters an operation tells of. Each operation on parameters is made for one of them, tells of
that one as it ends, and changes at most one thing besides: a knob that it gives to the one is taken from
the others that had it. Of those it tells nothing.
-/
namespace PatternDeck

/-- The parameter that listeners are told of, with its slot. -/
def Entry.tuned? {Handle : Type} : Entry Handle → Option (Int × Parameter)
  | .announced (.parameterChange id p) => some (id, p)
  | _ => none

theorem Entry.tuned?_of_nobody {Handle : Type} {entry : Entry Handle} (nobody : entry.subject? = none) :
    entry.tuned? = none := by
  unfold tuned?
  split
  · cases nobody
  · rfl

theorem Entry.mem_tuned {Handle : Type} {entries : List (Entry Handle)} {id : Int} {p : Parameter} :
    (id, p) ∈ entries.filterMap Entry.tuned? ↔ .announced (.parameterChange id p) ∈ entries := by
  rw [List.mem_filterMap]
  constructor
  · rintro ⟨entry, there, tuned⟩
    unfold tuned? at tuned
    split at tuned
    · cases tuned
      exact there
    · cases tuned
  · exact fun there => ⟨_, there, rfl⟩

/-- Two parameters of one name and label differ in something that there is a reason for. -/
theorem Parameter.Kept.reason {reasons : Reasons} {p q : Parameter} (kept : p.Kept reasons q)
    (differs : q ≠ p) : reasons.range p.name ∨ reasons.value p.name ∨ reasons.knob := by
  by_contra none
  simp only [not_or] at none
  obtain ⟨unranged, unvalued, unbound⟩ := none
  apply differs
  obtain ⟨_, _, _, _, _⟩ := p
  obtain ⟨_, _, _, _, _⟩ := q
  rw [Parameter.mk.injEq]
  exact ⟨kept.name, not_imp_comm.1 kept.value unvalued, not_imp_comm.1 kept.range unranged,
    not_imp_comm.1 kept.knob unbound, kept.label⟩

/-- The operation gives a knob that a parameter of a slot has to another parameter there. -/
def Operation.Dispossesses (operation : Operation) (id : Int) (p : Parameter) : Prop :=
  ∃ name index, operation.assigns? = some (id, name, some index) ∧ p.name ≠ name ∧
    p.knob.isIndex index

/-- A change of parameters that is made for the one of a name, with a knob if one is given to it. -/
structure Parameters.Retuned (old : Parameters) (name : String) (knob : Option Int) (p : Parameter)
    (new : Parameters) : Prop where
  seen : new.get? name = some p
  others : ∀ other q, other ≠ name → old.get? other = some q →
    new.get? other = some q ∨
      ∃ index, knob = some index ∧ q.knob.isIndex index ∧ new.get? other = some (q.withKnob .none)

namespace Parameters.Retuned

variable {ps old new : Parameters} {name : String} {knob : Option Int} {p : Parameter}

theorem of_grown (seen : new.get? name = some p) (grown : old.toList <+: new.toList) :
    old.Retuned name knob p new :=
  ⟨seen, fun _ _ _ found => .inl (get?_of_grown grown found)⟩

/-- Parameters that come before a change are changed no less. -/
theorem before (retuned : old.Retuned name knob p new) (grown : ps.toList <+: old.toList) :
    ps.Retuned name knob p new :=
  ⟨retuned.seen, fun other q differs found =>
    retuned.others other q differs (get?_of_grown grown found)⟩

theorem after (retuned : ps.Retuned name knob p old) (grown : old.toList <+: new.toList) :
    ps.Retuned name knob p new := by
  refine ⟨get?_of_grown grown retuned.seen, fun other q differs found => ?_⟩
  rcases retuned.others other q differs found with kept | ⟨index, given, drives, lost⟩
  · exact .inl (get?_of_grown grown kept)
  · exact .inr ⟨index, given, drives, get?_of_grown grown lost⟩

theorem modify {change : Parameter → Parameter} (seen : (ps.modify name change).get? name = some p) :
    ps.Retuned name knob p (ps.modify name change) := by
  refine ⟨seen, fun other q differs found => .inl ?_⟩
  have named := (get?_eq_some_iff.1 found).2
  rw [Parameters.modify, get?_map, found, Option.map_some, if_neg (named ▸ differs)]

theorem assigned (seen : (Binding.assigned ps name knob).get? name = some p) :
    ps.Retuned name knob p (Binding.assigned ps name knob) := by
  refine ⟨seen, fun other q differs found => ?_⟩
  have named := (get?_eq_some_iff.1 found).2
  rw [Binding.assigned, get?_map, found, Option.map_some, if_neg (named ▸ differs)]
  split
  next taken =>
    cases knob with
    | none => cases taken
    | some index => exact .inr ⟨index, rfl, taken, rfl⟩
  next => exact .inl rfl

end Parameters.Retuned

namespace Slot

variable {slot after : Slot} {now : Float} {name : String} {p : Parameter} {touched : List Int}
variable {knob : Option Int}

theorem Tunes.retuned {change : Except Failure (Parameters → Parameters)}
    (each : ∀ f, change = .ok f → ∀ p, (f slot.parameters).get? name = some p →
      slot.parameters.Retuned name knob p (f slot.parameters))
    (tunes : slot.Tunes now name change (.ok p) after touched) :
    slot.parameters.Retuned name knob p after.parameters := by
  cases tunes with
  | tuned allowed known seen => exact each _ allowed _ seen

theorem retuned_of_binding
    (tunes : slot.Tunes now name (Binding.binding name knob) (.ok p) after touched) :
    slot.parameters.Retuned name knob p after.parameters := by
  refine tunes.retuned fun f allowed p seen => ?_
  obtain ⟨-, rfl⟩ := Binding.binding_eq_ok allowed
  exact .assigned seen

theorem Binds.retuned (binds : slot.Binds now name knob (.ok p) after touched) :
    slot.parameters.Retuned name knob p after.parameters := by
  cases binds with
  | unbound free seen => exact .of_grown seen (List.prefix_refl _)
  | bound given tunes => exact retuned_of_binding tunes

theorem Adds.retuned {catalog : Catalog}
    (adds : slot.Adds now name catalog knob (.ok p) after touched) :
    slot.parameters.Retuned name knob p after.parameters := by
  cases adds with
  | used listed _ binds =>
    obtain rfl := Catalog.name_of_find? listed
    exact binds.retuned.before (slot.parameters.toList_prefix_merge _)
  | appended listed _ seeded binds =>
    obtain rfl := Catalog.name_of_find? listed
    -- the parameter that the entry starts with comes last
    refine binds.retuned.before ?_
    rcases slot.seeded_eq_ok seeded with ⟨-, rfl⟩ | ⟨q, -, rfl⟩
    · exact List.prefix_refl _
    · exact slot.parameters.toList_prefix_add q

end Slot

namespace Stage

open Act

variable {Handle Listener World : Type} (around : Surroundings Handle Listener World)
variable (stage : Stage Handle Listener World)

/-- An operation that was made for one parameter of a slot told of that one, and of no other. -/
structure Announces (id : Int) (name : String) (knob : Option Int)
    (entries : List (Entry Handle)) (before after : Stage Handle Listener World) : Prop where
  retuned : ∃ old new p, before.deck.bank.find? id = some old ∧ after.deck.bank.find? id = some new ∧
    old.parameters.Retuned name knob p new.parameters ∧ entries.filterMap Entry.tuned? = [(id, p)]

section Announces

variable {outcome : Except Failure Unit} {after : Stage Handle Listener World} {id : Int}
variable {p : Parameter} {rebuilds : Bool}

theorem Follows.announced (present : stage.deck.Present) {slot : Slot}
    (found : stage.deck.bank.find? id = some slot)
    (follows : Follows around stage id p rebuilds outcome after) :
    ∃ entries, after.journal = stage.journal ++ entries ∧
      entries.filterMap Entry.tuned? = [(id, p)] := by
  let first := stage.told around (.parameterChange id p)
  obtain ⟨tells, told, -, telling⟩ := current_toldState around first found
  obtain ⟨saves, saved, -, saving⟩ :=
    journal_saved_of_find? around (first.toldState around id) (by rwa [deck_toldState])
  have quiet : ∀ entry ∈ tells, entry.tuned? = none := by
    intro entry there
    rw [telling entry there]
    rfl
  have unsaid : ∀ entry ∈ saves, entry.tuned? = none := by
    intro entry there
    obtain ⟨outcome, rfl⟩ := saving entry there
    rfl
  have grown : (stage.toldParameter around id p).journal =
      stage.journal ++ ([.announced (.parameterChange id p)] ++ tells ++ saves) := by
    rw [toldParameter, saved, told]
    simp [first]
  have present : (stage.toldParameter around id p).deck.Present := by rwa [deck_toldParameter]
  -- what comes after it is about no slot
  have rest : Confined [] (stage.toldParameter around id p) after →
      ∃ entries, after.journal = stage.journal ++ entries ∧
        entries.filterMap Entry.tuned? = [(id, p)] := by
    intro confined
    obtain ⟨more, grown', within⟩ := confined.grown
    have nobody : ∀ entry ∈ more, entry.tuned? = none := fun entry there =>
      Entry.tuned?_of_nobody (Option.eq_none_iff_forall_ne_some.2 fun other about =>
        List.not_mem_nil (within entry there other about))
    refine ⟨_, by rw [grown', grown, List.append_assoc], ?_⟩
    simp only [List.filterMap_append, List.filterMap_eq_nil_iff.2 quiet,
      List.filterMap_eq_nil_iff.2 unsaid, List.filterMap_eq_nil_iff.2 nobody]
    rfl
  cases follows with
  | quiet => exact rest .refl
  | @failed _ ended _ _ rebuilt =>
    have tried : Confined [] _ ended := confined_rebuilt around _ present rebuilt
    exact rest (tried.trans (confined_told around _ (by simp [Entry.subject?])))
  | rebuilt _ _ rebuilt => exact rest (confined_rebuilt around _ present rebuilt)

theorem unsaid_touched (noted : List Int) :
    (noted.map Entry.touched : List (Entry Handle)).filterMap Entry.tuned? = [] := by
  rw [List.filterMap_eq_nil_iff]
  intro entry there
  obtain ⟨id, -, rfl⟩ := List.mem_map.1 there
  rfl

/-- An edit that is made for one parameter of a slot, and may give it a knob. -/
def Retunes (id : Int) (name : String) (knob : Option Int) (change : Float → Edit Parameter) : Prop :=
  ∀ bank slot, slot.id = id → slot.id ∈ bank.ids → ∀ now,
    Binding.Comes bank slot [] (change now) fun came changed noted =>
      slot.Tidy now came changed noted ∧
        ∀ p, came = .ok p → slot.parameters.Retuned name knob p changed.parameters

theorem retunes_assign (name : String) (knob : Option Int) :
    Retunes id name knob fun now => Binding.assign now id name knob := by
  rintro bank slot rfl member now
  apply (Binding.perform_assign member [] now name knob).mono
  intro came changed noted tunes
  refine ⟨Slot.tidy_of_binding tunes, ?_⟩
  rintro p rfl
  exact Slot.retuned_of_binding tunes

theorem retunes_setRange (name : String) (lo hi : Float) :
    Retunes id name none fun now => Binding.setRange now id name lo hi := by
  rintro bank slot rfl member now
  apply (Binding.perform_setRange member [] now name lo hi).mono
  intro came changed noted tunes
  refine ⟨Slot.tidy_of_ranging tunes, ?_⟩
  rintro p rfl
  refine tunes.retuned fun f allowed p seen => ?_
  obtain ⟨range, -, rfl⟩ := Binding.ranging_eq_ok allowed
  exact .modify seen

theorem retunes_setValue (name : String) (value : Float) :
    Retunes id name none fun now => Binding.setValue now id name value := by
  rintro bank slot rfl member now
  apply (Binding.perform_setValue member [] now name value).mono
  intro came changed noted tunes
  refine ⟨Slot.tidy_of_valuing tunes, ?_⟩
  rintro p rfl
  refine tunes.retuned fun f allowed p seen => ?_
  cases allowed
  exact .modify seen

theorem retunes_addFromCatalog (catalog : Catalog) (name : String) (knob : Option Int) :
    Retunes id name knob fun now => Binding.addFromCatalog catalog now id name knob := by
  rintro bank slot rfl member now
  apply (Binding.perform_addFromCatalog member [] now name catalog knob).mono
  intro came changed noted adds
  refine ⟨adds.tidy, ?_⟩
  rintro p rfl
  exact adds.retuned

theorem announces_of_changeParameter {change : Float → Edit Parameter} {name : String}
    {knob : Option Int} (retunes : Retunes id name knob change)
    (keeps : ∀ now, Keeps flags (change now)) (present : stage.deck.Present)
    (performed : perform (discard (changeParameter around id rebuilds change)) stage =
      (.ok (), after)) :
    ∃ entries, after.journal = stage.journal ++ entries ∧
      Announces id name knob entries stage after := by
  obtain ⟨slot, p, tuned, noted, found, ⟨tidy, retuned⟩, there, journal, -, still, follows⟩ :=
    follows_of_changeParameter around stage retunes And.left keeps present (by simp) performed
  obtain ⟨entries, grown, announced⟩ := follows.announced around _ still there
  obtain ⟨new, -, found', -, gains, -⟩ := follows.known around _ still there (tidy.seen p rfl)
  refine ⟨noted.map .touched ++ entries, by rw [grown, journal, List.append_assoc],
    ⟨slot, new, p, found, found', ?_, ?_⟩⟩
  · have refreshed := (retuned p rfl).before (slot.parameters.toList_prefix_merge _)
    exact refreshed.after gains.parameters
  · rw [List.filterMap_append, unsaid_touched, announced, List.nil_append]

theorem announces_of_turnKnob {knob ticks : Int} {slot : Slot} (present : stage.deck.Present)
    (chosen : stage.deck.selected = some id) (found : stage.deck.bank.find? id = some slot)
    (first : slot.parameters.drivenBy? knob = some p)
    (performed : perform (turnKnob around knob ticks) stage = (.ok (), after)) :
    ∃ entries, after.journal = stage.journal ++ entries ∧
      Announces id p.name none entries stage after := by
  have drives : Selection.driven? stage.deck.bank stage.deck.selected knob = some (slot, p) := by
    simp [Selection.driven?, chosen, found, first]
  have turns := ends_of_perform (perform_turnKnob around stage knob ticks) performed
  have still := present_of_standing present (standing_turned around stage knob ticks)
  rcases perform_edit_turn around stage knob ticks with
    ⟨unmoved, idle, -⟩ | ⟨_, _, new, drives', -, moved, there, journal, -⟩
  · -- a turn that works and moves nothing is one of a knob that drives nothing
    cases turns with
    | turned driven => exact absurd driven (unmoved _)
    | idle undriven =>
      rw [idle undriven] at drives
      cases drives
  · rw [drives] at drives'
    cases drives'
    cases turns with
    | idle undriven =>
      rw [moved] at undriven
      cases undriven
    | turned driven follows =>
      rw [moved] at driven
      cases driven
      have follows := ends_of_perform
        (perform_parameterChanged around _ slot.id { p with value := new } true still) follows
      obtain ⟨entries, grown, announced⟩ := follows.announced around _ still there
      have seen : (slot.parameters.modify p.name fun p => { p with value := new }).get? p.name =
          some { p with value := new } := by
        have member := List.mem_of_find?_eq_some first
        rw [Parameters.modify, Parameters.get?_map,
          Parameters.get?_eq_some_iff.2 ⟨member, rfl⟩, Option.map_some, if_pos rfl]
      obtain ⟨after, -, found', -, gains, -⟩ :=
        follows.known around _ still there (Parameters.mem_names_of_get? seen)
      obtain rfl := Bank.id_of_find? found
      refine ⟨.touched slot.id :: entries, ?_, ⟨slot, after, _, found, found', ?_, announced⟩⟩
      · rw [grown, journal, List.append_assoc]
        rfl
      · exact Parameters.Retuned.after (.modify seen) gains.parameters

end Announces

section Reasons

variable {operation : Operation} {after : Stage Handle Listener World} {id : Int} {name : String}

/-- An operation that may change a parameter of a slot is made for one there, by its name. -/
theorem announces_of_reason (present : stage.deck.Present)
    (reason : (operation.reasons stage.deck id).range name ∨
      (operation.reasons stage.deck id).value name ∨ (operation.reasons stage.deck id).knob)
    (performed : perform (operation.act around) stage = (.ok (), after)) :
    ∃ own knob entries, after.journal = stage.journal ++ entries ∧
      Announces id own knob entries stage after ∧
      (∀ index, knob = some index → operation.assigns? = some (id, own, some index)) ∧
      ∀ other knob, operation.assigns? = some (id, other, knob) → other = own := by
  cases operation with
  | assignParameter other own knob =>
    obtain rfl : other = id := by simpa [Operation.reasons] using reason
    obtain ⟨entries, grown, announces⟩ := announces_of_changeParameter around stage
      (retunes_assign own knob) (fun now => (unseen_flags other).keeps_assign now own knob) present
      performed
    exact ⟨own, knob, entries, grown, announces, by simp [Operation.assigns?],
      by simp [Operation.assigns?]⟩
  | setParameterRange other own lo hi =>
    obtain ⟨rfl, -⟩ : other = id ∧ own = name := by simpa [Operation.reasons] using reason
    obtain ⟨entries, grown, announces⟩ := announces_of_changeParameter around stage
      (retunes_setRange own lo hi) (fun now => (unseen_flags other).keeps_setRange now own lo hi)
      present performed
    exact ⟨own, none, entries, grown, announces, by simp, by simp [Operation.assigns?]⟩
  | setParameterValue other own value =>
    obtain ⟨rfl, -⟩ : other = id ∧ own = name := by simpa [Operation.reasons] using reason
    obtain ⟨entries, grown, announces⟩ := announces_of_changeParameter around stage
      (retunes_setValue own value) (fun now => (unseen_flags other).keeps_setValue now own value)
      present performed
    exact ⟨own, none, entries, grown, announces, by simp, by simp [Operation.assigns?]⟩
  | addCatalogParameter other own knob =>
    obtain rfl : other = id := by simpa [Operation.reasons] using reason
    rw [Operation.act, perform_discard, perform_addCatalogParameter, ← perform_discard] at performed
    obtain ⟨entries, grown, announces⟩ := announces_of_changeParameter around stage
      (retunes_addFromCatalog stage.deck.catalog own knob)
      (fun now => (unseen_flags other).keeps_addFromCatalog stage.deck.catalog now own knob) present
      performed
    exact ⟨own, knob, entries, grown, announces, by simp [Operation.assigns?],
      by simp [Operation.assigns?]⟩
  | turnKnob knob ticks =>
    obtain ⟨chosen, slot, found, p, driven, -⟩ : stage.deck.selected = some id ∧
        ∃ slot, stage.deck.bank.find? id = some slot ∧
          ∃ p, slot.parameters.drivenBy? knob = some p ∧ p.name = name := by
      simpa [Operation.reasons] using reason
    obtain ⟨entries, grown, announces⟩ :=
      announces_of_turnKnob around stage present chosen found driven performed
    exact ⟨p.name, none, entries, grown, announces, by simp, by simp [Operation.assigns?]⟩
  | _ => simp [Operation.reasons] at reason

/-- Of the parameters that differ, the one that was told of is the one that the operation was made for;
the others lost the knob that it was given. -/
theorem Announces.told_iff {entries : List (Entry Handle)} {own : String} {knob : Option Int}
    {old new : Slot} {p q : Parameter} (announces : Announces id own knob entries stage after)
    (gives : ∀ index, knob = some index → operation.assigns? = some (id, own, some index))
    (names : ∀ other knob, operation.assigns? = some (id, other, knob) → other = own)
    (before : stage.deck.bank.find? id = some old) (later : after.deck.bank.find? id = some new)
    (known : old.parameters.get? name = some p) (still : new.parameters.get? name = some q)
    (differs : q ≠ p) :
    (.announced (.parameterChange id q) ∈ entries ↔ ¬operation.Dispossesses id p) ∧
      (¬operation.Dispossesses id p → entries.filterMap Entry.tuned? = [(id, q)]) ∧
      (operation.Dispossesses id p → q = p.withKnob .none) := by
  obtain ⟨_, _, r, before', later', retuned, told⟩ := announces
  rw [before] at before'
  rw [later] at later'
  cases before'
  cases later'
  have named := (Parameters.get?_eq_some_iff.1 known).2
  by_cases same : name = own
  · subst same
    obtain rfl : q = r := Option.some.inj (still.symm.trans retuned.seen)
    have kept : ¬operation.Dispossesses id p := by
      rintro ⟨other, index, asked, apart, -⟩
      exact apart (named.trans (names other _ asked).symm)
    have there : .announced (.parameterChange id q) ∈ entries :=
      Entry.mem_tuned.1 (told ▸ List.mem_singleton_self _)
    exact ⟨iff_of_true there kept, fun _ => told, fun lost => absurd lost kept⟩
  · rcases retuned.others name p same known with kept | ⟨index, given, drives, lost⟩
    · rw [still] at kept
      exact absurd (Option.some.inj kept) differs
    · rw [still] at lost
      have dispossesses : operation.Dispossesses id p :=
        ⟨own, index, gives index given, fun same' => same (named.symm.trans same'), drives⟩
      refine ⟨iff_of_false (fun there => ?_) (not_not_intro dispossesses),
        fun kept => absurd dispossesses kept, fun _ => Option.some.inj lost⟩
      -- the only one that was told of has the other name
      have only := Entry.mem_tuned.2 there
      rw [told, List.mem_singleton, Prod.mk.injEq] at only
      rw [only.2] at still
      have seen := (Parameters.get?_eq_some_iff.1 retuned.seen).2
      exact same ((Parameters.get?_eq_some_iff.1 still).2.symm.trans seen)

end Reasons

section History

variable (bank : Bank) (catalog : Catalog) (listeners : Listeners Topic Listener) (world : World)
variable (operations : List Operation)

/-- After an operation that works, a parameter that differs is the one that the listeners were told of, as
it is now, if and only if its knob was not given to another parameter; then the knob is all that it
lost. -/
theorem announced_iff_of_history :
    ∀ step ∈ history around (fresh bank catalog listeners world) operations,
      (∀ slots name version, step.operation ≠ .loadLibrary slots name version) →
      step.outcome = .ok () →
      step.after.journal = step.before.journal ++ step.entries ∧
      ∀ id old, step.before.deck.bank.find? id = some old →
        ∃ new, step.after.deck.bank.find? id = some new ∧
          ∀ name p, old.parameters.get? name = some p →
            ∃ q, new.parameters.get? name = some q ∧
              (q ≠ p →
                (.announced (.parameterChange id q) ∈ step.entries ↔
                  ¬step.operation.Dispossesses id p) ∧
                (¬step.operation.Dispossesses id p →
                  step.entries.filterMap Entry.tuned? = [(id, q)]) ∧
                (step.operation.Dispossesses id p → q = p.withKnob .none)) := by
  intro step taken stays worked
  have placed := (placed_of_history around bank catalog listeners world operations step taken).1
  have marked := marked_of_history around bank catalog listeners world operations step taken
  have performed := perform_of_mem_history around _ operations taken
  obtain ⟨grown, -⟩ := accounts_of_step placed marked performed stays
  refine ⟨grown, fun id old found => ?_⟩
  have evolved := evolved_of_operation around step.before step.operation placed stays
  rw [performed] at evolved
  have slots := evolved.slots id
  rw [found] at slots
  generalize after : step.after.deck.bank.find? id = seen at slots
  rcases slots with @⟨_, new, changed⟩ | _
  refine ⟨new, rfl, fun name p known => ?_⟩
  obtain rfl := Bank.id_of_find? found
  obtain ⟨q, known', kept⟩ := changed.kept.each name p known
  refine ⟨q, known', fun differs => ?_⟩
  have reason := kept.reason differs
  rw [(Parameters.get?_eq_some_iff.1 known).2] at reason
  rw [worked] at performed
  obtain ⟨own, knob, entries', grown', announces, gives, names⟩ :=
    announces_of_reason around step.before placed.present reason performed
  obtain rfl : entries' = step.entries := List.append_cancel_left (grown'.symm.trans grown)
  exact announces.told_iff step.before gives names found after known known' differs

private def twoPlaceholders : Bank :=
  ⟨[{ id := 3, code := "$a $b" }], "", "", by decide, by decide⟩

private def knobTaken : Step Nat Empty Nat :=
  (history (.refusing fun _ => false) (fresh twoPlaceholders .empty {} 0)
    [.assignParameter 3 "a" (some 0), .assignParameter 3 "b" (some 0)]).get ⟨1, by decide +kernel⟩

private def knobOf? (stage : Stage Nat Empty Nat) (name : String) : Option Bool :=
  ((stage.deck.bank.find? 3).bind (·.parameters.get? name)).map (·.knob.isIndex 0)

private theorem knob_of_knobOf? {stage : Stage Nat Empty Nat} {slot : Slot} (name : String)
    (drives : Bool) (found : stage.deck.bank.find? 3 = some slot)
    (shown : knobOf? stage name = some drives) :
    ∃ p, slot.parameters.get? name = some p ∧ p.knob.isIndex 0 = drives := by
  simpa [knobOf?, found, Option.map_eq_some_iff] using shown

/-- A knob goes from one parameter to another: the one that gets it is told of, the one that had it is
not. -/
theorem knob_taken_untold :
    knobTaken.operation.assigns? = some (3, "b", some 0) ∧ ∃ old new a b a' b',
      knobTaken.before.deck.bank.find? 3 = some old ∧ knobTaken.after.deck.bank.find? 3 = some new ∧
      old.parameters.get? "a" = some a ∧ old.parameters.get? "b" = some b ∧
      new.parameters.get? "a" = some a' ∧ new.parameters.get? "b" = some b' ∧ a' ≠ a ∧ b' ≠ b ∧
      knobTaken.entries.filterMap Entry.tuned? = [(3, b')] ∧
      .announced (.parameterChange 3 a') ∉ knobTaken.entries := by
  have asked : knobTaken.operation.assigns? = some (3, "b", some 0) := by decide +kernel
  have worked : knobTaken.outcome = .ok () := eq_ok_of_isOk (by decide +kernel)
  obtain ⟨-, each⟩ := announced_iff_of_history (.refusing fun _ => false) twoPlaceholders .empty {} 0
    [.assignParameter 3 "a" (some 0), .assignParameter 3 "b" (some 0)] knobTaken (List.get_mem _ _)
    (by
      intro slots name version same
      rw [same] at asked
      cases asked) worked
  obtain ⟨old, before⟩ : ∃ old, knobTaken.before.deck.bank.find? 3 = some old :=
    Option.isSome_iff_exists.1 (by decide +kernel)
  obtain ⟨new, after, params⟩ := each 3 old before
  obtain ⟨a, knownA, drivenA⟩ := knob_of_knobOf? "a" true before (by decide +kernel)
  obtain ⟨b, knownB, drivenB⟩ := knob_of_knobOf? "b" false before (by decide +kernel)
  obtain ⟨a', stillA, drivenA'⟩ := knob_of_knobOf? "a" false after (by decide +kernel)
  obtain ⟨b', stillB, drivenB'⟩ := knob_of_knobOf? "b" true after (by decide +kernel)
  have differsA : a' ≠ a := by
    rintro rfl
    rw [drivenA] at drivenA'
    cases drivenA'
  have differsB : b' ≠ b := by
    rintro rfl
    rw [drivenB] at drivenB'
    cases drivenB'
  obtain ⟨q, seenA, toldA⟩ := params "a" a knownA
  obtain rfl : a' = q := Option.some.inj (stillA.symm.trans seenA)
  obtain ⟨q, seenB, toldB⟩ := params "b" b knownB
  obtain rfl : b' = q := Option.some.inj (stillB.symm.trans seenB)
  have namedA : a.name = "a" := (Parameters.get?_eq_some_iff.1 knownA).2
  have namedB : b.name = "b" := (Parameters.get?_eq_some_iff.1 knownB).2
  have lost : knobTaken.operation.Dispossesses 3 a :=
    ⟨"b", 0, asked, by rw [namedA]; decide, drivenA⟩
  have kept : ¬knobTaken.operation.Dispossesses 3 b := by
    rintro ⟨name, index, asked', apart, -⟩
    rw [asked] at asked'
    cases asked'
    exact apart namedB
  exact ⟨asked, old, new, a, b, a', b', before, after, knownA, knownB, stillA, stillB, differsA,
    differsB, (toldB differsB).2.1 kept, fun told => (toldA differsA).1.1 told lost⟩

end History

end Stage

end PatternDeck
