import PatternDeck.Proofs.Binding
import PatternDeck.Proofs.Parameter.Lookup

/-!
What changing a parameter of a slot can come to. An edit works on one slot that is there, so its ends
are told of that slot alone: the outcome, the slot that it leaves, and the times that were noted.
Binding a knob and setting a range or a value check before they change anything. Adding from the
catalog does not: a fragment is put after the code before the range and the knob are looked at.
-/
namespace PatternDeck

theorem Catalog.mem_of_find? {catalog : Catalog} {name : String} {entry : Catalog.Entry}
    (listed : catalog.find? name = some entry) : entry ∈ catalog.entries :=
  List.mem_of_find?_eq_some listed

theorem Catalog.name_of_find? {catalog : Catalog} {name : String} {entry : Catalog.Entry}
    (listed : catalog.find? name = some entry) : entry.name = name := by
  simpa using List.find?_some listed

namespace Binding

/-- What binding a knob does to parameters, unless there is no such knob. -/
def binding (name : String) (knob : Option Int) : Except Failure (Parameters → Parameters) :=
  match knob with
  | some index =>
    if index < 0 ∨ knobCount ≤ index then .error (.knobOutOfRange index)
    else .ok (assigned · name knob)
  | none => .ok (assigned · name knob)

/-- What another range does to parameters, unless it is empty. -/
def ranging (name : String) (lo hi : Float) : Except Failure (Parameters → Parameters) :=
  match Range.of? lo hi with
  | some range => .ok (·.modify name (·.withRange range))
  | none => .error (.emptyRange lo hi)

def valuing (name : String) (value : Float) : Except Failure (Parameters → Parameters) :=
  .ok (·.modify name (·.withValue value))

theorem binding_eq_ok {name : String} {knob : Option Int} {change : Parameters → Parameters}
    (allowed : binding name knob = .ok change) :
    (∀ i ∈ knob, 0 ≤ i ∧ i < knobCount) ∧ change = (assigned · name knob) := by
  cases knob with
  | none =>
    cases allowed
    exact ⟨by simp, rfl⟩
  | some index =>
    simp only [binding] at allowed
    split at allowed
    next => cases allowed
    next inRange =>
      cases allowed
      refine ⟨fun i given => ?_, rfl⟩
      cases given
      omega

theorem ranging_eq_ok {name : String} {lo hi : Float} {change : Parameters → Parameters}
    (allowed : ranging name lo hi = .ok change) :
    ∃ range, Range.of? lo hi = some range ∧ change = (·.modify name (·.withRange range)) := by
  unfold ranging at allowed
  split at allowed
  next range proper =>
    cases allowed
    exact ⟨range, proper, rfl⟩
  next => cases allowed

theorem seed_eq_ok {entry : Catalog.Entry} {p : Parameter} (seeded : seed entry = .ok p) :
    ∃ range, Range.of? entry.lo entry.hi = some range ∧
      p = .create entry.name entry.default range .none entry.label := by
  unfold seed at seeded
  split at seeded
  next range proper =>
    cases seeded
    exact ⟨range, proper, rfl⟩
  next => cases seeded

theorem name_of_seed {entry : Catalog.Entry} {p : Parameter} (seeded : seed entry = .ok p) :
    p.name = entry.name := by
  obtain ⟨range, -, rfl⟩ := seed_eq_ok seeded
  rfl

end Binding

namespace Slot

variable (slot : Slot) (now : Float) (name : String)

/-- The ends of a change of a slot's parameters that is made for one of them. -/
inductive Tunes (change : Except Failure (Parameters → Parameters)) :
    Except Failure Parameter → Slot → List Int → Prop where
  | refused {failure : Failure} (refusal : change = .error failure) :
      Tunes change (.error failure) slot []
  | unknown {f : Parameters → Parameters} (allowed : change = .ok f)
      (unknown : name ∉ slot.parameters.names) :
      Tunes change (.error (.parameterMissing slot.id name slot.parameters.names)) slot []
  | tuned {f : Parameters → Parameters} {p : Parameter} (allowed : change = .ok f)
      (known : name ∈ slot.parameters.names) (seen : (f slot.parameters).get? name = some p) :
      Tunes change (.ok p) { slot with parameters := f slot.parameters, modified := .at now }
        [slot.id]

/-- The parameters with the one that an entry starts with, unless one of its name is there. -/
def seeded (entry : Catalog.Entry) : Except Failure Parameters :=
  if entry.name ∈ slot.parameters.names then .ok slot.parameters
  else (Binding.seed entry).map slot.parameters.add

theorem seeded_eq_ok {entry : Catalog.Entry} {parameters : Parameters}
    (seeded : slot.seeded entry = .ok parameters) :
    entry.name ∈ slot.parameters.names ∧ parameters = slot.parameters ∨
      ∃ p, Binding.seed entry = .ok p ∧ parameters = slot.parameters.add p := by
  unfold Slot.seeded at seeded
  split at seeded
  next known =>
    cases seeded
    exact .inl ⟨known, rfl⟩
  next =>
    cases seed : Binding.seed entry with
    | error failure =>
      rw [seed] at seeded
      cases seeded
    | ok p =>
      rw [seed] at seeded
      cases seeded
      exact .inr ⟨p, rfl, rfl⟩

theorem mem_names_seeded {entry : Catalog.Entry} {parameters : Parameters}
    (seeded : slot.seeded entry = .ok parameters) : entry.name ∈ parameters.names := by
  rcases slot.seeded_eq_ok seeded with ⟨known, rfl⟩ | ⟨p, seed, rfl⟩
  · exact known
  · exact (Parameters.mem_names_add _ p _).2 (.inr (Binding.name_of_seed seed).symm)

/-- The ends of binding a parameter that was added, if a knob is given. -/
inductive Binds (knob : Option Int) : Except Failure Parameter → Slot → List Int → Prop where
  | unbound {p : Parameter} (free : knob = none) (seen : slot.parameters.get? name = some p) :
      Binds knob (.ok p) slot []
  | bound {outcome : Except Failure Parameter} {after : Slot} {touched : List Int}
      (given : knob.isSome) (tunes : Tunes slot now name (Binding.binding name knob) outcome after touched) :
      Binds knob outcome after touched

/-- The ends of adding a parameter from the catalog. -/
inductive Adds (catalog : Catalog) (knob : Option Int) :
    Except Failure Parameter → Slot → List Int → Prop where
  | unlisted (missing : catalog.find? name = none) :
      Adds catalog knob (.error (.entryMissing name catalog.names)) slot []
  | used {entry : Catalog.Entry} {outcome : Except Failure Parameter} {after : Slot}
      {touched : List Int} (listed : catalog.find? name = some entry)
      (used : entry.name ∈ Program.detect slot.code)
      (binds : Binds slot.refreshed now entry.name knob outcome after touched) :
      Adds catalog knob outcome after touched
  | unseeded {entry : Catalog.Entry} {failure : Failure} (listed : catalog.find? name = some entry)
      (unused : entry.name ∉ Program.detect slot.code)
      (refusal : slot.seeded entry = .error failure) :
      Adds catalog knob (.error failure) { slot with code := slot.code ++ entry.fragment } []
  | appended {entry : Catalog.Entry} {parameters : Parameters}
      {outcome : Except Failure Parameter} {after : Slot} {touched : List Int}
      (listed : catalog.find? name = some entry) (unused : entry.name ∉ Program.detect slot.code)
      (seeded : slot.seeded entry = .ok parameters)
      (binds : Binds
        { slot with code := slot.code ++ entry.fragment, parameters, modified := .at now }
        now entry.name knob outcome after touched) :
      Adds catalog knob outcome after (slot.id :: touched)

variable {slot now name} {after : Slot} {outcome : Except Failure Parameter} {touched : List Int}

theorem Tunes.id_eq {change : Except Failure (Parameters → Parameters)}
    (tunes : slot.Tunes now name change outcome after touched) : after.id = slot.id := by
  cases tunes <;> rfl

theorem Binds.id_eq {knob : Option Int} (binds : slot.Binds now name knob outcome after touched) :
    after.id = slot.id := by
  cases binds with
  | unbound => rfl
  | bound given tunes => exact tunes.id_eq

theorem Adds.id_eq {catalog : Catalog} {knob : Option Int}
    (adds : slot.Adds now name catalog knob outcome after touched) : after.id = slot.id := by
  cases adds with
  | unlisted | unseeded => rfl
  | used _ _ binds | appended _ _ _ binds => exact binds.id_eq

end Slot

/-- A bank under change, by the slot that is changed. -/
def Draft.of (bank : Bank) (slot : Slot) (touched : List Int) : Draft := ⟨bank.put slot, touched⟩

theorem Draft.of_eq {bank : Bank} {slot : Slot} (found : bank.find? slot.id = some slot)
    (touched : List Int) : Draft.of bank slot touched = ⟨bank, touched⟩ := by
  rw [of, Bank.put_eq_self found]

namespace Edit

variable {bank : Bank} (slot : Slot) (present : slot.id ∈ bank.ids) (touched : List Int)
include present

theorem perform_slot_of : perform (Edit.slot slot.id) (.of bank slot touched) =
    (.ok slot, .of bank slot touched) :=
  perform_slot_of_find? _ (Bank.find?_put_self present)

theorem perform_parameter_of_get? {name : String} {p : Parameter}
    (known : slot.parameters.get? name = some p) :
    perform (Edit.parameter slot.id name) (.of bank slot touched) =
      (.ok p, .of bank slot touched) := by
  simp only [Edit.parameter, perform_bind, perform_slot_of slot present, Slot.parameter, known,
    perform_pure]

theorem perform_parameter_of_notMem {name : String} (unknown : name ∉ slot.parameters.names) :
    perform (Edit.parameter slot.id name) (.of bank slot touched) =
      (.error (.parameterMissing slot.id name slot.parameters.names), .of bank slot touched) := by
  simp only [Edit.parameter, perform_bind, perform_slot_of slot present, Slot.parameter,
    Parameters.get?_eq_none_iff.2 unknown, perform_throw]

theorem perform_change_of (f : Slot → Slot) :
    perform (Edit.change slot.id f) (.of bank slot touched) =
      (.ok (), .of bank { f slot with id := slot.id } touched) := by
  have found := Bank.find?_put_self present
  have replaced : (bank.put slot).put { f slot with id := slot.id } =
      bank.put { f slot with id := slot.id } := Bank.put_put rfl
  rw [perform_change, Draft.of, Bank.modify_eq_put found, replaced]
  rfl

theorem perform_touch_of (now : Float) :
    perform (Edit.touch now slot.id) (.of bank slot touched) =
      (.ok (), .of bank { slot with modified := .at now } (touched ++ [slot.id])) := by
  simp only [touch, perform_bind, perform_change_of slot present, perform_modify]
  rfl

end Edit

namespace Binding

variable {bank : Bank} {slot : Slot} (present : slot.id ∈ bank.ids) (touched : List Int)
variable (now : Float) (name : String)

/-- What an edit of a slot of a bank comes to. -/
def Comes (bank : Bank) (slot : Slot) (touched : List Int) (edit : Edit Parameter)
    (ends : Except Failure Parameter → Slot → List Int → Prop) : Prop :=
  ∃ outcome after noted,
    perform edit (.of bank slot touched) = (outcome, .of bank after (touched ++ noted)) ∧
      ends outcome after noted

theorem Comes.refused {edit : Edit Parameter} {failure : Failure}
    {ends : Except Failure Parameter → Slot → List Int → Prop}
    (thrown : perform edit (.of bank slot touched) = (.error failure, .of bank slot touched))
    (ended : ends (.error failure) slot []) : Comes bank slot touched edit ends :=
  ⟨_, _, [], by simpa using thrown, ended⟩

theorem Comes.mono {touched : List Int} {edit : Edit Parameter}
    {ends others : Except Failure Parameter → Slot → List Int → Prop}
    (comes : Comes bank slot touched edit ends)
    (each : ∀ {outcome after noted}, ends outcome after noted → others outcome after noted) :
    Comes bank slot touched edit others := by
  obtain ⟨outcome, after, noted, performed, ended⟩ := comes
  exact ⟨outcome, after, noted, performed, each ended⟩

section Tune

include present

theorem perform_tune {f : Parameters → Parameters}
    (names : ∀ ps, (f ps).names = ps.names) :
    Comes bank slot touched (do
        let _ ← Edit.parameter slot.id name
        Edit.change slot.id fun slot => { slot with parameters := f slot.parameters }
        Edit.touch now slot.id
        Edit.parameter slot.id name) (slot.Tunes now name (.ok f)) := by
  by_cases known : name ∈ slot.parameters.names
  · obtain ⟨old, before⟩ := Option.isSome_iff_exists.1 (Parameters.isSome_get?.2 known)
    obtain ⟨p, seen⟩ := Option.isSome_iff_exists.1
      (Parameters.isSome_get?.2 ((names slot.parameters).symm ▸ known))
    let tuned : Slot := { slot with parameters := f slot.parameters, modified := .at now }
    have stillPresent : tuned.id ∈ bank.ids := present
    refine ⟨.ok p, tuned, [slot.id], ?_, .tuned rfl known seen⟩
    -- the parameter is there before the change and after it
    have changed := Edit.perform_change_of slot present touched fun slot =>
      { slot with parameters := f slot.parameters }
    have noted := Edit.perform_touch_of { slot with parameters := f slot.parameters } present touched
      now
    have last := Edit.perform_parameter_of_get? tuned stillPresent (touched ++ [slot.id]) seen
    simp only [perform_bind, Edit.perform_parameter_of_get? slot present touched before, changed, noted]
    exact last
  · refine .refused touched ?_ (.unknown rfl known)
    simp only [perform_bind, Edit.perform_parameter_of_notMem slot present touched known]

theorem perform_assign (knob : Option Int) :
    Comes bank slot touched (assign now slot.id name knob)
      (slot.Tunes now name (binding name knob)) := by
  have bound := perform_tune present touched now name
    (f := (assigned · name knob)) fun ps => Parameters.names_assigned ps name knob
  cases knob with
  | none => exact bound
  | some index =>
    unfold binding
    by_cases outside : index < 0 ∨ knobCount ≤ index
    · simp only [outside, if_true]
      refine .refused touched ?_ (.refused rfl)
      simp only [assign, outside, if_true, perform_bind, perform_throw]
    · simp only [outside, if_false]
      simpa only [assign, outside, if_false] using bound

theorem perform_changeParameter (f : Parameter → Parameter) :
    Comes bank slot touched (Edit.changeParameter now slot.id name f)
      (slot.Tunes now name (.ok (·.modify name f))) := by
  have tuned := perform_tune present touched now name (f := (·.modify name f)) fun ps =>
    Parameters.names_modify ps name f
  exact tuned

theorem perform_setRange (lo hi : Float) :
    Comes bank slot touched (setRange now slot.id name lo hi)
      (slot.Tunes now name (ranging name lo hi)) := by
  cases proper : Range.of? lo hi with
  | none =>
    have refusal : ranging name lo hi = .error (.emptyRange lo hi) := by
      simp only [ranging, proper]
    refine .refused touched ?_ (.refused refusal)
    simp only [setRange, proper, perform_throw]
  | some range =>
    simp only [setRange, ranging, proper]
    exact perform_changeParameter present touched now name _

theorem perform_setValue (value : Float) :
    Comes bank slot touched (setValue now slot.id name value)
      (slot.Tunes now name (valuing name value)) := by
  have valued := perform_changeParameter present touched now name (·.withValue value)
  exact valued

end Tune

section Add

variable (catalog : Catalog) (knob : Option Int)

/-- The part of adding that comes after the placeholder is there. -/
def bindAdded (now : Float) (id : Int) (name : String) (knob : Option Int) : Edit Parameter :=
  match knob with
  | some _ => assign now id name knob
  | none => Edit.parameter id name

include present

theorem perform_bindAdded (known : name ∈ slot.parameters.names) :
    Comes bank slot touched (bindAdded now slot.id name knob) (slot.Binds now name knob) := by
  cases knob with
  | none =>
    obtain ⟨p, seen⟩ := Option.isSome_iff_exists.1 (Parameters.isSome_get?.2 known)
    refine ⟨.ok p, slot, [], ?_, .unbound rfl seen⟩
    rw [List.append_nil]
    exact Edit.perform_parameter_of_get? slot present touched seen
  | some index =>
    have bound := perform_assign present touched now name (some index)
    exact bound.mono (.bound rfl)

theorem perform_append (entry : Catalog.Entry) :
    perform (append now slot.id entry) (.of bank slot touched) =
      match slot.seeded entry with
      | .ok parameters => (.ok (), .of bank
          { slot with code := slot.code ++ entry.fragment, parameters, modified := .at now }
          (touched ++ [slot.id]))
      | .error failure =>
        (.error failure, .of bank { slot with code := slot.code ++ entry.fragment } touched) := by
  have recoded := Edit.perform_change_of slot present touched fun slot =>
    { slot with code := slot.code ++ entry.fragment }
  have there := Edit.perform_slot_of { slot with code := slot.code ++ entry.fragment } present
    touched
  have noted parameters := Edit.perform_touch_of
    { slot with code := slot.code ++ entry.fragment, parameters } present touched now
  simp only [append, perform_bind, recoded, there, perform_ite, Slot.seeded]
  -- a parameter of the name stays as it is, whatever the entry says of its range
  by_cases known : entry.name ∈ slot.parameters.names
  · simp only [known, not_true, if_true, if_false]
    exact noted slot.parameters
  · simp only [known, not_false_eq_true, if_true, if_false]
    cases seed entry with
    | error failure => rfl
    | ok p =>
      have added := Edit.perform_change_of { slot with code := slot.code ++ entry.fragment } present
        touched fun slot => { slot with parameters := slot.parameters.add p }
      simp only [perform_bind, added]
      exact noted (slot.parameters.add p)

theorem perform_refresh_of :
    perform (refresh slot.id) (.of bank slot touched) =
      (.ok slot.refreshed.parameters, .of bank slot.refreshed touched) := by
  have changed : perform (Edit.change slot.id Slot.refreshed) (.of bank slot touched) =
      (.ok (), .of bank slot.refreshed touched) :=
    Edit.perform_change_of slot present touched Slot.refreshed
  have later : perform (Edit.slot slot.id) (.of bank slot.refreshed touched) =
      (.ok slot.refreshed, .of bank slot.refreshed touched) :=
    Edit.perform_slot_of slot.refreshed present touched
  simp only [refresh, perform_bind, Edit.perform_slot_of slot present, changed, later, perform_pure]

theorem perform_addFromCatalog :
    Comes bank slot touched (addFromCatalog catalog now slot.id name knob)
      (slot.Adds now name catalog knob) := by
  cases listed : catalog.find? name with
  | none =>
    refine .refused touched ?_ (.unlisted listed)
    simp only [addFromCatalog, Catalog.get, listed, perform_throw]
  | some entry =>
    by_cases used : entry.name ∈ Program.detect slot.code
    · have known : entry.name ∈ slot.refreshed.parameters.names :=
        (Parameters.mem_names_merge slot.parameters _ _).2 (Or.inr used)
      have stillPresent : slot.refreshed.id ∈ bank.ids := present
      obtain ⟨outcome, after, noted, performed, binds⟩ :=
        perform_bindAdded stillPresent touched now entry.name knob known
      refine ⟨outcome, after, noted, ?_, .used listed used binds⟩
      simp only [addFromCatalog, Catalog.get, listed, perform_bind, Edit.perform_slot_of slot present,
        used, if_true, perform_refresh_of present]
      exact performed
    · cases seeded : slot.seeded entry with
      | error failure =>
        refine ⟨_, _, [], ?_, .unseeded listed used seeded⟩
        simp only [addFromCatalog, Catalog.get, listed, perform_bind, Edit.perform_slot_of slot present,
          used, if_false, perform_append present, seeded, List.append_nil]
      | ok parameters =>
        have known : entry.name ∈ parameters.names := slot.mem_names_seeded seeded
        let appended : Slot :=
          { slot with code := slot.code ++ entry.fragment, parameters, modified := .at now }
        have stillPresent : appended.id ∈ bank.ids := present
        obtain ⟨outcome, after, noted, performed, binds⟩ :=
          perform_bindAdded stillPresent (touched ++ [slot.id]) now entry.name knob known
        refine ⟨outcome, after, slot.id :: noted, ?_, .appended listed used seeded binds⟩
        simp only [addFromCatalog, Catalog.get, listed, perform_bind, Edit.perform_slot_of slot present,
          used, if_false, perform_append present, seeded]
        rw [List.append_assoc] at performed
        exact performed

end Add

end Binding

end PatternDeck
