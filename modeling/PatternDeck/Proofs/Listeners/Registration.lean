import Mathlib.Data.List.Induction
import PatternDeck.Proofs.Listeners.Unfolding

/-!
Which registration is taken back. The registrations that ought to be there are those of the calls of
`on`, each by itself, when a function that takes one back does away with that one and with no other.
An emitter knows its registrations by their callbacks only and takes back the first that it meets.
Main result: what is registered is at every moment of a run what ought to be, exactly if each such
function, whenever it is called, meets its own registration first or one that cannot be told from
it.
-/
namespace PatternDeck.Listeners

variable {Value : Type}

/-- All that the emitter knows of a registration. -/
def Registration.key (made : Registration) : String × String := (made.event, made.callback)

def listed (entries : List Registration) : Listeners String String :=
  ⟨entries.map Registration.key⟩

/-- The registrations that ought to be there after a happening. -/
def Happening.intend (entries : List Registration) : Happening Value → List Registration
  | registered made => entries ++ [made]
  | removed event callback => entries.eraseP (·.key == (event, callback))
  | unsubscribed made => entries.erase made
  | _ => entries

/-- The registrations that ought to be there after what happened at an emitter. -/
def intended (journal : List (Happening Value)) : List Registration :=
  journal.foldl Happening.intend []

/-- The same callbacks in the same order for each event. -/
def Agree (one two : Listeners String String) : Prop := ∀ event, one.of event = two.of event

/-- A registration's function does not miss it: if any of the callback is there for the event, it is
there, and before it none of another callback stands for the event behind one of its own. -/
def Unmistakable (made : Registration) (entries : List Registration) : Prop :=
  ∀ one ∈ entries, one.key = made.key → made ∈ entries ∧
    (entries.takeWhile (· ≠ made)).Pairwise fun one two =>
      one.key = made.key → two.event = made.event → two.callback = made.callback

instance (made : Registration) (entries : List Registration) :
    Decidable (Unmistakable made entries) :=
  inferInstanceAs (Decidable (∀ one ∈ entries, one.key = made.key → made ∈ entries ∧
    (entries.takeWhile (· ≠ made)).Pairwise fun one two =>
      one.key = made.key → two.event = made.event → two.callback = made.callback))

namespace Agree

variable {one two : Listeners String String}

theorem on (agree : Agree one two) (event callback : String) :
    Agree (one.on event callback) (two.on event callback) := by
  intro other
  rw [of_on, of_on, agree other]

theorem unsubscribe (agree : Agree one two) (event callback : String) :
    Agree (one.unsubscribe event callback) (two.unsubscribe event callback) := by
  intro other
  rw [of_unsubscribe, of_unsubscribe, agree other]

/-- Nothing is taken back just if there is nothing to take back. -/
theorem unsubscribe_self_iff {event callback : String} :
    Agree (one.unsubscribe event callback) one ↔ callback ∉ one.of event := by
  constructor
  · intro agree
    have own := agree event
    rwa [of_unsubscribe, if_pos rfl, List.erase_eq_self_iff] at own
  · intro absent other
    rw [of_unsubscribe]
    split
    next own => exact own ▸ List.erase_of_not_mem absent
    next => rfl

end Agree

section Listed

variable {entries earlier later : List Registration} {made : Registration}

theorem of_listed_cons (first : Registration) (rest : List Registration) (event : String) :
    (listed (first :: rest)).of event =
      if first.event = event then first.callback :: (listed rest).of event
      else (listed rest).of event :=
  of_cons first.key (rest.map Registration.key) event

theorem listed_concat (entries : List Registration) (made : Registration) :
    listed (entries ++ [made]) = (listed entries).on made.event made.callback := by
  simp [listed, on, Registration.key]

theorem listed_eraseP (entries : List Registration) (event callback : String) :
    listed (entries.eraseP (·.key == (event, callback))) =
      (listed entries).unsubscribe event callback := by
  rw [unsubscribe, listed, listed, List.erase_eq_eraseP', List.eraseP_map]
  rfl

/-- A callback stands before others or behind them just if they are all the same. -/
theorem of_moved_iff :
    (listed (earlier ++ made :: later)).of made.event =
        made.callback :: (listed (earlier ++ later)).of made.event ↔
      ∀ two ∈ earlier, two.event = made.event → two.callback = made.callback := by
  induction earlier with
  | nil => simp [of_listed_cons]
  | cons first rest ih =>
    rw [List.cons_append, List.cons_append, of_listed_cons, of_listed_cons, List.forall_mem_cons]
    by_cases own : first.event = made.event
    · rw [if_pos own, if_pos own, List.cons.injEq, ← ih]
      constructor
      · rintro ⟨like, moved⟩
        exact ⟨fun _ => like, like ▸ moved⟩
      · rintro ⟨like, moved⟩
        exact ⟨like own, (like own).symm ▸ moved⟩
    · simp [own, ih]

/-- Without the first of the callback is without a registration of it just if none of another
callback stands between. -/
theorem of_erased_iff :
    ((listed (earlier ++ made :: later)).of made.event).erase made.callback =
        (listed (earlier ++ later)).of made.event ↔
      earlier.Pairwise fun one two =>
        one.key = made.key → two.event = made.event → two.callback = made.callback := by
  induction earlier with
  | nil => simp [of_listed_cons]
  | cons first rest ih =>
    rw [List.cons_append, List.cons_append, of_listed_cons, of_listed_cons, List.pairwise_cons]
    by_cases key : first.key = made.key
    · -- the first goes, and the registration meant would have to stand in its place
      obtain ⟨own, like⟩ := Prod.mk.inj key
      rw [if_pos own, if_pos own, like, List.erase_cons_head, of_moved_iff]
      constructor
      · intro same
        exact ⟨fun two there _ => same two there,
          List.pairwise_of_forall_mem_list fun _ _ two there _ => same two there⟩
      · rintro ⟨behind, -⟩ two there
        exact behind two there key
    · by_cases own : first.event = made.event
      · have unlike : first.callback ≠ made.callback := fun like => key (Prod.ext own like)
        simp [own, unlike, key, List.erase_cons_tail, ih]
      · simp [own, key, ih]

theorem of_listed_skip {other : String} (elsewhere : made.event ≠ other) :
    (listed (earlier ++ made :: later)).of other = (listed (earlier ++ later)).of other := by
  induction earlier with
  | nil => simp [of_listed_cons, elsewhere]
  | cons first rest ih =>
    rw [List.cons_append, List.cons_append, of_listed_cons, of_listed_cons, ih]

theorem agree_erase_iff_of_mem (there : made ∈ entries) :
    Agree ((listed entries).unsubscribe made.event made.callback) (listed (entries.erase made)) ↔
      Unmistakable made entries := by
  obtain ⟨earlier, later, unmet, rfl, erased⟩ := List.exists_erase_eq there
  have others : ∀ one ∈ earlier, one ≠ made :=
    fun one member => ne_of_mem_of_not_mem member unmet
  have before : (earlier ++ made :: later).takeWhile (· ≠ made) = earlier := by
    rw [List.takeWhile_append_of_pos (by simpa using others),
      List.takeWhile_cons_of_neg (by simp), List.append_nil]
  rw [Unmistakable, before, erased]
  constructor
  · intro agree one _ _
    have own := agree made.event
    rw [of_unsubscribe, if_pos rfl, of_erased_iff] at own
    exact ⟨there, own⟩
  · intro unmistakable other
    rw [of_unsubscribe]
    split
    next own => exact own ▸ of_erased_iff.2 (unmistakable made there rfl).2
    next elsewhere => exact of_listed_skip elsewhere

theorem agree_erase_iff :
    Agree ((listed entries).unsubscribe made.event made.callback) (listed (entries.erase made)) ↔
      Unmistakable made entries := by
  by_cases there : made ∈ entries
  · exact agree_erase_iff_of_mem there
  · rw [List.erase_of_not_mem there, Agree.unsubscribe_self_iff, mem_of_iff]
    simp [Unmistakable, there, listed, Registration.key]

end Listed

section Course

variable {listeners : Listeners String String} {entries : List Registration}

theorem Agree.act (agree : Agree listeners (listed entries)) (happening : Happening Value)
    (plain : ∀ made, happening = .unsubscribed made → Unmistakable made entries) :
    Agree (happening.act listeners) (listed (happening.intend entries)) := by
  cases happening with
  | registered made =>
    rw [Happening.intend, listed_concat]
    exact agree.on made.event made.callback
  | removed event callback =>
    rw [Happening.intend, listed_eraseP]
    exact agree.unsubscribe event callback
  | unsubscribed made =>
    intro event
    rw [Happening.act, agree.unsubscribe made.event made.callback event]
    exact agree_erase_iff.2 (plain made rfl) event
  | _ => exact agree

/-- Nothing but a function that takes back another's registration parts what is there from what
ought to be there. -/
theorem agree_iff (journal : List (Happening Value)) :
    (∀ part, part <+: journal → Agree (Listeners.following {} part) (listed (intended part))) ↔
      ∀ before made rest, journal = before ++ .unsubscribed made :: rest →
        Unmistakable made (intended before) := by
  constructor
  · rintro agree before made rest rfl
    -- just before the function is called, and just after
    have past := agree before (List.prefix_append before _)
    have now := agree (before ++ [.unsubscribed made]) ⟨rest, by simp⟩
    rw [following_append, intended, List.foldl_append] at now
    rw [← agree_erase_iff]
    intro event
    rw [← past.unsubscribe made.event made.callback event]
    exact now event
  · intro unmistakable part
    induction part using List.reverseRecOn with
    | nil => exact fun _ _ => rfl
    | append_singleton before happening ih =>
      rintro ⟨rest, rfl⟩
      rw [following_append, intended, List.foldl_append]
      refine (ih ⟨happening :: rest, by simp⟩).act happening ?_
      rintro made rfl
      exact unmistakable before made rest (by simp)

end Course

namespace Emitter

/-- In every run from a new emitter the following holds.
1. What is registered is what the happenings make of no registrations.
2. The registrations made are told apart by their numbers.
3. Each function that is called takes back a registration made before.
4. What is registered is at every moment, in the middle of an emit too, as if each such function did
   away with its own registration and with no other, exactly if each, whenever it is called, finds
   its own registration not preceded by one of its callback with another callback between, or finds
   none of its callback. -/
theorem unsubscribes_itself_iff (scripts : Scripts Value) (depth : Nat)
    (actions : List (Action Value)) :
    let emitter := performAll scripts depth actions ({} : Emitter Value)
    emitter.listeners = Listeners.following {} emitter.journal ∧
    ((emitter.journal.filterMap Happening.made?).map (·.number)).Nodup ∧
    (∀ before made rest, emitter.journal = before ++ .unsubscribed made :: rest →
      .registered made ∈ before) ∧
    ((∀ part, part <+: emitter.journal →
        Agree (Listeners.following {} part) (listed (intended part))) ↔
      ∀ before made rest, emitter.journal = before ++ .unsubscribed made :: rest →
        Unmistakable made (intended before)) := by
  intro emitter
  obtain ⟨course, passes⟩ := exists_passes_performAll scripts depth actions ({} : Emitter Value)
  have journal : emitter.journal = course := passes.journal
  refine ⟨journal ▸ passes.listeners, ?_, ?_, agree_iff emitter.journal⟩
  · rw [journal, passes.numbers]
    exact List.nodup_range'
  · rw [journal]
    rintro before made rest rfl
    exact passes.owned.registered.resolve_left (by simp)

/-- With another callback between two registrations of one, the function for the last takes the
first away; and where nothing is between, a second call takes the one that is left. -/
theorem first_of_same_taken_back :
    let intact (actions : List (Action Nat)) : Prop :=
      let emitter := performAll (fun _ _ _ => .returns) 0 actions ({} : Emitter Nat)
      ∀ part, part <+: emitter.journal →
        Agree (Listeners.following {} part) (listed (intended part))
    ¬ intact [.on "tick" "blink" "a", .on "tick" "log" "b", .on "tick" "blink" "c",
      .unsubscribe "c"] ∧
    ¬ intact [.on "tick" "blink" "a", .on "tick" "blink" "b", .unsubscribe "b",
      .unsubscribe "b"] := by
  constructor
  · intro intact
    have found := (unsubscribes_itself_iff _ 0 _).2.2.2.1 intact
      [.registered ⟨0, "tick", "blink"⟩, .registered ⟨1, "tick", "log"⟩,
        .registered ⟨2, "tick", "blink"⟩] ⟨2, "tick", "blink"⟩ [] rfl
    exact absurd found (by decide)
  · intro intact
    have found := (unsubscribes_itself_iff _ 0 _).2.2.2.1 intact
      [.registered ⟨0, "tick", "blink"⟩, .registered ⟨1, "tick", "blink"⟩,
        .unsubscribed ⟨1, "tick", "blink"⟩] ⟨1, "tick", "blink"⟩ [] rfl
    exact absurd found (by decide)

end Emitter

end PatternDeck.Listeners
