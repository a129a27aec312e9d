import Mathlib.Data.List.Basic
import PatternDeck.Listeners.Delivery

/-!
The course of what happens at an emitter. The registrations and the tokens are at any time what the
happenings so far made of them, and the happenings nest: between an emit's beginning and its end
stand its own calls, each followed by all that the callback does, with whole emits among it. So the
calls that an emit makes itself can be read off the course, and they can be held against the
registrations that were there when it began.
-/
namespace PatternDeck.Listeners

variable {Value : Type}

namespace Happening

/-- The registrations after a happening. -/
def act (listeners : Listeners String String) : Happening Value → Listeners String String
  | registered made => listeners.on made.event made.callback
  | removed event callback => listeners.unsubscribe event callback
  | unsubscribed made => listeners.unsubscribe made.event made.callback
  | _ => listeners

def made? : Happening Value → Option Registration
  | registered made => some made
  | _ => none

/-- An emit begins or ends. -/
def isBound : Happening Value → Bool
  | began .. | ended => true
  | _ => false

end Happening

/-- The registrations after a course of happenings. -/
def following (listeners : Listeners String String) (course : List (Happening Value)) :
    Listeners String String :=
  course.foldl Happening.act listeners

theorem following_append (listeners : Listeners String String) (one two : List (Happening Value)) :
    listeners.following (one ++ two) = (listeners.following one).following two :=
  List.foldl_append

/-- The calls that an emit makes itself until it ends, with so many emits underway within it. An
emit that does not end has none to show. -/
def callsMade : Nat → List (Happening Value) → Option (List (String × List Value))
  | _, [] => none
  | within, .began .. :: rest => callsMade (within + 1) rest
  | 0, .ended :: _ => some []
  | within + 1, .ended :: rest => callsMade within rest
  | 0, .called callback values :: rest => (callsMade 0 rest).map ((callback, values) :: ·)
  | within + 1, .called .. :: rest => callsMade (within + 1) rest
  | within, .registered .. :: rest => callsMade within rest
  | within, .removed .. :: rest => callsMade within rest
  | within, .unsubscribed .. :: rest => callsMade within rest
  | within, .refused .. :: rest => callsMade within rest

/-- What is behind the end of an emit has no part in its calls. -/
theorem callsMade_append {within : Nat} {course : List (Happening Value)}
    {calls : List (String × List Value)} (ends : callsMade within course = some calls)
    (more : List (Happening Value)) : callsMade within (course ++ more) = some calls := by
  -- a course without the end has no calls to show, so the end is met before the course runs out
  fun_induction callsMade within course generalizing calls with
  | case1 => cases ends
  | case3 => exact ends
  | case5 callback values rest ih =>
    obtain ⟨later, made, rfl⟩ := Option.map_eq_some_iff.1 ends
    rw [List.cons_append, callsMade, ih made, Option.map_some]
  | _ =>
    rename_i ih
    exact ih ends

/-- A course in which the emit underway makes some calls itself, and each emit that begins ends. -/
structure Makes (calls : List (String × List Value)) (course : List (Happening Value)) : Prop where
  outer : ∀ rest, callsMade 0 (course ++ rest) = (callsMade 0 rest).map (calls ++ ·)
  inner : ∀ within rest, callsMade (within + 1) (course ++ rest) = callsMade (within + 1) rest

namespace Makes

variable {calls more : List (String × List Value)} {course later : List (Happening Value)}

theorem nil : Makes [] ([] : List (Happening Value)) where
  outer rest := by simp
  inner _ _ := rfl

theorem append (one : Makes calls course) (two : Makes more later) :
    Makes (calls ++ more) (course ++ later) where
  outer rest := by
    rw [List.append_assoc, one.outer, two.outer, Option.map_map]
    congr 1
    funext made
    exact (List.append_assoc calls more made).symm
  inner within rest := by rw [List.append_assoc, one.inner, two.inner]

theorem singleton (happening : Happening Value) (inside : happening.isBound = false) :
    Makes happening.call?.toList [happening] := by
  cases happening with
  | began => cases inside
  | ended => cases inside
  | called callback values => exact ⟨fun _ => rfl, fun _ _ => rfl⟩
  | _ => exact ⟨fun rest => by simp [callsMade, Happening.call?], fun _ _ => rfl⟩

/-- The calls of an emit are not calls of the one around it. -/
theorem enclosed (makes : Makes calls course) (event : String) (values : List Value) :
    Makes [] (.began event values :: (course ++ [.ended])) where
  outer rest := by
    rw [List.cons_append, List.append_assoc, callsMade, makes.inner]
    simp [callsMade]
  inner within rest := by
    rw [List.cons_append, List.append_assoc, callsMade, makes.inner]
    rfl

end Makes

/-- Each emit of a course calls the callbacks that are registered for its event when it begins, in
their order and with its values, and no others, and it ends. -/
def Faithful (listeners : Listeners String String) (course : List (Happening Value)) : Prop :=
  ∀ before event values rest, course = before ++ .began event values :: rest →
    callsMade 0 rest = some (((listeners.following before).of event).map (·, values))

namespace Faithful

variable {listeners : Listeners String String} {course later : List (Happening Value)}

theorem nil : Faithful listeners ([] : List (Happening Value)) := by
  intro before event values rest split
  simp at split

theorem cons_iff {happening : Happening Value} :
    Faithful listeners (happening :: course) ↔
      (∀ event values, happening = .began event values →
        callsMade 0 course = some ((listeners.of event).map (·, values))) ∧
      Faithful (happening.act listeners) course := by
  constructor
  · intro faithful
    constructor
    · rintro event values rfl
      exact faithful [] event values course rfl
    · rintro before event values rest rfl
      exact faithful (happening :: before) event values rest rfl
  · rintro ⟨first, later⟩ before event values rest split
    cases before with
    | nil =>
      obtain ⟨rfl, rfl⟩ := List.cons.inj split
      exact first event values rfl
    | cons _ before =>
      obtain ⟨rfl, rfl⟩ := List.cons.inj split
      exact later before event values rest rfl

theorem append (one : Faithful listeners course)
    (two : Faithful (listeners.following course) later) :
    Faithful listeners (course ++ later) := by
  induction course generalizing listeners with
  | nil => exact two
  | cons happening course ih =>
    obtain ⟨first, rest⟩ := cons_iff.1 one
    refine cons_iff.2 ⟨fun event values began => ?_, ih rest two⟩
    -- the emit has ended when the later course sets in
    exact callsMade_append (first event values began) later

theorem singleton {happening : Happening Value} (inside : happening.isBound = false) :
    Faithful listeners [happening] := by
  refine cons_iff.2 ⟨?_, nil⟩
  rintro event values rfl
  cases inside

theorem ended (listeners : Listeners String String) :
    Faithful listeners ([.ended] : List (Happening Value)) :=
  cons_iff.2 ⟨by rintro _ _ ⟨⟩, nil⟩

end Faithful

/-- Each function that is called takes back a registration that is known or made before. -/
def Owned : List Registration → List (Happening Value) → Prop
  | _, [] => True
  | known, .registered made :: rest => Owned (made :: known) rest
  | known, .unsubscribed made :: rest => made ∈ known ∧ Owned known rest
  | known, _ :: rest => Owned known rest

namespace Owned

variable {known : List Registration} {course later : List (Happening Value)}

theorem append (one : Owned known course)
    (two : Owned ((course.filterMap Happening.made?).reverse ++ known) later) :
    Owned known (course ++ later) := by
  induction course generalizing known with
  | nil => exact two
  | cons happening rest ih =>
    cases happening with
    | registered made =>
      -- what is made here is known from here on, and so to the later course
      have rest_owned : Owned (made :: known) rest := one
      refine ih rest_owned ?_
      simpa [List.filterMap_cons, Happening.made?] using two
    | unsubscribed made => exact ⟨one.1, ih one.2 two⟩
    | _ => exact ih one two

theorem registered {before rest : List (Happening Value)} {made : Registration}
    (owned : Owned known (before ++ .unsubscribed made :: rest)) :
    made ∈ known ∨ .registered made ∈ before := by
  induction before generalizing known with
  | nil => exact .inl owned.1
  | cons happening before ih =>
    cases happening with
    | registered other =>
      have rest_owned : Owned (other :: known) _ := owned
      obtain there | later := ih rest_owned
      · obtain rfl | there := List.mem_cons.1 there
        · exact .inr List.mem_cons_self
        · exact .inl there
      · exact .inr (List.mem_cons_of_mem _ later)
    | unsubscribed => exact (ih owned.2).imp_right (List.mem_cons_of_mem _)
    | _ =>
      have rest_owned : Owned known _ := owned
      exact (ih rest_owned).imp_right (List.mem_cons_of_mem _)

end Owned

namespace Emitter

/-- The bounds of an emit make no registration. -/
theorem filterMap_made_emitted (event : String) (values : List Value)
    (course : List (Happening Value)) :
    (.began event values :: (course ++ [.ended])).filterMap Happening.made? =
      course.filterMap Happening.made? := by
  rw [List.filterMap_cons_none rfl, List.filterMap_append, List.filterMap_cons_none rfl,
    List.filterMap_nil, List.append_nil]

/-- From one emitter to another by a course in which the emit underway makes some calls. -/
structure Passes (before : Emitter Value) (calls : List (String × List Value))
    (course : List (Happening Value)) (after : Emitter Value) : Prop where
  journal : after.journal = before.journal ++ course
  listeners : after.listeners = before.listeners.following course
  makes : Makes calls course
  faithful : Faithful before.listeners course
  tokens : after.tokens.map (·.2) =
    (course.filterMap Happening.made?).reverse ++ before.tokens.map (·.2)
  owned : Owned (before.tokens.map (·.2)) course
  /-- The registrations that are made are numbered on. -/
  numbers : (course.filterMap Happening.made?).map (·.number) =
    List.range' before.tokens.length (course.filterMap Happening.made?).length

namespace Passes

variable {before middle after : Emitter Value} {calls more : List (String × List Value)}
  {course later : List (Happening Value)}

theorem refl (emitter : Emitter Value) : Passes emitter [] [] emitter where
  journal := (List.append_nil _).symm
  listeners := rfl
  makes := .nil
  faithful := .nil
  tokens := rfl
  owned := trivial
  numbers := rfl

theorem trans (one : Passes before calls course middle) (two : Passes middle more later after) :
    Passes before (calls ++ more) (course ++ later) after where
  journal := by rw [two.journal, one.journal, List.append_assoc]
  listeners := by rw [two.listeners, one.listeners, following_append]
  makes := one.makes.append two.makes
  faithful := one.faithful.append (one.listeners ▸ two.faithful)
  tokens := by
    rw [two.tokens, one.tokens, List.filterMap_append, List.reverse_append, List.append_assoc]
  owned := one.owned.append (one.tokens ▸ two.owned)
  numbers := by
    -- the later course numbers on from the tokens that the first one leaves
    have count := congrArg List.length one.tokens
    rw [List.length_map, List.length_append, List.length_reverse, List.length_map,
      Nat.add_comm] at count
    rw [List.filterMap_append, List.map_append, one.numbers, two.numbers, count,
      List.length_append, List.range'_append_1]

/-- Something happens that makes no registration and neither begins nor ends an emit. -/
theorem of_unmade (emitter : Emitter Value) (happening : Happening Value)
    (inside : happening.isBound = false) (unmade : happening.made? = none)
    (owned : Owned (emitter.tokens.map (·.2)) [happening]) :
    Passes emitter happening.call?.toList [happening]
      ({ emitter with listeners := happening.act emitter.listeners }.note happening) where
  journal := rfl
  listeners := rfl
  makes := .singleton happening inside
  faithful := .singleton inside
  tokens := by rw [List.filterMap_cons_none unmade]; rfl
  owned := owned
  numbers := by rw [List.filterMap_cons_none unmade]; rfl

theorem called (emitter : Emitter Value) (callback : String) (values : List Value) :
    Passes emitter [(callback, values)] [.called callback values]
      (emitter.note (.called callback values)) :=
  .of_unmade emitter (.called callback values) rfl rfl trivial

theorem registered (emitter : Emitter Value) (event callback token : String) :
    Passes emitter [] [.registered ⟨emitter.tokens.length, event, callback⟩]
      (emitter.register event callback token) where
  journal := rfl
  listeners := rfl
  makes := .singleton (.registered _) rfl
  faithful := .singleton rfl
  tokens := rfl
  owned := trivial
  numbers := rfl

/-- An emit is a whole of its own, whose calls are those to the callbacks present. -/
theorem emitted {emitter : Emitter Value} {event : String} {values : List Value}
    (delivered : Passes (emitter.note (.began event values))
      ((emitter.listeners.of event).map (·, values)) course after) :
    Passes emitter [] (.began event values :: (course ++ [.ended])) (after.note .ended) where
  journal := by
    rw [note, delivered.journal]
    simp [note]
  listeners := delivered.listeners.trans (following_append _ course [.ended]).symm
  makes := delivered.makes.enclosed event values
  faithful := by
    refine Faithful.cons_iff.2 ⟨?_, delivered.faithful.append (.ended _)⟩
    rintro event values ⟨⟩
    rw [delivered.makes.outer]
    simp [callsMade]
  tokens := by
    rw [filterMap_made_emitted]
    exact delivered.tokens
  owned := Owned.append delivered.owned trivial
  numbers := by
    rw [filterMap_made_emitted]
    exact delivered.numbers

end Passes

theorem eq_of_remove? {emitter after : Emitter Value} {event callback : String}
    (removed : emitter.remove? event callback = some after) :
    let left := emitter.listeners.unsubscribe event callback
    after = { emitter with listeners := left }.note (.removed event callback) := by
  rw [remove?, off?] at removed
  split at removed
  next => exact (Option.some.inj removed).symm
  next => cases removed

end Emitter

end PatternDeck.Listeners
