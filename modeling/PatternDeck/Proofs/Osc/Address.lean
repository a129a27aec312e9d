import Mathlib.Data.List.Infix
import PatternDeck.Osc.Surface

/-!
Where addresses lead. The first part of an address that a pattern leads to is the pattern's own, so a
message has one route at most; and an address has no fewer parts than its pattern, so the parts that a
route reads are there.
-/
namespace PatternDeck.Osc

section Parts

theorem segments_cons_slash (s : List Char) : segments ('/' :: s) = [] :: segments s := by
  rw [segments, if_pos rfl]

theorem segments_append {word : List Char} (plain : '/' ∉ word) (rest : List Char) :
    segments (word ++ '/' :: rest) = word :: segments rest := by
  induction word with
  | nil => exact segments_cons_slash rest
  | cons c word ih =>
    rw [List.mem_cons, not_or] at plain
    rw [List.cons_append, segments, if_neg (Ne.symm plain.1), ih plain.2]

theorem segments_of_plain {word : List Char} (plain : '/' ∉ word) : segments word = [word] := by
  induction word with
  | nil => rfl
  | cons c word ih =>
    rw [List.mem_cons, not_or] at plain
    rw [segments, if_neg (Ne.symm plain.1), ih plain.2]

/-- An address has one part more than slashes. -/
theorem length_segments (s : List Char) : (segments s).length = s.count '/' + 1 := by
  induction s with
  | nil => rfl
  | cons c s ih =>
    by_cases slash : c = '/'
    · rw [slash, segments_cons_slash, List.length_cons, ih, List.count_cons_self]
    · rw [segments, if_neg slash, List.count_cons_of_ne slash, ← ih]
      cases parts : segments s with
      | nil => simp [parts] at ih
      | cons first more => rfl

end Parts

section Fits

variable {pattern s t : List Char}

theorem suffix_of_mem_lineEnds (later : t ∈ lineEnds s) : t <:+ s := by
  induction s with
  | nil =>
    rw [lineEnds, List.mem_singleton] at later
    exact later ▸ List.suffix_refl _
  | cons c s ih =>
    rw [lineEnds, List.mem_cons] at later
    rcases later with rfl | later
    · exact List.suffix_refl _
    · split at later
      · cases later
      · exact (ih later).trans (List.suffix_cons c s)

theorem fits_star (pattern s : List Char) :
    fits ('*' :: pattern) s = (lineEnds s).any (fits pattern) := by
  rw [fits.eq_def]
  rfl

theorem fits_literal {p : Char} (literal : p ≠ '*') :
    fits (p :: pattern) s ↔ ∃ rest, s = p :: rest ∧ fits pattern rest := by
  rw [fits.eq_def]
  simp only [if_neg literal]
  rcases s with _ | ⟨c, s⟩
  · simp
  · simp only [Bool.and_eq_true, beq_iff_eq, List.cons.injEq]
    constructor
    · rintro ⟨rfl, fit⟩
      exact ⟨s, ⟨rfl, rfl⟩, fit⟩
    · rintro ⟨rest, ⟨rfl, rfl⟩, fit⟩
      exact ⟨rfl, fit⟩

/-- A star takes slashes for what they are, and leaves none of the pattern's out. -/
theorem count_le_of_fits (fit : fits pattern s) : pattern.count '/' ≤ s.count '/' := by
  induction pattern generalizing s with
  | nil => simp
  | cons p pattern ih =>
    by_cases star : p = '*'
    · rw [star, fits_star] at fit
      obtain ⟨t, later, fit⟩ := List.any_eq_true.1 fit
      rw [star, List.count_cons_of_ne (by decide)]
      exact (ih fit).trans ((suffix_of_mem_lineEnds later).sublist.count_le _)
    · obtain ⟨rest, rfl, later⟩ := (fits_literal star).1 fit
      rw [List.count_cons, List.count_cons]
      exact Nat.add_le_add_right (ih later) _

/-- What a pattern says before its first star, the text says. -/
theorem prefix_of_fits {front : List Char} (literal : '*' ∉ front) (fit : fits (front ++ pattern) s) :
    front <+: s := by
  induction front generalizing s with
  | nil => exact List.nil_prefix
  | cons p front ih =>
    rw [List.mem_cons, not_or] at literal
    obtain ⟨rest, rfl, later⟩ := (fits_literal (Ne.symm literal.1)).1 fit
    exact List.cons_prefix_cons.2 ⟨rfl, ih literal.2 later⟩

theorem leadsTo_cases {address : List Char} (leads : leadsTo pattern address) :
    pattern = address ∨ '*' ∈ pattern ∧ ∃ body, body <+: address ∧ fits pattern body := by
  unfold leadsTo at leads
  split at leads
  next star =>
    simp only [Bool.or_eq_true, Bool.and_eq_true] at leads
    rcases leads with fit | ⟨-, fit⟩
    · exact .inr ⟨star, address, List.prefix_refl _, fit⟩
    · exact .inr ⟨star, _, List.dropLast_prefix _, fit⟩
  next => exact .inl (by simpa using leads)

theorem length_segments_of_leadsTo {address : List Char} (leads : leadsTo pattern address) :
    (segments pattern).length ≤ (segments address).length := by
  rw [length_segments, length_segments]
  rcases leadsTo_cases leads with rfl | ⟨-, body, front, fit⟩
  · exact le_refl _
  · exact Nat.succ_le_succ ((count_le_of_fits fit).trans (front.sublist.count_le _))

/-- The first part of an address is its pattern's, if there is no star in it. -/
theorem segments_of_leadsTo {address word tail : List Char} (plain : '/' ∉ word)
    (literal : '*' ∉ word) (ends : tail = [] ∨ ∃ more, tail = '/' :: more)
    (leads : leadsTo ('/' :: (word ++ tail)) address) : (segments address)[1]? = some word := by
  rcases leadsTo_cases leads with rfl | ⟨star, body, front, fit⟩
  · rcases ends with rfl | ⟨more, rfl⟩
    · rw [List.append_nil, segments_cons_slash, segments_of_plain plain]
      rfl
    · rw [segments_cons_slash, segments_append plain]
      rfl
  · obtain ⟨more, rfl⟩ : ∃ more, tail = '/' :: more := by
      rcases ends with rfl | more
      · simp [literal] at star
      · exact more
    have begins : '/' :: (word ++ ['/']) <+: address := by
      have fit : fits ('/' :: (word ++ ['/']) ++ more) body := by simpa using fit
      exact (prefix_of_fits (by simp [literal]) fit).trans front
    obtain ⟨rest, rfl⟩ := begins
    rw [List.cons_append, List.append_assoc, segments_cons_slash, List.singleton_append,
      segments_append plain]
    rfl

end Fits

section Routes

/-- The first part of the addresses of a route. -/
def Route.name : Route → String
  | toggle => "toggle"
  | start => "start"
  | stop => "stop"
  | stopAll => "stop_all"
  | select => "select"
  | knob => "knob"
  | parameter => "param"
  | code => "code"

theorem Route.eq_of_name_eq {route other : Route} (same : route.name = other.name) :
    route = other := by
  cases route <;> cases other <;> first | rfl | simp [name] at same

variable {address : String} {route : Route}

theorem mem_routesOf_iff :
    route ∈ routesOf address ↔
      ∃ pattern, (pattern, route) ∈ routes ∧ leadsTo pattern.toList address.toList := by
  simp [routesOf]

theorem shape_of_mem_routes {pattern : String} (listed : (pattern, route) ∈ routes) :
    ∃ tail, pattern.toList = '/' :: (route.name.toList ++ tail) ∧
      (tail = [] ∨ ∃ more, tail = '/' :: more) := by
  simp only [routes, List.mem_cons, Prod.mk.injEq, List.not_mem_nil, or_false] at listed
  rcases listed with ⟨rfl, rfl⟩ | ⟨rfl, rfl⟩ | ⟨rfl, rfl⟩ | ⟨rfl, rfl⟩ | ⟨rfl, rfl⟩ | ⟨rfl, rfl⟩ |
    ⟨rfl, rfl⟩ | ⟨rfl, rfl⟩
  · exact ⟨['/', '*'], rfl, .inr ⟨_, rfl⟩⟩
  · exact ⟨['/', '*'], rfl, .inr ⟨_, rfl⟩⟩
  · exact ⟨['/', '*'], rfl, .inr ⟨_, rfl⟩⟩
  · exact ⟨[], rfl, .inl rfl⟩
  · exact ⟨[], rfl, .inl rfl⟩
  · exact ⟨['/', '*'], rfl, .inr ⟨_, rfl⟩⟩
  · exact ⟨['/', '*', '/', '*'], rfl, .inr ⟨_, rfl⟩⟩
  · exact ⟨['/', '*'], rfl, .inr ⟨_, rfl⟩⟩

/-- A message goes by the first part of its address. -/
theorem segment_of_mem_routesOf (leads : route ∈ routesOf address) :
    segment address 1 = route.name.toList := by
  obtain ⟨pattern, listed, leads⟩ := mem_routesOf_iff.1 leads
  obtain ⟨tail, shape, ends⟩ := shape_of_mem_routes listed
  have plain : '/' ∉ route.name.toList ∧ '*' ∉ route.name.toList := by
    cases route <;> decide
  rw [shape] at leads
  rw [segment, segments_of_leadsTo plain.1 plain.2 ends leads]
  rfl

/-- How many parts of an address a route reads, counting from the empty one before the first slash. -/
def Route.parts : Route → Nat
  | stopAll | select => 2
  | toggle | start | stop | knob | code => 3
  | parameter => 4

/-- An address has all the parts that are read from it. -/
theorem parts_le_of_mem_routesOf (leads : route ∈ routesOf address) :
    route.parts ≤ (segments address.toList).length := by
  obtain ⟨pattern, listed, leads⟩ := mem_routesOf_iff.1 leads
  have own : ∀ listed ∈ routes, listed.2.parts ≤ (segments listed.1.toList).length := by
    decide
  exact (own _ listed).trans (length_segments_of_leadsTo leads)

/-- A message has one route at most. -/
theorem routesOf_cases (address : String) :
    routesOf address = [] ∨ ∃ route, routesOf address = [route] := by
  have distinct : (routesOf address).Nodup := by
    refine List.Nodup.sublist (List.filter_sublist.map _) ?_
    decide
  rcases found : routesOf address with _ | ⟨route, _ | ⟨other, more⟩⟩
  · exact .inl rfl
  · exact .inr ⟨route, rfl⟩
  · rw [found] at distinct
    have first : segment address 1 = route.name.toList := segment_of_mem_routesOf (by simp [found])
    have second : segment address 1 = other.name.toList := segment_of_mem_routesOf (by simp [found])
    have same := Route.eq_of_name_eq (String.toList_inj.1 (first.symm.trans second))
    simp [same] at distinct

end Routes

end PatternDeck.Osc
