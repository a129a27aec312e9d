import PatternDeck.Folder
import PatternDeck.Proofs.Outcome

/-!
Files after writing. The file that a path leads to does not hang on the files that there are, so a text
that was written beside a file and put in its place is what the path gives from then on.
-/
namespace PatternDeck.Folder

variable {folder other middle after : Folder} {spot : Place}
variable {path source target file origin place text : String}

theorem walk_congr {base : String} {parts : List String}
    (led : folder.walk base parts = .ok spot) : other.walk base parts = .ok spot := by
  induction parts generalizing base with
  | nil => exact led
  | cons part rest ih =>
    simp only [walk] at led ⊢
    split at led
    next stays => rw [if_pos stays, ih led]
    next moves =>
      rw [if_neg moves]
      split at led
      next up => rw [if_pos up, ih led]
      next down =>
        rw [if_neg down]
        split at led
        · cases led
        next short =>
          rw [if_neg short]
          split at led
          next last => rw [if_pos last, led]
          -- behind a file, or behind nothing, there is no place
          · split at led <;> cases led

theorem locate_congr (led : folder.locate path = .ok spot) : other.locate path = .ok spot := by
  unfold locate at led ⊢
  split at led
  · cases led
  next clean =>
    split at led
    · cases led
    next named =>
      split at led
      · cases led
      next short =>
        rw [if_neg clean, if_neg named, if_neg short]
        exact walk_congr led

theorem lookup_put (folder : Folder) (file text : String) :
    (folder.put file text).files.lookup file = some text := by
  have gone : (folder.files.filter (·.1 != file)).lookup file = none := by
    rw [List.lookup_eq_none_iff]
    intro other there
    have differs : other.1 ≠ file := by simpa using (List.mem_filter.1 there).2
    exact bne_iff_ne.2 differs.symm
  rw [put, List.lookup_append, gone, Option.none_or, List.lookup_cons_self]

theorem write_eq_ok (written : folder.write path text = .ok after) :
    ∃ file, folder.locate path = .ok (.file file) ∧ after = folder.put file text := by
  obtain ⟨_ | file, led, put⟩ := bind_eq_ok_iff.1 written
  · cases put
  · cases put
    exact ⟨file, led, rfl⟩

theorem move_eq_ok (moved : folder.move source target = .ok after) :
    ∃ origin place text, folder.locate source = .ok (.file origin) ∧
      folder.locate target = .ok (.file place) ∧ folder.files.lookup origin = some text ∧
      after = (folder.remove origin).put place text := by
  obtain ⟨from_, ledSource, rest⟩ := bind_eq_ok_iff.1 moved
  obtain ⟨to_, ledTarget, rest⟩ := bind_eq_ok_iff.1 rest
  rcases from_ with _ | origin
  · cases rest
  · rcases to_ with _ | place
    · cases rest
    · simp only at rest
      split at rest
      next text there =>
        cases rest
        exact ⟨origin, place, text, ledSource, ledTarget, there, rfl⟩
      next => cases rest

theorem contains_of_lookup (led : folder.locate path = .ok (.file file))
    (there : folder.files.lookup file = some text) : folder.contains path = true := by
  simp [contains, led, there]

theorem read_of_lookup (led : folder.locate path = .ok (.file file))
    (there : folder.files.lookup file = some text) :
    folder.read path = .ok (String.ofList (Text.unifyBreaks text.toList)) := by
  rw [read, led, ok_bind]
  simp only [there]
  rfl

/-- What was written under one path and then put in the place of another is there. -/
theorem read_of_replaced (written : folder.write source text = .ok middle)
    (moved : middle.move source target = .ok after) :
    after.contains target = true ∧
      after.read target = .ok (String.ofList (Text.unifyBreaks text.toList)) := by
  obtain ⟨file, led, rfl⟩ := write_eq_ok written
  obtain ⟨origin, place, found, ledSource, ledTarget, there, rfl⟩ := move_eq_ok moved
  -- the source is the file that was just written
  have same : Place.file origin = .file file :=
    Except.ok.inj (ledSource.symm.trans (locate_congr led))
  cases same
  rw [lookup_put, Option.some.injEq] at there
  subst found
  have led' : (((folder.put file text).remove file).put place text).locate target =
      .ok (.file place) := locate_congr ledTarget
  exact ⟨contains_of_lookup led' (lookup_put _ _ _), read_of_lookup led' (lookup_put _ _ _)⟩

theorem write_of_locate (led : folder.locate path = .ok (.file file)) (text : String) :
    folder.write path text = .ok (folder.put file text) := by
  rw [write, led]
  rfl

theorem move_of_locate (ledSource : folder.locate source = .ok (.file origin))
    (ledTarget : folder.locate target = .ok (.file place))
    (there : folder.files.lookup origin = some text) :
    folder.move source target = .ok ((folder.remove origin).put place text) := by
  rw [move, ledSource, ledTarget]
  simp only [ok_bind, there]
  rfl

theorem contains_of_read (read : folder.read path = .ok text) : folder.contains path = true := by
  obtain ⟨_ | file, led, rest⟩ := bind_eq_ok_iff.1 read
  · cases rest
  · simp only at rest
    split at rest
    next found there => exact contains_of_lookup led there
    next => cases rest

theorem remove_put (folder : Folder) (file text : String) :
    (folder.put file text).remove file = folder.remove file := by
  simp [remove, put, List.filter_append, List.filter_filter]

theorem put_put (folder : Folder) (file text later : String) :
    (folder.put file text).put file later = folder.put file later := by
  simp [put, List.filter_append, List.filter_filter]

theorem remove_put_of_ne (folder : Folder) (differs : file ≠ place) (text : String) :
    (folder.put file text).remove place = (folder.remove place).put file text := by
  have other : file != place := by simpa using differs
  simp [remove, put, List.filter_append, List.filter_filter, other, Bool.and_comm]

/-- The folder once a text was written beside a file and put in its place. -/
def exchanged (folder : Folder) (beside place text : String) : Folder :=
  (folder.remove beside).put place text

/-- Of two texts in one place the later stays, and nothing tells that there was another. -/
theorem exchanged_exchanged (folder : Folder) (beside place text later : String) :
    (folder.exchanged beside place text).exchanged beside place later =
      folder.exchanged beside place later := by
  have removed : (folder.remove beside).remove beside = folder.remove beside := by
    simp [remove, List.filter_filter]
  by_cases same : place = beside
  · rw [exchanged, exchanged, same, remove_put, removed]
    rfl
  · rw [exchanged, exchanged, remove_put_of_ne _ same, removed, put_put]
    rfl

end PatternDeck.Folder
