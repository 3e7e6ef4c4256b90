import QueryShell.Files.Tree

/-!
What is found in a tree of files after a file was written: the file itself, and every path still
leads where it led before.
-/

namespace QueryShell.Files.Tree

variable {tree : Tree} {location place : Location} {path : String} {content old : ByteArray}

section Entries

theorem lookup_cons_eq (key : Location) (entry : Entry) (rest : List (Location × Entry)) :
    ((key, entry) :: rest).lookup place = if place = key then some entry else rest.lookup place := by
  by_cases same : place = key
  · subst same
    simp
  · have other : (place == key) = false := beq_false_of_ne same
    rw [List.lookup_cons, other, if_neg same]

theorem lookup_overwritten (location : Location) (entry : Entry)
    (entries : List (Location × Entry)) :
    (entries.map fun (place, old) =>
        if place = location then (place, entry) else (place, old)).lookup place =
      if place = location then (entries.lookup place).map fun _ => entry
      else entries.lookup place := by
  induction entries with
  | nil => simp
  | cons first rest ih =>
      obtain ⟨key, old⟩ := first
      rw [List.map_cons]
      dsimp only
      by_cases overwritten : key = location
      · rw [if_pos overwritten, lookup_cons_eq, lookup_cons_eq, ih]
        by_cases same : place = key
        · simp [same, overwritten]
        · have other : place ≠ location := overwritten ▸ same
          simp [same, other]
      · rw [if_neg overwritten, lookup_cons_eq, lookup_cons_eq, ih]
        by_cases same : place = key
        · simp [same, overwritten]
        · simp [same]

theorem lookup_set (location : Location) (entry : Entry) :
    (tree.set location entry).entries.lookup place =
      if place = location then some entry else tree.entries.lookup place := by
  simp only [set]
  split
  · rename_i present
    rw [lookup_overwritten]
    split
    · rename_i same
      obtain ⟨old, found⟩ := Option.isSome_iff_exists.mp present
      rw [same, found]
      rfl
    · rfl
  · rename_i absent
    have none : tree.entries.lookup location = none := Option.not_isSome_iff_eq_none.mp absent
    rw [List.lookup_append, lookup_cons_eq]
    split
    · rename_i same
      rw [same, none]
      rfl
    · rw [List.lookup_nil, Option.or_none]

theorem entryAt?_set (nested : location ≠ []) (entry : Entry) (place : Location) :
    (tree.set location entry).entryAt? place =
      if place = location then some entry else tree.entryAt? place := by
  simp only [entryAt?, lookup_set]
  by_cases root : place = []
  · have other : place ≠ location := by
      intro same
      exact nested (same.symm.trans root)
    simp [root, Ne.symm nested]
  · simp [root]

end Entries

theorem follow_set {names : List String} {start : Location} (nested : location ≠ [])
    (file : tree.entryAt? location ≠ some .directory) (content : ByteArray)
    (led : tree.follow start names = .ok place) :
    (tree.set location (.file content)).follow start names = .ok place := by
  induction names generalizing start with
  | nil => exact led
  | cons name rest ih =>
      simp only [follow] at led
      split at led
      · rename_i directory
        have other : start ≠ location := by
          rintro rfl
          exact file directory
        simp only [follow, entryAt?_set nested, if_neg other, directory]
        split at led
        · rename_i stays
          rw [if_pos stays]
          exact ih led
        · rename_i moves
          rw [if_neg moves]
          split at led
          · rename_i up
            rw [if_pos up]
            exact ih led
          · rename_i down
            rw [if_neg down]
            split at led
            · cases led
            · rename_i short
              rw [if_neg short]
              exact ih led
      · cases led
      · cases led

theorem current_set (tree : Tree) (location : Location) (entry : Entry) :
    (tree.set location entry).current = tree.current := by
  simp only [set]
  split
  · rfl
  · rfl

theorem locate_set (nested : location ≠ []) (file : tree.entryAt? location ≠ some .directory)
    (content : ByteArray) (located : tree.locate path = .ok place) :
    (tree.set location (.file content)).locate path = .ok place := by
  simp only [locate, current_set] at located ⊢
  split at located
  · cases located
  · rename_i named
    split at located
    · cases located
    · rename_i clean
      rw [if_neg named, if_neg clean]
      exact follow_set nested file content located

theorem find_set (located : tree.locate path = .ok location) (nested : location ≠ [])
    (file : tree.entryAt? location ≠ some .directory) (content : ByteArray) :
    (tree.set location (.file content)).find path = .ok (.file content) := by
  have relocated := locate_set nested file content located
  simp only [find, relocated, entryAt?_set nested, bind, Except.bind, if_true]

/-- A file that is there can be written, and then holds what was written. -/
theorem exists_write_of_file (found : tree.find path = .ok (.file old)) (content : ByteArray) :
    ∃ after, tree.write path content = .ok after ∧ after.find path = .ok (.file content) := by
  cases located : tree.locate path with
  | error error =>
      simp only [find, located] at found
      cases found
  | ok location =>
      have entry : tree.entryAt? location = some (.file old) := by
        simp only [find, located, bind, Except.bind] at found
        split at found
        · rename_i entry
          cases found
          exact entry
        · cases found
      have nested : location ≠ [] := by
        rintro rfl
        cases entry
      have file : tree.entryAt? location ≠ some .directory := by
        rw [entry]
        exact fun same => by cases same
      refine ⟨tree.set location (.file content), ?_, find_set located nested file content⟩
      simp only [write, located, entry, bind, Except.bind]

/-- A file that is missing in a directory can be written. -/
theorem exists_write_of_missing (location : Location) (located : tree.locate path = .ok location)
    (missing : (tree.entryAt? location).isNone = true)
    (directory : tree.containsDirectory location.dropLast = true) (content : ByteArray) :
    ∃ after, tree.write path content = .ok after ∧ after.find path = .ok (.file content) := by
  have none : tree.entryAt? location = none := Option.isNone_iff_eq_none.mp missing
  have nested : location ≠ [] := by
    rintro rfl
    cases none
  have file : tree.entryAt? location ≠ some .directory := by
    rw [none]
    exact fun same => by cases same
  refine ⟨tree.set location (.file content), ?_, find_set located nested file content⟩
  simp only [write, located, none, directory, bind, Except.bind, if_true]

end QueryShell.Files.Tree
