import QueryShell.Proofs.Files.Write

/-!
Trees of files that differ at most in one file. The same paths lead to the same places in them, and
once the file is written nothing tells them apart.
-/

namespace QueryShell.Files

def Entry.Writable (entry : Option Entry) : Prop :=
  ∀ found ∈ entry, ∃ content, found = .file content

theorem Entry.Writable.not_directory {entry : Option Entry} (writable : Writable entry) :
    entry ≠ some .directory := by
  rintro rfl
  obtain ⟨content, same⟩ := writable .directory rfl
  cases same

namespace Tree

structure Same (left right : Tree) : Prop where
  current : left.current = right.current
  entryAt? : ∀ place, left.entryAt? place = right.entryAt? place

structure Offers (tree : Tree) (path : String) (place : Location) : Prop where
  located : tree.locate path = .ok place
  directory : tree.containsDirectory place.dropLast = true
  writable : Entry.Writable (tree.entryAt? place)

/-- Two trees that differ at most in the file that a path leads to. It may be missing in one. -/
structure AlikeBut (path : String) (left right : Tree) : Prop where
  current : left.current = right.current
  entryAt? : ∀ place, left.entryAt? place = right.entryAt? place ∨
    left.Offers path place ∧ right.Offers path place

inductive SameChange : Except FileError Tree → Except FileError Tree → Prop
  | done {left right : Tree} (same : Same left right) : SameChange (.ok left) (.ok right)
  | failed (error : FileError) : SameChange (.error error) (.error error)

variable {left right : Tree} {path : String} {place start location : Location}
  {names : List String} {content : ByteArray}

namespace AlikeBut

theorem symm (alike : AlikeBut path left right) : AlikeBut path right left where
  current := alike.current.symm
  entryAt? place := (alike.entryAt? place).imp Eq.symm And.symm

theorem directory (alike : AlikeBut path left right)
    (found : left.entryAt? place = some .directory) : right.entryAt? place = some .directory := by
  rcases alike.entryAt? place with same | ⟨offers, -⟩
  · exact same ▸ found
  · exact (offers.writable.not_directory found).elim

theorem follow (alike : AlikeBut path left right) (led : left.follow start names = .ok place) :
    right.follow start names = .ok place := by
  -- Every place on the way is a directory, so it is none at which the trees differ.
  induction names generalizing start with
  | nil => exact led
  | cons name rest ih =>
      simp only [Tree.follow] at led
      split at led
      · rename_i found
        simp only [Tree.follow, alike.directory found]
        split at led
        · rename_i stays
          rw [if_pos stays]
          exact ih led
        · rename_i moves
          rw [if_neg moves]
          split at led
          · rename_i up
            rw [if_pos up]
            exact ih led
          · rename_i down
            rw [if_neg down]
            split at led
            · cases led
            · rename_i short
              rw [if_neg short]
              exact ih led
      · cases led
      · cases led

theorem locate (alike : AlikeBut path left right) {other : String}
    (located : left.locate other = .ok place) : right.locate other = .ok place := by
  simp only [Tree.locate, alike.current] at located ⊢
  split at located
  · cases located
  · rename_i named
    split at located
    · cases located
    · rename_i clean
      rw [if_neg named, if_neg clean]
      exact alike.follow located

/-- The place that the path leads to is the only one at which the trees may differ. -/
theorem entryAt?_of_ne (alike : AlikeBut path left right)
    (located : left.locate path = .ok location) (other : place ≠ location) :
    left.entryAt? place = right.entryAt? place := by
  rcases alike.entryAt? place with same | ⟨offers, -⟩
  · exact same
  · have here : place = location := Except.ok.inj (offers.located.symm.trans located)
    exact (other here).elim

theorem same_of_entryAt? (alike : AlikeBut path left right)
    (located : left.locate path = .ok location)
    (here : left.entryAt? location = right.entryAt? location) : Same left right where
  current := alike.current
  entryAt? place := by
    by_cases there : place = location
    · exact there ▸ here
    · exact alike.entryAt?_of_ne located there

theorem same_of_error (alike : AlikeBut path left right) {error : FileError}
    (nowhere : left.locate path = .error error) : Same left right where
  current := alike.current
  entryAt? place := by
    rcases alike.entryAt? place with same | ⟨offers, -⟩
    · exact same
    · cases offers.located.symm.trans nowhere

end AlikeBut

theorem AlikeBut.set (alike : AlikeBut path left right)
    (located : left.locate path = .ok location) (nested : location ≠ []) (entry : Entry) :
    Same (left.set location entry) (right.set location entry) where
  current := by rw [current_set, current_set, alike.current]
  entryAt? place := by
    rw [entryAt?_set nested, entryAt?_set nested]
    by_cases there : place = location
    · rw [if_pos there, if_pos there]
    · rw [if_neg there, if_neg there, alike.entryAt?_of_ne located there]

namespace Offers

variable {tree : Tree}

theorem nested (offers : tree.Offers path place) : place ≠ [] := by
  rintro rfl
  exact offers.writable.not_directory rfl

theorem write (offers : tree.Offers path place) (content : ByteArray) :
    tree.write path content = .ok (tree.set place (.file content)) := by
  simp only [Tree.write, offers.located, bind, Except.bind]
  cases found : tree.entryAt? place with
  | none => simp only [offers.directory, if_true]
  | some entry =>
      obtain ⟨old, rfl⟩ := offers.writable entry found
      rfl

theorem set (offers : tree.Offers path place) (content : ByteArray) :
    (tree.set place (.file content)).Offers path place := by
  have above : place.dropLast ≠ place := by
    intro same
    have shorter := congrArg List.length same
    have positive := List.length_pos_iff.mpr offers.nested
    rw [List.length_dropLast] at shorter
    omega
  refine ⟨?_, ?_, ?_⟩
  · exact locate_set offers.nested offers.writable.not_directory content offers.located
  · have directory := offers.directory
    rwa [containsDirectory, entryAt?_set offers.nested, if_neg above]
  · rw [entryAt?_set offers.nested, if_pos rfl]
    rintro _ ⟨⟩
    exact ⟨content, rfl⟩

theorem alikeBut_set (offers : tree.Offers path place) (content : ByteArray) :
    AlikeBut path tree (tree.set place (.file content)) where
  current := (current_set tree place _).symm
  entryAt? other := by
    by_cases here : other = place
    · subst here
      exact .inr ⟨offers, offers.set content⟩
    · rw [entryAt?_set offers.nested, if_neg here]
      exact .inl rfl

end Offers

namespace Same

theorem follow (same : Same left right) (start : Location) (names : List String) :
    left.follow start names = right.follow start names := by
  induction names generalizing start with
  | nil => rfl
  | cons name rest ih => simp only [Tree.follow, same.entryAt?, ih]

theorem locate (same : Same left right) (path : String) :
    left.locate path = right.locate path := by
  simp only [Tree.locate, same.current, same.follow]

theorem find (same : Same left right) (path : String) : left.find path = right.find path := by
  simp only [Tree.find, same.locate, same.entryAt?]

theorem readText (same : Same left right) (path : String) :
    left.readText path = right.readText path := by
  simp only [Tree.readText, Tree.read, same.find]

theorem set (same : Same left right) (location : Location) (entry : Entry) :
    Same (left.set location entry) (right.set location entry) where
  current := by rw [current_set, current_set, same.current]
  entryAt? place := by
    have before := same.entryAt? place
    simp only [Tree.entryAt?, lookup_set] at before ⊢
    split
    · rfl
    · rename_i below
      rw [if_neg below, if_neg below] at before
      rw [before]

theorem write (same : Same left right) (path : String) (content : ByteArray) :
    SameChange (left.write path content) (right.write path content) := by
  cases located : right.locate path with
  | error error =>
      simp only [Tree.write, same.locate, located, bind, Except.bind]
      exact .failed error
  | ok location =>
      have beside : left.containsDirectory location.dropLast =
          right.containsDirectory location.dropLast := by
        rw [containsDirectory, containsDirectory, same.entryAt?]
      simp only [Tree.write, same.locate, located, same.entryAt?, beside, bind, Except.bind]
      split
      · exact .failed _
      · exact .done same
      · split
        · exact .done same
        · exact .failed _
      · exact .done (same.set location _)
      · split
        · exact .done (same.set location _)
        · exact .failed _

theorem append (same : Same left right) (path : String) (content : ByteArray) :
    SameChange (left.append path content) (right.append path content) := by
  simp only [Tree.append, same.find]
  split
  · exact same.write path _
  · exact same.write path _

end Same

/-- Writing the file in which two trees may differ makes them the same. -/
theorem AlikeBut.write (alike : AlikeBut path left right) (content : ByteArray) :
    SameChange (left.write path content) (right.write path content) := by
  cases located : left.locate path with
  | error error => exact (alike.same_of_error located).write path content
  | ok location =>
      rcases alike.entryAt? location with same | ⟨offers, offers'⟩
      · exact (alike.same_of_entryAt? located same).write path content
      · rw [offers.write content, offers'.write content]
        exact .done (alike.set located offers.nested _)

end Tree

end QueryShell.Files
