import Mathlib.Data.List.Forall2
import QueryShell.Machine
import QueryShell.Proofs.Run.Iteration
import QueryShell.Proofs.Statement.Cursor
import QueryShell.Scripted.Engine

/-!
Runs that keep no fragments. A bookmark keeps a text, how many of its bytes are read and the latest
code, and reads every statement from a fresh cursor on the rest of the text. Runs on bookmarks go
through the same iterations as runs on frames, and every bookmark lies between two statements.
-/

namespace QueryShell.Run

open Statement

variable {World Store : Type}

structure Bookmark where
  cursor : Cursor
  last : Int := 0
deriving DecidableEq, Repr

namespace Bookmark

def ofText (text : String) : Bookmark := { cursor := { text } }

inductive Progress where
  | running (bookmarks : List Bookmark)
  | ended (outcome : Outcome)
deriving DecidableEq, Repr

def settled (code : Int) (ignoresErrors : Bool) : List Bookmark → Progress
  | [] => .ended (.code code)
  | bookmark :: outer =>
      if code = 0 || ignoresErrors then .running ({ bookmark with last := code } :: outer)
      else settled code ignoresErrors outer

def advance (platform : Platform World Store) (bookmarks : List Bookmark)
    (shell : Shell World Store) : Option (Progress × Shell World Store) :=
  match bookmarks with
  | [] => some (.ended (.code 0), shell)
  | bookmark :: outer =>
      bookmark.cursor.resume?.map fun
        | (none, _) =>
            if outer.isEmpty then (.ended (.code bookmark.last), shell)
            else (settled bookmark.last shell.session.ignoresErrors outer, shell)
        | (some statement, cursor) =>
            let bookmarks := { bookmark with cursor } :: outer
            match dispatch platform statement bookmarks.length shell with
            | (.exit code, shell) => (.ended (.exit code), shell)
            | (.enter text, shell) => (.running (ofText text :: bookmarks), shell)
            | (.done code, shell) => (settled code shell.session.ignoresErrors bookmarks, shell)

def iterate (platform : Platform World Store) :
    Nat → Progress × Shell World Store → Option (Progress × Shell World Store)
  | 0, state => some state
  | _ + 1, (.ended outcome, shell) => some (.ended outcome, shell)
  | count + 1, (.running bookmarks, shell) => do
      iterate platform count (← advance platform bookmarks shell)

/-- Whether a bookmark lies where a frame has got to: behind some statements of its text and in
front of the rest, which has the fragments that the frame has not read. -/
structure Marks (bookmark : Bookmark) (frame : Frame) : Prop where
  last_eq : bookmark.last = frame.last
  exists_rest : ∃ earlier rest, bookmark.cursor.StandsAt earlier rest ∧
    frame.unread = fragments rest.toList

inductive Follows : Progress → Run.Progress → Prop
  | running {bookmarks : List Bookmark} {frames : List Frame}
      (marks : List.Forall₂ Marks bookmarks frames) :
      Follows (.running bookmarks) (.running frames)
  | ended (outcome : Outcome) : Follows (.ended outcome) (.ended outcome)

variable {platform : Platform World Store} {bookmark : Bookmark} {frame : Frame}
  {outer : List Bookmark} {below : List Frame} {shell : Shell World Store}

theorem ofText_marks (text : String) : Marks (ofText text) (Frame.ofText text) :=
  ⟨rfl, [], text, Cursor.standsAt_start text, rfl⟩

theorem settled_follows (code : Int) (ignoresErrors : Bool)
    (marks : List.Forall₂ Marks outer below) :
    Follows (settled code ignoresErrors outer) (Run.settled code ignoresErrors below) := by
  by_cases passed : Passes code ignoresErrors
  · cases marks with
    | nil => exact .ended _
    | @cons bookmark frame outer below here later =>
        have kept : settled code ignoresErrors (bookmark :: outer) =
            .running ({ bookmark with last := code } :: outer) := by
          rw [settled, if_pos (by simpa [Passes] using passed)]
        rw [kept, settled_of_passes passed]
        exact .running (.cons ⟨rfl, here.exists_rest⟩ later)
  · have failed : ¬(decide (code = 0) || ignoresErrors) = true := by simpa [Passes] using passed
    have given_up : settled code ignoresErrors outer = .ended (.code code) := by
      clear marks
      induction outer with
      | nil => rfl
      | cons bookmark outer ih => rw [settled, if_neg failed, ih]
    rw [given_up, settled_of_not_passes passed]
    exact .ended _

theorem Marks.finished (marks : Marks bookmark frame) (finished : next? frame.unread = none) :
    ∃ cursor, bookmark.cursor.resume? = some (none, cursor) := by
  obtain ⟨earlier, rest, stands, unread⟩ := marks.exists_rest
  rw [unread] at finished
  exact ⟨_, stands.resume?_eq.trans (stands.finished finished)⟩

theorem Marks.read (marks : Marks bookmark frame) {statement : List Char}
    {unread : List (List Char)} (found : next? frame.unread = some (statement, unread)) :
    ∃ cursor, bookmark.cursor.resume? = some (some (String.ofList statement), cursor) ∧
      Marks { bookmark with cursor } { frame with unread } := by
  obtain ⟨earlier, rest, stands, same⟩ := marks.exists_rest
  rw [same] at found
  obtain ⟨slice, back, rfl, left, isSlice⟩ := exists_slice found
  obtain ⟨ahead, result, -, -, behind⟩ := stands.next isSlice
  exact ⟨ahead, stands.resume?_eq.trans result, marks.last_eq, _, back, behind, left⟩

theorem advance_follows (platform : Platform World Store)
    (marks : List.Forall₂ Marks outer below) (shell : Shell World Store) :
    ∃ progress, advance platform outer shell =
        some (progress, (Run.advance platform below shell).2) ∧
      Follows progress (Run.advance platform below shell).1 := by
  cases marks with
  | nil => exact ⟨_, rfl, .ended _⟩
  | @cons bookmark frame outer below here later =>
      have depth := later.length_eq
      cases iteration platform frame below shell with
      | finished found result =>
          obtain ⟨cursor, read⟩ := here.finished found
          have handed_down : advance platform (bookmark :: outer) shell =
              some (settled bookmark.last shell.session.ignoresErrors outer, shell) := by
            rw [advance, read]
            cases outer with
            | nil => rfl
            | cons next others => rfl
          rw [result, handed_down, here.last_eq]
          exact ⟨_, rfl, settled_follows _ _ later⟩
      | done found asked result =>
          obtain ⟨cursor, read, marks⟩ := here.read found
          rw [result]
          refine ⟨_, ?_, settled_follows _ _ (.cons marks later)⟩
          simp only [advance, read, Option.map_some, List.length_cons, depth, asked]
      | exit found asked result =>
          obtain ⟨cursor, read, marks⟩ := here.read found
          rw [result]
          refine ⟨_, ?_, .ended _⟩
          simp only [advance, read, Option.map_some, List.length_cons, depth, asked]
      | enter found asked result =>
          obtain ⟨cursor, read, marks⟩ := here.read found
          rw [result]
          refine ⟨_, ?_, .running (.cons (ofText_marks _) (.cons marks later))⟩
          simp only [advance, read, Option.map_some, List.length_cons, depth, asked]

theorem iterate_follows (platform : Platform World Store) (count : Nat) {progress : Progress}
    {stand : Run.Progress} (follows : Follows progress stand) (shell : Shell World Store) :
    ∃ reached, iterate platform count (progress, shell) =
        some (reached, (Run.iterate platform count (stand, shell)).2) ∧
      Follows reached (Run.iterate platform count (stand, shell)).1 := by
  induction count generalizing progress stand shell with
  | zero => exact ⟨progress, rfl, follows⟩
  | succ count ih =>
      cases follows with
      | ended outcome => exact ⟨.ended outcome, rfl, .ended outcome⟩
      | running marks =>
          obtain ⟨next, advanced, follows⟩ := advance_follows platform marks shell
          obtain ⟨reached, iterated, follows⟩ :=
            ih follows (Run.advance platform _ shell).2
          exact ⟨reached, by rw [iterate, advanced]; exact iterated, follows⟩

theorem iterate_ends_text (platform : Platform World Store) (text : String)
    (shell : Shell World Store) :
    ∃ count, iterate platform count (.running [ofText text], shell) =
      some (.ended (Run.text platform text shell).1, (Run.text platform text shell).2) := by
  have start : Admissible [Frame.ofText text] := ⟨List.cons_ne_nil _ _, by simp [maxDepth]⟩
  obtain ⟨count, ended, -⟩ := iterate_ends platform [Frame.ofText text] shell start
  obtain ⟨reached, iterated, follows⟩ :=
    iterate_follows platform count (.running (.cons (ofText_marks text) .nil)) shell
  rw [ended] at iterated follows
  cases follows
  exact ⟨count, iterated⟩

end Bookmark

/-- Positions alone are enough to read a text, and to run it. A run that keeps bookmarks instead of
frames goes through the same iterations, and ends with the outcome of the text. -/
theorem positions_suffice (platform : Platform World Store) (text : String)
    (shell : Shell World Store) :
    Positioned text ∧
      (∀ count, ∃ progress,
        Bookmark.iterate platform count (.running [Bookmark.ofText text], shell) =
            some (progress, (iterate platform count (.running [Frame.ofText text], shell)).2) ∧
          Bookmark.Follows progress
            (iterate platform count (.running [Frame.ofText text], shell)).1) ∧
      ∃ count, Bookmark.iterate platform count (.running [Bookmark.ofText text], shell) =
        some (.ended (Run.text platform text shell).1, (Run.text platform text shell).2) := by
  refine ⟨positioned text, fun count => ?_, Bookmark.iterate_ends_text platform text shell⟩
  have start : Bookmark.Follows (.running [Bookmark.ofText text]) (.running [Frame.ofText text]) :=
    .running (.cons (Bookmark.ofText_marks text) .nil)
  exact Bookmark.iterate_follows platform count start shell

theorem positions_suffice_beside_wide_character :
    let text := "é\\;b; ;c"
    splitWithPositions text = [("é;b", 6)] ++ ("c", 9) :: [] ∧
      ¬String.Pos.Raw.IsValid text ⟨1⟩ ∧
      Cursor.Passes Cursor.resume? { text } [("é;b", 6), ("c", 9)] 9 ∧
      ∃ front slice back, IsDivided text [("é;b", 6)] "c" 9 [] front slice back := by
  intro text
  have found : splitWithPositions text = [("é;b", 6)] ++ ("c", 9) :: [] := by decide +kernel
  let platform : Platform Machine Scripted.EngineState := ⟨Machine.host, .local Scripted.engine⟩
  obtain ⟨positioned, -, -⟩ := positions_suffice platform text ⟨{}, {}, {}⟩
  obtain ⟨-, division⟩ := positioned.divided _ _ _ _ found
  refine ⟨found, ?_, (positioned.read_anew _ _).mpr ⟨found.symm, by decide⟩, division⟩
  rw [← positioned.sliced]
  decide +kernel

end QueryShell.Run
