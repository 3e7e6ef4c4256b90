import QueryShell.Proofs.Text.Trim
import QueryShell.Text.Search

/-!
Texts put together from pieces, and what they are taken apart into again. A line that was written
with a line feed is read without a carriage return at its end, which trimming would take away as
well.
-/

namespace QueryShell.Text

variable {separates : Char → Bool} {piece text : List Char} {separator : Char}

theorem pieces_ne_nil (separates : Char → Bool) (text : List Char) : pieces separates text ≠ [] := by
  cases text with
  | nil => exact List.cons_ne_nil _ _
  | cons char rest =>
      simp only [pieces]
      split
      · exact List.cons_ne_nil _ _
      · split
        · exact List.cons_ne_nil _ _
        · exact List.cons_ne_nil _ _

theorem pieces_of_unseparated (whole : ∀ char ∈ piece, separates char = false) :
    pieces separates piece = [piece] := by
  induction piece with
  | nil => rfl
  | cons char rest ih =>
      obtain ⟨first, whole⟩ := List.forall_mem_cons.mp whole
      simp [pieces, first, ih whole]

theorem pieces_append_cons (whole : ∀ char ∈ piece, separates char = false)
    (separated : separates separator = true) (rest : List Char) :
    pieces separates (piece ++ separator :: rest) = piece :: pieces separates rest := by
  induction piece with
  | nil => simp [pieces, separated]
  | cons char piece ih =>
      obtain ⟨first, whole⟩ := List.forall_mem_cons.mp whole
      simp [pieces, first, ih whole]

theorem pieces_intercalate {parts : List (List Char)} (separator : Char) (some_part : parts ≠ [])
    (whole : ∀ part ∈ parts, separator ∉ part) :
    pieces (· = separator) ([separator].intercalate parts) = parts := by
  have unseparated {part : List Char} (free : separator ∉ part) :
      ∀ char ∈ part, decide (char = separator) = false := by
    intro char member
    exact decide_eq_false fun same => free (same ▸ member)
  induction parts with
  | nil => exact (some_part rfl).elim
  | cons first others ih =>
      obtain ⟨free, whole⟩ := List.forall_mem_cons.mp whole
      by_cases alone : others = []
      · rw [alone, List.intercalate_singleton]
        exact pieces_of_unseparated (unseparated free)
      · rw [List.intercalate_cons_of_ne_nil alone, List.append_assoc, List.singleton_append,
          pieces_append_cons (unseparated free) (decide_eq_true rfl), ih alone whole]

theorem pieces_eq_splitOn (separator : Char) (text : List Char) :
    pieces (· = separator) text = text.splitOn separator := by
  induction text with
  | nil => rfl
  | cons char rest ih =>
      rw [List.splitOn_cons_eq_if_modifyHead, ← ih]
      by_cases separated : char = separator
      · simp [pieces, separated]
      · simp only [pieces, separated, decide_false, beq_iff_eq, if_false, Bool.false_eq_true]
        split
        · rename_i none
          exact (pieces_ne_nil _ _ none).elim
        · rename_i parts
          rw [parts]
          rfl

theorem of_mem_pieces {char : Char} (member : piece ∈ pieces separates text)
    (within : char ∈ piece) : char ∈ text ∧ separates char = false := by
  induction text generalizing piece with
  | nil =>
      obtain rfl := List.mem_singleton.mp member
      cases within
  | cons first rest ih =>
      have later {other : List Char} (among : other ∈ pieces separates rest) (inside : char ∈ other) :
          char ∈ first :: rest ∧ separates char = false := by
        obtain ⟨occurs, spared⟩ := ih among inside
        exact ⟨List.mem_cons_of_mem _ occurs, spared⟩
      simp only [pieces] at member
      split at member
      · rcases List.mem_cons.mp member with rfl | among
        · cases within
        · exact later among within
      · rename_i spared
        have plain : separates first = false := by simpa using spared
        split at member
        · obtain rfl := List.mem_singleton.mp member
          obtain rfl := List.mem_singleton.mp within
          exact ⟨List.mem_cons_self, plain⟩
        · rename_i next others parts
          rcases List.mem_cons.mp member with rfl | among
          · rcases List.mem_cons.mp within with rfl | inside
            · exact ⟨List.mem_cons_self, plain⟩
            · exact later (by rw [parts]; exact List.mem_cons_self) inside
          · exact later (by rw [parts]; exact List.mem_cons_of_mem _ among) within

theorem not_mem_intercalate {char : Char} {parts : List (List Char)} (other : char ≠ separator)
    (free : ∀ part ∈ parts, char ∉ part) : char ∉ [separator].intercalate parts := by
  induction parts with
  | nil => simp
  | cons first others ih =>
      obtain ⟨absent, free⟩ := List.forall_mem_cons.mp free
      by_cases alone : others = []
      · rw [alone, List.intercalate_singleton]
        exact absent
      · rw [List.intercalate_cons_of_ne_nil alone]
        simp [absent, other, ih free]

/-- A character that separates nothing goes to the last piece. -/
theorem exists_pieces_concat {char : Char} (spared : separates char = false) (text : List Char) :
    ∃ init last, pieces separates text = init ++ [last] ∧
      pieces separates (text ++ [char]) = init ++ [last ++ [char]] := by
  induction text with
  | nil => exact ⟨[], [], rfl, by simp [pieces, spared]⟩
  | cons first rest ih =>
      obtain ⟨init, last, parts, longer⟩ := ih
      by_cases separated : separates first = true
      · refine ⟨[] :: init, last, ?_, ?_⟩
        · simp [pieces, separated, parts]
        · simp [pieces, separated, longer]
      · cases init with
        | nil =>
            refine ⟨[], first :: last, ?_, ?_⟩
            · simp [pieces, separated, parts]
            · simp [pieces, separated, longer]
        | cons piece init =>
            refine ⟨(first :: piece) :: init, last, ?_, ?_⟩
            · simp [pieces, separated, parts]
            · simp [pieces, separated, longer]

section Lines

theorem linesOfPieces_cons (line : List Char) {rest : List (List Char)} (goes_on : rest ≠ []) :
    linesOfPieces (line :: rest) = withoutReturn line :: linesOfPieces rest := by
  cases rest with
  | nil => exact (goes_on rfl).elim
  | cons next others => rfl

theorem lines_of_ended {ended : List (List Char)} (whole : ∀ line ∈ ended, '\n' ∉ line) :
    lines (ended.flatMap fun line => line ++ ['\n']) = ended.map withoutReturn := by
  induction ended with
  | nil => rfl
  | cons line rest ih =>
      obtain ⟨free, whole⟩ := List.forall_mem_cons.mp whole
      have unseparated : ∀ char ∈ line, decide (char = '\n') = false := by
        intro char member
        exact decide_eq_false fun same => free (same ▸ member)
      have cut := pieces_append_cons unseparated (decide_eq_true rfl)
        (rest.flatMap fun line => line ++ ['\n'])
      simp only [lines] at ih ⊢
      rw [List.flatMap_cons, List.append_assoc, List.singleton_append, cut,
        linesOfPieces_cons line (pieces_ne_nil _ _), ih whole, List.map_cons]

theorem withoutReturn_cases (line : List Char) :
    withoutReturn line = line ∨ line = withoutReturn line ++ ['\r'] := by
  simp only [withoutReturn]
  split
  · rename_i returned
    obtain ⟨init, rfl⟩ := List.getLast?_eq_some_iff.mp returned
    right
    rw [List.dropLast_concat]
  · exact .inl rfl

theorem all_isBlank_withoutReturn (line : List Char) :
    (withoutReturn line).all isBlank = line.all isBlank := by
  rcases withoutReturn_cases line with same | returned
  · rw [same]
  · have blank : isBlank '\r' = true := by decide
    generalize withoutReturn line = kept at returned ⊢
    rw [returned, List.all_append, List.all_cons, blank]
    simp

/-- A carriage return at the end of a line is in its last piece, where trimming takes it away. -/
theorem map_trim_pieces_withoutReturn (spared : separates '\r' = false) (line : List Char) :
    (pieces separates (withoutReturn line)).map trim = (pieces separates line).map trim := by
  rcases withoutReturn_cases line with same | returned
  · rw [same]
  · generalize withoutReturn line = kept at returned ⊢
    obtain ⟨init, last, parts, longer⟩ := exists_pieces_concat spared kept
    have blank : ∀ char ∈ ['\r'], isBlank char = true := List.forall_mem_singleton.mpr (by decide)
    have trimmed : trim (last ++ ['\r']) = trim last := trim_append_blank blank last
    rw [returned, parts, longer, List.map_append, List.map_append, List.map_singleton,
      List.map_singleton, trimmed]

end Lines

end QueryShell.Text
