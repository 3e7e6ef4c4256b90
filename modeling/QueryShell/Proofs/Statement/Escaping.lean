import QueryShell.Proofs.Statement.Grammar
import QueryShell.Text.Search

/-!
Escaping undone by reading. A statement in which every terminator is escaped is one group, and its
text is the statement, unless the statement ends in the escape character: then the terminator after
it is taken for a part of it.
-/

namespace QueryShell.Statement

open Text

def escaped (statement : List Char) : List Char :=
  substitute terminator [escape, terminator] statement

def written (statement : String) : String := String.ofList (escaped statement.toList)

def script (entries : List (String × String)) : String :=
  String.join (entries.map fun entry => entry.1 ++ written entry.2 ++ ";")

def rejoined (statements : List String) : String :=
  ";".intercalate (statements.map written) ++ ";"

structure Restorable (statement : String) : Prop where
  nonempty : statement ≠ ""
  neat : trimmed statement = statement
  ends : continues statement.toList = false

theorem Restorable.chars_ne_nil {statement : String} (restorable : Restorable statement) :
    statement.toList ≠ [] :=
  fun empty => restorable.nonempty (String.toList_eq_nil_iff.mp empty)

theorem Restorable.trim_chars {statement : String} (restorable : Restorable statement) :
    trim statement.toList = statement.toList := by
  simpa [trimmed] using congrArg String.toList restorable.neat

section Pieces

variable {statement : List Char}

/-- Escaping adds an escape to every piece but the last. -/
theorem splitOn_escaped (statement : List Char) :
    ∃ init last, statement.splitOn terminator = init ++ [last] ∧
      (escaped statement).splitOn terminator = init.map (· ++ [escape]) ++ [last] := by
  induction statement with
  | nil => exact ⟨[], [], rfl, rfl⟩
  | cons char rest ih =>
      obtain ⟨init, last, plain, marked⟩ := ih
      by_cases ends : char = terminator
      · have grown : escaped (char :: rest) = escape :: terminator :: escaped rest := by
          simp [escaped, substitute, ends]
        refine ⟨[] :: init, last, ?_, ?_⟩
        · simp [List.splitOn_cons_eq_if_modifyHead, ends, plain]
        · simp [grown, List.splitOn_cons_eq_if_modifyHead, terminator_ne_escape.symm, marked]
      · have grown : escaped (char :: rest) = char :: escaped rest := by
          simp [escaped, substitute, ends]
        cases init with
        | nil =>
            refine ⟨[], char :: last, ?_, ?_⟩
            · simp [List.splitOn_cons_eq_if_modifyHead, ends, plain]
            · simp [grown, List.splitOn_cons_eq_if_modifyHead, ends, marked]
        | cons first init =>
            refine ⟨(char :: first) :: init, last, ?_, ?_⟩
            · simp [List.splitOn_cons_eq_if_modifyHead, ends, plain]
            · simp [grown, List.splitOn_cons_eq_if_modifyHead, ends, marked]

theorem continues_mark (piece : List Char) : continues (piece ++ [escape]) = true := by
  simp [continues]

theorem continued_marked (init : List (List Char)) :
    ∀ piece ∈ init.map (· ++ [escape]), continues piece = true := by
  intro piece member
  obtain ⟨plain, -, rfl⟩ := List.mem_map.mp member
  exact continues_mark plain

theorem continues_last {init : List (List Char)} {last : List Char}
    (parts : statement.splitOn terminator = init ++ [last]) :
    continues last = continues statement := by
  rw [← isOpen_concat init, ← parts, isOpen_splitOn]

theorem continues_escaped (statement : List Char) :
    continues (escaped statement) = continues statement := by
  obtain ⟨init, last, plain, marked⟩ := splitOn_escaped statement
  rw [← continues_last plain, continues_last marked]

theorem splitChars_escaped (ends : continues statement = false) :
    splitChars (escaped statement ++ [terminator]) = listed (trim statement) := by
  obtain ⟨init, last, plain, marked⟩ := splitOn_escaped statement
  have lastEnds : continues last = false := by rw [continues_last plain, ends]
  have restored : opened (init.map (· ++ [escape])) ++ last = statement := by
    calc opened (init.map (· ++ [escape])) ++ last
        = [terminator].intercalate (init ++ [last]) := by
          simp [opened, intercalate_concat, List.flatMap_map]
      _ = statement := by rw [← plain, List.intercalate_splitOn]
  rw [splitChars_eq_grouped, cut_append_terminator, cut_nil, List.append_nil, marked,
    grouped_ended (continued_marked init) lastEnds, joined_concat, restored, grouped_nil,
    List.append_nil]

end Pieces

theorem complete_escaped {blank statement : List Char}
    (blanks : ∀ char ∈ blank, isBlank char = true) (ends : continues statement = false) :
    Complete (blank ++ escaped statement ++ [terminator]) := by
  refine .inr ⟨blank ++ escaped statement, ?_, rfl⟩
  rw [continues_blank_append blanks, continues_escaped, ends]

/-- The terminated statement in front of a text is read first, and then the text. -/
theorem splitChars_cons_escaped {blank statement : List Char}
    (blanks : ∀ char ∈ blank, isBlank char = true) (nonempty : statement ≠ [])
    (neat : trim statement = statement) (ends : continues statement = false) (after : List Char) :
    splitChars (blank ++ escaped statement ++ [terminator] ++ after) =
      statement :: splitChars after := by
  rw [splitChars_append (complete_escaped blanks ends), List.append_assoc blank,
    splitChars_blank_append blanks, splitChars_escaped ends, neat, listed, if_neg nonempty,
    List.singleton_append]

theorem splitChars_script (entries : List (String × String)) (after : List Char)
    (blanks : ∀ entry ∈ entries, isBlankText entry.1 = true)
    (restorable : ∀ entry ∈ entries, Restorable entry.2) :
    splitChars ((script entries).toList ++ after) =
      entries.map (fun entry => entry.2.toList) ++ splitChars after := by
  induction entries with
  | nil => simp [script]
  | cons entry rest ih =>
      obtain ⟨blank, statement⟩ := entry
      obtain ⟨blankFirst, blankRest⟩ := List.forall_mem_cons.mp blanks
      obtain ⟨first, others⟩ := List.forall_mem_cons.mp restorable
      have whole : (script ((blank, statement) :: rest)).toList ++ after =
          blank.toList ++ escaped statement.toList ++ [terminator] ++
            ((script rest).toList ++ after) := by
        simp [script, written, terminator]
      rw [whole, splitChars_cons_escaped (by simpa [isBlankText] using blankFirst)
        first.chars_ne_nil first.trim_chars first.ends, ih blankRest others, List.map_cons,
        List.cons_append]

/-- Statements that are written with white space around them are read back. -/
theorem split_script (entries : List (String × String)) (trailing : String)
    (blanks : ∀ entry ∈ entries, isBlankText entry.1 = true)
    (restorable : ∀ entry ∈ entries, Restorable entry.2)
    (blankEnd : isBlankText trailing = true) :
    split (script entries ++ trailing) = entries.map Prod.snd := by
  have nothing : splitChars trailing.toList = [] :=
    splitChars_of_blank (by simpa [isBlankText] using blankEnd)
  rw [split, String.toList_append, splitChars_script entries _ blanks restorable, nothing,
    List.append_nil, List.map_map]
  exact List.map_congr_left fun entry _ => String.ofList_toList

theorem split_script_listed :
    split (script [("", ";list\\;"), ("\n ", "select 'a;b'")] ++ " ") =
      [";list\\;", "select 'a;b'"] :=
  split_script [("", ";list\\;"), ("\n ", "select 'a;b'")] " " (by decide)
    (by
      intro entry member
      simp only [List.mem_cons, List.not_mem_nil, or_false] at member
      rcases member with rfl | rfl
      · exact ⟨by decide, by decide, by decide⟩
      · exact ⟨by decide, by decide, by decide⟩)
    (by decide)

section Rejoined

theorem toList_script (entries : List (String × String)) :
    (script entries).toList =
      entries.flatMap fun entry => entry.1.toList ++ escaped entry.2.toList ++ [terminator] := by
  simp [script, written, terminator, List.flatMap_map]

theorem rejoined_eq_script {statements : List String} (nonempty : statements ≠ []) :
    rejoined statements = script (statements.map fun statement => ("", statement)) := by
  obtain ⟨init, last, rfl⟩ := List.eq_nil_or_concat statements |>.resolve_left nonempty
  apply String.toList_injective
  rw [List.concat_eq_append, rejoined, String.toList_append, String.toList_intercalate,
    toList_script]
  simp [intercalate_concat, written, terminator, List.flatMap_map]

theorem cut_flatMap_escaped (statements : List String) :
    cut (statements.flatMap fun statement => escaped statement.toList ++ [terminator]) =
      statements.flatMap fun statement => (escaped statement.toList).splitOn terminator := by
  induction statements with
  | nil => exact cut_nil
  | cons statement rest ih =>
      rw [List.flatMap_cons, List.append_assoc, List.singleton_append, cut_append_terminator, ih,
        List.flatMap_cons]

theorem countP_escaped (statement : List Char) :
    ((escaped statement).splitOn terminator).countP (fun piece => !continues piece) =
      if continues statement then 0 else 1 := by
  obtain ⟨init, last, plain, marked⟩ := splitOn_escaped statement
  have unfinished : (init.map (· ++ [escape])).countP (fun piece => !continues piece) = 0 := by
    rw [List.countP_eq_zero]
    intro piece member
    simp [continued_marked init piece member]
  rw [marked, List.countP_append, unfinished, List.countP_singleton, continues_last plain]
  cases continues statement <;> rfl

theorem countP_flatMap_escaped (statements : List String) :
    (statements.flatMap fun statement =>
      (escaped statement.toList).splitOn terminator).countP (fun piece => !continues piece) =
        statements.countP fun statement => !continues statement.toList := by
  induction statements with
  | nil => rfl
  | cons statement rest ih =>
      rw [List.flatMap_cons, List.countP_append, ih, countP_escaped, List.countP_cons, Nat.add_comm]
      cases continues statement.toList <;> rfl

/-- Only the statements that do not end in the escape character end a group. -/
theorem length_split_rejoined_le {statements : List String} (nonempty : statements ≠ []) :
    (split (rejoined statements)).length ≤
      statements.countP fun statement => !continues statement.toList := by
  rw [← countP_flatMap_escaped, ← cut_flatMap_escaped, split_eq_grouped, List.length_map,
    rejoined_eq_script nonempty, toList_script, List.flatMap_map]
  exact length_grouped_le _

theorem split_rejoined {statements : List String}
    (restorable : ∀ statement ∈ statements, Restorable statement) :
    split (rejoined statements) = statements := by
  by_cases empty : statements = []
  · rw [empty, split_eq_grouped]
    decide
  · have read := splitChars_script (statements.map fun statement => ("", statement)) []
      (by simp [isBlankText]) (by simpa using restorable)
    have nothing : splitChars [] = [] := splitChars_of_blank (by simp)
    rw [nothing, List.append_nil, List.append_nil] at read
    rw [split, rejoined_eq_script empty, read, List.map_map, List.map_map]
    exact (List.map_congr_left fun statement _ => String.ofList_toList).trans (List.map_id _)

/-- Escaping, joining and reading again gives the statements of a text back exactly when none of
them ends in the escape character. -/
theorem split_rejoined_iff (text : String) :
    split (rejoined (split text)) = split text ↔
      ∀ statement ∈ split text, continues statement.toList = false := by
  constructor
  · intro same statement member
    have nonempty : split text ≠ [] := List.ne_nil_of_mem member
    have bound := length_split_rejoined_le nonempty
    rw [same] at bound
    have all := List.countP_eq_length.mp (Nat.le_antisymm List.countP_le_length bound)
    simpa using all statement member
  · intro ends
    refine split_rejoined fun statement member => ?_
    obtain ⟨nonempty, neat⟩ := neat_of_mem_split member
    exact ⟨nonempty, neat, ends statement member⟩

theorem split_rejoined_listed :
    split (rejoined (split "a\\;b; c\\d")) = split "a\\;b; c\\d" :=
  (split_rejoined_iff "a\\;b; c\\d").mpr (by
    rw [split_eq_grouped]
    decide)

/-- White space in front of a terminator keeps it from being escaped, and trimming takes it away. -/
theorem split_rejoined_escape :
    split "a\\ ;" = ["a\\"] ∧ rejoined ["a\\"] = "a\\;" ∧ split "a\\;" = [] ∧
      split (rejoined (split "a\\ ;")) ≠ split "a\\ ;" := by
  have found : split "a\\ ;" = ["a\\"] := by
    rw [split_eq_grouped]
    decide
  have escapes : rejoined ["a\\"] = "a\\;" := by decide
  have nothing : split "a\\;" = [] := by
    rw [split_eq_grouped]
    decide
  refine ⟨found, escapes, nothing, ?_⟩
  rw [found, escapes, nothing]
  decide

end Rejoined

end QueryShell.Statement
