import QueryShell.LineBuffer
import QueryShell.Proofs.Statement.Grammar

/-!
Lines gathered into texts. A line that completes a statement ends in a terminator that is not
escaped and white space, so a text gathered up to such a line can be read on its own.
-/

namespace QueryShell

open Text

namespace Statement

theorem exists_body_of_endedBy {line : String} (ends : endedBy line = true) :
    ∃ body blank, line.toList = body ++ terminator :: blank ∧ continues body = false ∧
      ∀ char ∈ blank, isBlank char = true := by
  obtain ⟨blank, parts, blanks⟩ := exists_blank_trimEnd line.toList
  rw [endedBy] at ends
  split at ends
  · cases ends
  · rename_i last only
    have final : last = terminator := by simpa using ends
    have trimmedLine : trimEnd line.toList = [last] := by
      rw [← List.reverse_reverse (trimEnd line.toList), only]
      rfl
    exact ⟨[], blank, by rw [parts, trimmedLine, final]; rfl, rfl, blanks⟩
  · rename_i last before earlier reversed
    obtain ⟨final, plain⟩ : last = terminator ∧ before ≠ escape := by simpa using ends
    have trimmedLine : trimEnd line.toList = earlier.reverse ++ [before] ++ [last] := by
      rw [← List.reverse_reverse (trimEnd line.toList), reversed]
      simp
    refine ⟨earlier.reverse ++ [before], blank, ?_, ?_, blanks⟩
    · rw [parts, trimmedLine, final, List.append_assoc, List.singleton_append]
    · simp [continues, plain]

def Settled (text : List Char) : Prop :=
  ∃ before blank, text = before ++ blank ∧ Complete before ∧ ∀ char ∈ blank, isBlank char = true

variable {text : List Char}

/-- What comes after a settled text is read on its own. -/
theorem Settled.splitChars_append (settled : Settled text) (after : List Char) :
    splitChars (text ++ after) = splitChars text ++ splitChars after := by
  obtain ⟨before, blank, rfl, complete, blanks⟩ := settled
  rw [List.append_assoc, Statement.splitChars_append complete, splitChars_blank_append blanks,
    Statement.splitChars_append complete, splitChars_of_blank blanks, List.append_nil]

theorem isOpen_cut_of_blank {blank : List Char} (blanks : ∀ char ∈ blank, isBlank char = true) :
    isOpen (cut blank) = false := by
  have whole : blank.splitOn terminator = [blank] := by
    rw [List.splitOn_eq_singleton]
    intro within
    exact ne_terminator_of_blank (blanks terminator within) rfl
  rw [cut, whole]
  by_cases empty : blank = []
  · rw [empty]
    rfl
  · simpa [empty, isOpen] using continues_of_blank blanks

theorem Settled.closed (settled : Settled text) : isOpen (cut text) = false := by
  obtain ⟨before, blank, rfl, complete, blanks⟩ := settled
  have closedBlank := isOpen_cut_of_blank blanks
  rcases complete with rfl | ⟨body, closed, rfl⟩
  · exact closedBlank
  · rw [List.append_assoc, List.singleton_append, cut_append_terminator]
    by_cases empty : cut blank = []
    · rw [empty, List.append_nil, isOpen_splitOn, closed]
    · rw [isOpen_append empty, closedBlank]

end Statement

namespace LineBuffer

open Statement

def pushAll : List String → LineBuffer → List String × LineBuffer
  | [], buffer => ([], buffer)
  | line :: rest, buffer =>
      let (unit, buffer) := buffer.push line
      let (units, buffer) := pushAll rest buffer
      (unit.toList ++ units, buffer)

section Text

theorem toList_lines (first : String) (rest : List String) :
    ("\n".intercalate (first :: rest)).toList =
      first.toList ++ rest.flatMap fun line => '\n' :: line.toList := by
  induction rest generalizing first with
  | nil => simp
  | cons second others ih =>
      rw [String.intercalate_cons_cons, String.toList_append, ih, List.flatMap_cons]
      simp

/-- The line feed between two texts is white space in front of the second. -/
theorem splitChars_lines (lines : List String) :
    splitChars (lines.flatMap fun line => '\n' :: line.toList) =
      splitChars ("\n".intercalate lines).toList := by
  cases lines with
  | nil => rfl
  | cons first rest =>
      have feed : ∀ char ∈ ['\n'], isBlank char = true :=
        List.forall_mem_singleton.mpr (by decide)
      rw [toList_lines, List.flatMap_cons, List.cons_append]
      exact splitChars_blank_append feed _

theorem toList_lines_append (earlier : List String) (line : String) (rest : List String) :
    ("\n".intercalate (earlier ++ line :: rest)).toList =
      ("\n".intercalate (earlier ++ [line])).toList ++
        rest.flatMap fun line => '\n' :: line.toList := by
  cases earlier with
  | nil => rw [List.nil_append, List.nil_append, toList_lines, String.intercalate_singleton]
  | cons first others =>
      rw [List.cons_append, List.cons_append, toList_lines, toList_lines]
      simp

/-- The lines in front of a line that completes a statement do not escape its terminator. -/
theorem settled_lines (earlier : List String) {line : String} (ends : endedBy line = true) :
    Settled ("\n".intercalate (earlier ++ [line])).toList := by
  obtain ⟨body, blank, parts, closed, blanks⟩ := exists_body_of_endedBy ends
  have whole : ("\n".intercalate (earlier ++ [line])).toList =
      (earlier.map String.toList).flatMap (· ++ ['\n']) ++ body ++ [terminator] ++ blank := by
    rw [String.toList_intercalate, List.map_append, List.map_singleton, parts]
    simp [intercalate_concat]
  refine ⟨_, blank, whole, .inr ⟨_, ?_, rfl⟩, blanks⟩
  rw [continues_separated (by decide), closed]

end Text

section Push

variable {buffer : LineBuffer}

inductive Pushed (line : String) (buffer : LineBuffer) : Prop
  | dropped (idle : buffer.lines = []) (blank : isBlankText line = true)
      (result : buffer.push line = (none, buffer))
  | completed (ends : endedBy line = true)
      (result : buffer.push line = (some ("\n".intercalate (buffer.lines ++ [line])), {}))
  | kept (result : buffer.push line = (none, ⟨buffer.lines ++ [line]⟩))

theorem pushed (line : String) (buffer : LineBuffer) : Pushed line buffer := by
  by_cases skipped : (!buffer.isPending && isBlankText line) = true
  · obtain ⟨idle, blank⟩ : buffer.lines = [] ∧ isBlankText line = true := by
      simpa [isPending] using skipped
    exact .dropped idle blank (by rw [push, if_pos skipped])
  · by_cases ends : endedBy line = true
    · exact .completed ends (by rw [push, if_neg skipped, if_pos ends])
    · exact .kept (by rw [push, if_neg skipped, if_neg ends])

theorem splitChars_pushAll (lines : List String) (buffer : LineBuffer) :
    splitChars ("\n".intercalate (buffer.lines ++ lines)).toList =
      (pushAll lines buffer).1.flatMap (fun unit => splitChars unit.toList) ++
        splitChars ("\n".intercalate (pushAll lines buffer).2.lines).toList := by
  induction lines generalizing buffer with
  | nil => simp [pushAll]
  | cons line rest ih =>
      cases pushed line buffer with
      | dropped idle blank result =>
          have blanks : ∀ char ∈ line.toList, isBlank char = true := by
            simpa [isBlankText] using blank
          have later := ih buffer
          rw [idle, List.nil_append] at later
          rw [pushAll, result, idle, List.nil_append, toList_lines,
            splitChars_blank_append blanks, splitChars_lines, later]
          rfl
      | completed ends result =>
          have settled := settled_lines buffer.lines ends
          have later := ih {}
          rw [List.nil_append] at later
          rw [pushAll, result, toList_lines_append, settled.splitChars_append, splitChars_lines,
            later]
          simp
      | kept result =>
          have later := ih ⟨buffer.lines ++ [line]⟩
          rw [pushAll, result, List.append_cons, later]
          rfl

theorem settled_of_mem_pushAll {lines : List String} {unit : String}
    (member : unit ∈ (pushAll lines buffer).1) : Settled unit.toList := by
  induction lines generalizing buffer with
  | nil => simp [pushAll] at member
  | cons line rest ih =>
      cases pushed line buffer with
      | dropped _ _ result =>
          rw [pushAll, result] at member
          exact ih member
      | completed ends result =>
          rw [pushAll, result] at member
          rcases List.mem_cons.mp member with rfl | later
          · exact settled_lines buffer.lines ends
          · exact ih later
      | kept result =>
          rw [pushAll, result] at member
          exact ih member

/-- The statements of lines are those of the texts they are gathered into. No gathered text ends in
a continuation, so that all of its text is in its statements. -/
theorem statements_of_lines (lines : List String) :
    split ("\n".intercalate lines) =
        (pushAll lines {}).1.flatMap split ++
          split ("\n".intercalate (pushAll lines {}).2.lines) ∧
      ∀ unit ∈ (pushAll lines {}).1, isOpen (cut unit.toList) = false ∧
        (String.join (split unit)).toList.filter solid =
          ((cut unit.toList).flatMap unescaped).filter solid := by
  refine ⟨?_, ?_⟩
  · have all := splitChars_pushAll lines {}
    rw [List.nil_append] at all
    rw [split, all, List.map_append, List.map_flatMap]
    rfl
  · intro unit member
    have closed := (settled_of_mem_pushAll member).closed
    have joinedUnit : (String.join (split unit)).toList = (grouped (cut unit.toList)).flatten := by
      rw [split_eq_grouped, String.toList_join]
      simp [List.flatMap_map, List.flatMap_id']
    exact ⟨closed, by rw [joinedUnit, filter_solid_grouped closed]⟩

theorem statements_of_lines_listed :
    split "\nselect 'a\\;\nb'; \n \nlist" = split "select 'a\\;\nb'; " ++ split "list" ∧
      "select 'a\\;\nb'; " ∈ (pushAll ["", "select 'a\\;", "b'; ", " ", "list"] {}).1 ∧
      isOpen (cut "select 'a\\;\nb'; ".toList) = false := by
  have gathered : pushAll ["", "select 'a\\;", "b'; ", " ", "list"] {} =
      (["select 'a\\;\nb'; "], ⟨["list"]⟩) := by decide
  obtain ⟨same, units⟩ := statements_of_lines ["", "select 'a\\;", "b'; ", " ", "list"]
  have member : "select 'a\\;\nb'; " ∈
      (pushAll ["", "select 'a\\;", "b'; ", " ", "list"] {}).1 := by
    rw [gathered]
    simp
  refine ⟨?_, member, (units _ member).1⟩
  rw [gathered] at same
  simpa using same

end Push

end LineBuffer

end QueryShell
