import QueryShell.Proofs.Statement.Pieces

/-!
Reading a text gives the statements of its groups. What is left open between fragments is white
space of blank groups and the open group that goes on, so that a text can be read in two parts
wherever a statement ends, and blank groups can be left out.
-/

namespace QueryShell.Statement

open Text

section Reading

theorem fragments_ne_nil {text fragment : List Char} (member : fragment ∈ fragments text) :
    fragment ≠ [] := by
  induction text generalizing fragment with
  | nil => simp [fragments] at member
  | cons char rest ih =>
      rw [fragments] at member
      split at member
      · rcases List.mem_cons.mp member with rfl | later
        · exact List.cons_ne_nil _ _
        · exact ih later
      · cases parts : fragments rest with
        | nil => simp_all
        | cons first others =>
            rw [parts] at member ih
            rcases List.mem_cons.mp member with rfl | later
            · exact List.cons_ne_nil _ _
            · exact ih (List.mem_cons_of_mem _ later)

theorem map_body_fragments (text : List Char) : (fragments text).map body = cut text := by
  induction text with
  | nil => decide
  | cons char rest ih =>
      rw [fragments, cut_cons, ← ih]
      by_cases ends : char = terminator
      · rw [if_pos ends, if_pos ends, List.map_cons, ends]
        rfl
      · rw [if_neg ends, if_neg ends]
        cases parts : fragments rest with
        | nil => simp [body, ends]
        | cons first others =>
            have member : first ∈ fragments rest := by simp [parts]
            obtain ⟨head, tail, rfl⟩ := List.exists_cons_of_ne_nil (fragments_ne_nil member)
            simp only [List.map_cons, body, List.getLast?_cons_cons, List.dropLast_cons_cons]
            split <;> rfl

theorem withRest_of_finished {unread : List (List Char)} (finished : next? unread = none) :
    withRest unread = [] := by
  rw [withRest]
  split
  · rfl
  · rename_i found
    rw [finished] at found
    cases found

theorem withRest_of_found {statement : List Char} {unread rest : List (List Char)}
    (found : next? unread = some (statement, rest)) :
    withRest unread = (statement, rest) :: withRest rest := by
  rw [withRest]
  split
  · rename_i finished
    rw [found] at finished
    cases finished
  · rename_i again
    rw [found] at again
    cases again
    rfl

def readAfter (held : List Char) (unread : List (List Char)) : List (List Char) :=
  match nextAfter? held unread with
  | none => []
  | some (statement, rest) => statement :: (withRest rest).map Prod.fst

theorem map_fst_withRest (unread : List (List Char)) :
    (withRest unread).map Prod.fst = readAfter [] unread := by
  cases found : next? unread with
  | none =>
      have none_left : nextAfter? [] unread = none := found
      rw [withRest_of_finished found, readAfter, none_left]
      rfl
  | some next =>
      have read : nextAfter? [] unread = some next := found
      rw [withRest_of_found found, readAfter, read]
      rfl

theorem readAfter_cons (held fragment : List Char) (rest : List (List Char)) :
    readAfter held (fragment :: rest) =
      if continues (body fragment) then
        readAfter (held ++ (body fragment).dropLast ++ [terminator]) rest
      else if trim (held ++ body fragment) = [] then readAfter (held ++ body fragment) rest
      else trim (held ++ body fragment) :: readAfter [] rest := by
  simp only [continues, decide_eq_true_eq]
  by_cases goes : (body fragment).getLast? = some escape
  · rw [readAfter, nextAfter?, if_pos goes, if_pos goes, readAfter]
  · by_cases empty : trim (held ++ body fragment) = []
    · simp [readAfter, nextAfter?, goes, empty]
    · rw [if_neg goes, if_neg empty, ← map_fst_withRest]
      simp [readAfter, nextAfter?, goes, empty]

theorem readAfter_eq_grouped {blank : List Char} {group : List (List Char)}
    (unread : List (List Char)) (blanks : ∀ char ∈ blank, isBlank char = true)
    (continued : ∀ piece ∈ group, continues piece = true) :
    readAfter (blank ++ opened group) unread = grouped (group ++ unread.map body) := by
  -- Between fragments the text that is held is white space of blank groups, which is never taken
  -- away, and then the pieces of the open group.
  induction unread generalizing blank group with
  | nil =>
      rw [List.map_nil, List.append_nil, grouped_of_continued continued]
      rfl
  | cons fragment rest ih =>
      rw [readAfter_cons, List.map_cons]
      cases goes : continues (body fragment) with
      | true =>
          have later := ih blanks (continued_concat goes continued)
          rw [opened_concat, ← List.append_assoc, ← List.append_assoc, ← List.append_cons] at later
          rw [if_pos rfl, later]
      | false =>
          have whole : trim (blank ++ opened group ++ body fragment) =
              joined (group ++ [body fragment]) := by
            rw [joined_concat, List.append_assoc, trim_blank_append blanks]
          rw [if_neg Bool.false_ne_true, grouped_ended continued goes, whole, listed]
          by_cases empty : joined (group ++ [body fragment]) = []
          · have held : ∀ char ∈ blank ++ opened group ++ body fragment, isBlank char = true :=
              trim_eq_nil_iff.mp (whole.trans empty)
            have later := @ih _ [] held (by simp)
            rw [opened_nil, List.append_nil, List.nil_append] at later
            rw [if_pos empty, if_pos empty, later, List.nil_append]
          · have later := @ih [] [] (by simp) (by simp)
            rw [opened_nil, List.append_nil, List.nil_append] at later
            rw [if_neg empty, if_neg empty, later, List.singleton_append]

theorem splitChars_eq_grouped (text : List Char) : splitChars text = grouped (cut text) := by
  have read := @readAfter_eq_grouped [] [] (fragments text) (by simp) (by simp)
  rw [map_body_fragments] at read
  rw [splitChars, map_fst_withRest]
  exact read

theorem split_eq_grouped (text : String) :
    split text = (grouped (cut text.toList)).map String.ofList := by
  rw [split, splitChars_eq_grouped]

end Reading

section Parts

variable {before after blank : List Char}

def Complete (text : List Char) : Prop :=
  text = [] ∨ ∃ body, continues body = false ∧ text = body ++ [terminator]

theorem terminator_ne_escape : terminator ≠ escape := by decide

theorem ne_terminator_of_blank {char : Char} (blank : isBlank char = true) :
    char ≠ terminator := by
  have visible : isBlank terminator = false := by decide
  rintro rfl
  rw [visible] at blank
  cases blank

theorem continues_append (nonempty : after ≠ []) :
    continues (before ++ after) = continues after := by
  rw [continues, List.getLast?_append_of_ne_nil before nonempty, continues]

/-- What is in front of a separator does not make the text after it continue. -/
theorem continues_separated {separator : Char} (plain : separator ≠ escape)
    (earlier : List (List Char)) (last : List Char) :
    continues (earlier.flatMap (· ++ [separator]) ++ last) = continues last := by
  by_cases empty : last = []
  · rw [empty, List.append_nil]
    rcases List.eq_nil_or_concat earlier with none | ⟨init, piece, some⟩
    · rw [none]
      rfl
    · rw [some]
      simp [continues, plain]
  · exact continues_append empty

theorem continues_of_blank (blanks : ∀ char ∈ blank, isBlank char = true) :
    continues blank = false := by
  have visible : isBlank escape = false := by decide
  rw [continues, decide_eq_false_iff_not]
  intro last
  have hidden := blanks escape (List.mem_of_getLast? last)
  rw [visible] at hidden
  cases hidden

theorem continues_blank_append (blanks : ∀ char ∈ blank, isBlank char = true) (after : List Char) :
    continues (blank ++ after) = continues after := by
  by_cases empty : after = []
  · rw [empty, List.append_nil, continues_of_blank blanks]
    rfl
  · exact continues_append empty

theorem isOpen_splitOn (text : List Char) :
    isOpen (text.splitOn terminator) = continues text := by
  obtain ⟨init, last, parts⟩ := List.eq_nil_or_concat (text.splitOn terminator)
    |>.resolve_left (List.splitOn_ne_nil terminator text)
  rw [List.concat_eq_append] at parts
  have whole : text = init.flatMap (· ++ [terminator]) ++ last := by
    rw [← intercalate_concat, ← parts, List.intercalate_splitOn]
  rw [parts, isOpen_concat, whole, continues_separated terminator_ne_escape]

theorem splitChars_append (complete : Complete before) (after : List Char) :
    splitChars (before ++ after) = splitChars before ++ splitChars after := by
  rcases complete with rfl | ⟨body, closed, rfl⟩
  · rw [List.nil_append, splitChars_eq_grouped [], cut_nil, grouped_nil, List.nil_append]
  · have closedPieces : isOpen (body.splitOn terminator) = false := by rw [isOpen_splitOn, closed]
    simp only [splitChars_eq_grouped, List.append_assoc, List.singleton_append,
      cut_append_terminator, cut_nil, List.append_nil, grouped_append closedPieces]

theorem grouped_blank_append (blanks : ∀ char ∈ blank, isBlank char = true) (first : List Char)
    (others : List (List Char)) :
    grouped ((blank ++ first) :: others) = grouped (first :: others) := by
  have same := continues_blank_append blanks first
  cases goes : continues first with
  | false =>
      rw [goes] at same
      rw [grouped_single same, grouped_single goes, trim_blank_append blanks]
  | true =>
      rw [goes] at same
      have nonempty : first ≠ [] := by
        rintro rfl
        cases goes
      induction others using group_induction with
      | left group continued =>
          rw [grouped_of_continued (List.forall_mem_cons.mpr ⟨same, continued⟩),
            grouped_of_continued (List.forall_mem_cons.mpr ⟨goes, continued⟩)]
      | ended group last rest continued ends _ =>
          have grown : opened ((blank ++ first) :: group) = blank ++ opened (first :: group) := by
            simp [opened, List.dropLast_append_of_ne_nil nonempty]
          rw [← List.cons_append, ← List.cons_append,
            grouped_ended (List.forall_mem_cons.mpr ⟨same, continued⟩) ends,
            grouped_ended (List.forall_mem_cons.mpr ⟨goes, continued⟩) ends,
            joined_concat, joined_concat, grown, List.append_assoc, trim_blank_append blanks]

theorem splitChars_blank_append (blanks : ∀ char ∈ blank, isBlank char = true) (text : List Char) :
    splitChars (blank ++ text) = splitChars text := by
  induction blank with
  | nil => rfl
  | cons char blank ih =>
      obtain ⟨first, later⟩ := List.forall_mem_cons.mp blanks
      have single : ∀ each ∈ [char], isBlank each = true := by simpa using first
      rw [List.cons_append, ← ih later, splitChars_eq_grouped, splitChars_eq_grouped, cut_cons,
        if_neg (ne_terminator_of_blank first)]
      cases cut (blank ++ text) with
      | nil => exact grouped_blank_append single [] []
      | cons piece others => exact grouped_blank_append single piece others

theorem splitChars_of_blank (blanks : ∀ char ∈ blank, isBlank char = true) :
    splitChars blank = [] := by
  have skipped := splitChars_blank_append blanks []
  rw [List.append_nil] at skipped
  rw [skipped, splitChars_eq_grouped, cut_nil, grouped_nil]

theorem splitChars_blank_group (complete : Complete before)
    (blanks : ∀ char ∈ blank, isBlank char = true) (after : List Char) :
    splitChars (before ++ (blank ++ terminator :: after)) = splitChars (before ++ after) := by
  have alone : Complete [terminator] := .inr ⟨[], rfl, rfl⟩
  have nothing : splitChars [terminator] = [] := by
    rw [splitChars_eq_grouped]
    decide
  rw [splitChars_append complete, splitChars_append complete, splitChars_blank_append blanks,
    ← List.singleton_append, splitChars_append alone, nothing, List.nil_append]

end Parts

theorem neat_of_mem_split {text statement : String} (member : statement ∈ split text) :
    statement ≠ "" ∧ trimmed statement = statement := by
  rw [split_eq_grouped, List.mem_map] at member
  obtain ⟨chars, found, rfl⟩ := member
  obtain ⟨given, visible⟩ := List.mem_filter.mp found
  obtain ⟨group, -, rfl⟩ := List.mem_map.mp given
  refine ⟨fun empty => ?_, ?_⟩
  · have none : joined group = [] := by simpa using congrArg String.toList empty
    simp [none] at visible
  · rw [trimmed, String.toList_ofList, joined, trim_trim]

/-- The statements of a text are those of the grammar. Each is trimmed and has a character, and
the white space of a blank group is in none of them. -/
theorem split_grammar (text : String) :
    split text = (grouped (cut text.toList)).map String.ofList ∧
      (∀ statement ∈ split text, statement ≠ "" ∧ trimmed statement = statement) ∧
      ∀ before blank after, Complete before.toList → isBlankText blank = true →
        text = before ++ blank ++ ";" ++ after → split text = split (before ++ after) := by
  refine ⟨split_eq_grouped text, fun statement => neat_of_mem_split, ?_⟩
  intro before blank after complete blanks parts
  have whole : text.toList = before.toList ++ (blank.toList ++ terminator :: after.toList) := by
    simp [parts, terminator]
  rw [split, split, whole, String.toList_append,
    splitChars_blank_group complete (by simpa [isBlankText] using blanks)]

theorem split_grammar_listed :
    split "a\\;b; \t; c" = ["a;b", "c"] ∧ ("a;b" ≠ "" ∧ trimmed "a;b" = "a;b") ∧
      split "a\\;b; \t; c" = split ("a\\;b;" ++ " c") := by
  obtain ⟨described, neat, same⟩ := split_grammar "a\\;b; \t; c"
  have found : split "a\\;b; \t; c" = ["a;b", "c"] := described.trans (by decide)
  have complete : Complete "a\\;b;".toList := .inr ⟨"a\\;b".toList, by decide, by decide⟩
  refine ⟨found, neat "a;b" (by simp [found]), ?_⟩
  exact same "a\\;b;" " \t" " c" complete (by decide) (by decide)

end QueryShell.Statement
