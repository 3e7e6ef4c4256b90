import QueryShell.Proofs.Text.Lines
import QueryShell.Proofs.Text.Trim

/-!
The words of a text. They are read one after the other, and white space between them or at the ends
of the text makes no difference.
-/

namespace QueryShell.Text

variable {separates : Char → Bool} {separator : Char} {blank text word first : List Char}
  {rest : List (List Char)}

structure IsWord (text : List Char) : Prop where
  filled : text ≠ []
  visible : ∀ char ∈ text, isBlank char = false

theorem pieces_append_separator (separated : separates separator = true) (front back : List Char) :
    pieces separates (front ++ separator :: back) =
      pieces separates front ++ pieces separates back := by
  induction front with
  | nil => simp [pieces, separated]
  | cons char front ih =>
      by_cases also_separated : separates char = true
      · simp [pieces, also_separated, ih]
      · obtain ⟨piece, others, parts⟩ :=
          List.exists_cons_of_ne_nil (pieces_ne_nil separates front)
        rw [parts] at ih
        simp [pieces, also_separated, ih, parts]

theorem isWord_of_mem_words (member : word ∈ words text) : IsWord word := by
  rw [words, List.mem_filter] at member
  obtain ⟨among, filled⟩ := member
  refine ⟨by simpa using filled, ?_⟩
  intro char within
  exact (of_mem_pieces among within).2

theorem words_append_blank (separated : isBlank separator = true) (front back : List Char) :
    words (front ++ separator :: back) = words front ++ words back := by
  rw [words, pieces_append_separator separated, List.filter_append]
  rfl

theorem words_cons_blank (separated : isBlank separator = true) (text : List Char) :
    words (separator :: text) = words text :=
  words_append_blank separated [] text

theorem words_of_blank (blanks : ∀ char ∈ blank, isBlank char = true) : words blank = [] := by
  induction blank with
  | nil => rfl
  | cons char rest ih =>
      obtain ⟨separated, others⟩ := List.forall_mem_cons.mp blanks
      rw [words_cons_blank separated, ih others]

theorem words_blank_append (blanks : ∀ char ∈ blank, isBlank char = true) (text : List Char) :
    words (blank ++ text) = words text := by
  induction blank with
  | nil => rfl
  | cons char rest ih =>
      obtain ⟨separated, others⟩ := List.forall_mem_cons.mp blanks
      rw [List.cons_append, words_cons_blank separated, ih others]

theorem words_trim (text : List Char) : words (trim text) = words text := by
  obtain ⟨before, after, parts, blank_before, blank_after⟩ := exists_blank_trim text
  conv_rhs => rw [parts, List.append_assoc, words_blank_append blank_before]
  cases after with
  | nil => rw [List.append_nil]
  | cons char others =>
      obtain ⟨separated, blanks⟩ := List.forall_mem_cons.mp blank_after
      rw [words_append_blank separated, words_of_blank blanks, List.append_nil]

theorem IsWord.words_eq (whole : IsWord word) : words word = [word] := by
  rw [words, pieces_of_unseparated whole.visible]
  simp [whole.filled]

/-- No white space is left in front of a trimmed text. -/
theorem trim_ne_blank_cons (separated : isBlank separator = true) (rest : List Char) :
    trim text ≠ separator :: rest := by
  intro starts
  have blanks : ∀ char ∈ [separator], isBlank char = true :=
    List.forall_mem_singleton.mpr separated
  have shorter : trim (separator :: rest) = trim rest := trim_blank_append blanks
  obtain ⟨before, after, parts, -, -⟩ := exists_blank_trim rest
  have same : trim rest = separator :: rest := by
    rw [← shorter, ← starts, trim_trim]
  have length := congrArg List.length parts
  rw [same] at length
  simp only [List.length_append, List.length_cons] at length
  omega

theorem firstWord_prefix (text : List Char) : (firstWord text).1 <+: trim text :=
  List.takeWhile_prefix _

theorem firstWord_of_words (listed : words text = first :: rest) :
    (firstWord text).1 = first ∧ words (firstWord text).2 = rest := by
  rw [← words_trim] at listed
  have starts (separator : Char) (behind : List Char) (separated : isBlank separator = true) :
      trim text ≠ separator :: behind := trim_ne_blank_cons separated behind
  simp only [firstWord, words_trim]
  generalize trim text = trimmed at listed starts ⊢
  have parts : trimmed.takeWhile (fun char => !isBlank char) ++
      trimmed.dropWhile (fun char => !isBlank char) = trimmed := List.takeWhile_append_dropWhile
  have solid : ∀ char ∈ trimmed.takeWhile (fun char => !isBlank char), isBlank char = false := by
    intro char member
    simpa using List.mem_takeWhile_imp member
  generalize trimmed.takeWhile (fun char => !isBlank char) = word at parts solid ⊢
  cases behind : trimmed.dropWhile (fun char => !isBlank char) with
  | nil =>
      rw [behind, List.append_nil] at parts
      subst parts
      have filled : word ≠ [] := by
        rintro rfl
        cases listed
      have whole : IsWord word := ⟨filled, solid⟩
      rw [whole.words_eq] at listed
      obtain ⟨rfl, rfl⟩ := List.cons.inj listed
      exact ⟨rfl, rfl⟩
  | cons separator others =>
      have separated : isBlank separator = true := by
        have stops := List.head?_dropWhile_not (fun char => !isBlank char) trimmed
        rw [behind] at stops
        simpa using stops
      rw [behind] at parts
      have filled : word ≠ [] := by
        rintro rfl
        exact starts separator others separated parts.symm
      have whole : IsWord word := ⟨filled, solid⟩
      rw [← parts, words_append_blank separated, whole.words_eq] at listed
      obtain ⟨rfl, rfl⟩ := List.cons.inj listed
      exact ⟨rfl, words_cons_blank separated others⟩

theorem words_intercalate {listed : List (List Char)} (solid : ∀ word ∈ listed, IsWord word) :
    words ([' '].intercalate listed) = listed := by
  induction listed with
  | nil => rfl
  | cons first others ih =>
      obtain ⟨whole, later⟩ := List.forall_mem_cons.mp solid
      cases others with
      | nil => rw [List.intercalate_singleton, whole.words_eq]
      | cons second others =>
          rw [List.intercalate_cons_cons, List.append_assoc, List.singleton_append,
            words_append_blank (by decide), whole.words_eq, ih later]
          rfl

section Cutting

variable {front token rest : List Char}

theorem trim_word_append (word : IsWord token) (rest : List Char) :
    trim (token ++ rest) = token ++ trimEnd rest := by
  obtain ⟨first, others, rfl⟩ := List.exists_cons_of_ne_nil word.filled
  obtain ⟨visible, solid⟩ := List.forall_mem_cons.mp word.visible
  have parts := trim_append_cons visible [] (others ++ rest)
  rw [trimEnd_solid_append solid] at parts
  exact parts

theorem head?_trimEnd (parted : ∀ char ∈ rest.head?, isBlank char = true) :
    ∀ char ∈ (trimEnd rest).head?, isBlank char = true := by
  have within : trimEnd rest <+: rest := List.rdropWhile_prefix isBlank rest
  intro char starts
  apply parted
  obtain ⟨behind, parts⟩ := within
  rw [← parts, List.head?_append, Option.mem_def.mp starts]
  rfl

theorem span_word (word : IsWord token) (parted : ∀ char ∈ rest.head?, isBlank char = true) :
    (token ++ rest).takeWhile (fun char => !isBlank char) = token ∧
      (token ++ rest).dropWhile (fun char => !isBlank char) = rest := by
  have visible : ∀ char ∈ token, (!isBlank char) = true := by
    intro char member
    rw [word.visible char member]
    rfl
  rw [List.takeWhile_append_of_pos visible, List.dropWhile_append_of_pos visible]
  cases rest with
  | nil => exact ⟨List.append_nil token, rfl⟩
  | cons char more => simp [parted char rfl]

/-- The first word of a text is told by what stands around it: white space, or nothing. -/
theorem firstWord_eq (blanks : ∀ char ∈ front, isBlank char = true) (word : IsWord token)
    (parted : ∀ char ∈ rest.head?, isBlank char = true) :
    firstWord (front ++ token ++ rest) = (token, trim rest) := by
  obtain ⟨taken, left⟩ := span_word word (head?_trimEnd parted)
  simp only [firstWord]
  rw [List.append_assoc, trim_blank_append blanks, trim_word_append word, taken, left, trim_trimEnd]

theorem firstWord_trim (text : List Char) : firstWord (trim text) = firstWord text := by
  rw [firstWord, firstWord, trim_trim]

end Cutting

end QueryShell.Text
