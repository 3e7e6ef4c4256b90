import Mathlib.Data.List.DropRight
import QueryShell.Text.Blank

/-!
Laws of trimming. A trimmed text is the text without some white space at both ends, and it has none
at its own.
-/

namespace QueryShell.Text

variable {blank text : List Char}

theorem trim_eq_rdropWhile (text : List Char) :
    trim text = (text.dropWhile isBlank).rdropWhile isBlank := rfl

theorem trim_blank_append (blanks : ∀ char ∈ blank, isBlank char = true) :
    trim (blank ++ text) = trim text := by
  rw [trim_eq_rdropWhile, List.dropWhile_append_of_pos blanks, trim_eq_rdropWhile]

theorem trim_append_blank (blanks : ∀ char ∈ blank, isBlank char = true) (text : List Char) :
    trim (text ++ blank) = trim text := by
  have backwards : ∀ char ∈ blank.reverse, isBlank char = true :=
    fun char member => blanks char (List.mem_reverse.mp member)
  have all : blank.dropWhile isBlank = [] := List.dropWhile_eq_nil_iff.mpr blanks
  rw [trim_eq_rdropWhile, trim_eq_rdropWhile, List.dropWhile_append, all]
  split
  · rename_i nothing
    rw [List.isEmpty_iff.mp nothing]
  · rw [List.rdropWhile, List.reverse_append, List.dropWhile_append_of_pos backwards,
      List.rdropWhile]

theorem exists_blank_trimEnd (text : List Char) :
    ∃ after, text = trimEnd text ++ after ∧ ∀ char ∈ after, isBlank char = true := by
  refine ⟨text.rtakeWhile isBlank, ?_, fun char member => List.mem_rtakeWhile_imp member⟩
  rw [trimEnd, List.rtakeWhile, ← List.reverse_append, List.takeWhile_append_dropWhile,
    List.reverse_reverse]

theorem exists_blank_trim (text : List Char) :
    ∃ before after, text = before ++ trim text ++ after ∧
      (∀ char ∈ before, isBlank char = true) ∧ ∀ char ∈ after, isBlank char = true := by
  obtain ⟨after, ending, blankAfter⟩ := exists_blank_trimEnd (trimStart text)
  have start : text.takeWhile isBlank ++ trimStart text = text := List.takeWhile_append_dropWhile
  refine ⟨text.takeWhile isBlank, after, ?_, fun char member => List.mem_takeWhile_imp member,
    blankAfter⟩
  rw [List.append_assoc, trim, ← ending, start]

theorem mem_of_mem_trim {char : Char} (member : char ∈ trim text) : char ∈ text := by
  have within : trim text <+: text.dropWhile isBlank := List.rdropWhile_prefix isBlank _
  exact List.dropWhile_subset _ (within.subset member)

theorem trim_eq_nil_iff : trim text = [] ↔ ∀ char ∈ text, isBlank char = true := by
  constructor
  · intro empty
    obtain ⟨before, after, parts, blankBefore, blankAfter⟩ := exists_blank_trim text
    rw [empty, List.append_nil] at parts
    rw [parts]
    exact fun char member => (List.mem_append.mp member).elim (blankBefore char) (blankAfter char)
  · intro blanks
    rw [trim_eq_rdropWhile, List.dropWhile_eq_nil_iff.mpr blanks]
    rfl

theorem trimEnd_solid_append {word : List Char} (solid : ∀ char ∈ word, isBlank char = false)
    (text : List Char) : trimEnd (word ++ text) = word ++ trimEnd text := by
  have kept : word.reverse.dropWhile isBlank = word.reverse := by
    rw [List.dropWhile_eq_self_iff]
    intro nonempty
    rw [solid _ (List.mem_reverse.mp (List.getElem_mem nonempty))]
    exact Bool.false_ne_true
  rw [trimEnd, List.reverse_append, List.dropWhile_append, kept]
  split
  · rename_i nothing
    rw [trimEnd, List.isEmpty_iff.mp nothing, List.reverse_reverse, List.reverse_nil,
      List.append_nil]
  · rw [List.reverse_append, List.reverse_reverse, trimEnd]

theorem firstWord_append {word : List Char} {char : Char}
    (solid : ∀ char ∈ word, isBlank char = false) (named : word ≠ []) (blank : isBlank char = true)
    (rest : List Char) : (firstWord (word ++ char :: rest)).1 = word := by
  have start : trimStart (word ++ char :: rest) = word ++ char :: rest := by
    obtain ⟨first, others, rfl⟩ := List.exists_cons_of_ne_nil named
    have shown : ¬isBlank first = true := by
      rw [solid first List.mem_cons_self]
      exact Bool.false_ne_true
    exact List.dropWhile_cons_of_neg shown
  have after : (trimEnd (char :: rest)).takeWhile (fun char => !isBlank char) = [] := by
    have within : trimEnd (char :: rest) <+: char :: rest := List.rdropWhile_prefix isBlank _
    cases ending : trimEnd (char :: rest) with
    | nil => rfl
    | cons head tail =>
        rw [ending] at within
        obtain ⟨rfl, -⟩ := List.cons_prefix_cons.mp within
        simp [blank]
  have kept : ∀ char ∈ word, (!isBlank char) = true := by
    intro char member
    rw [solid char member]
    rfl
  simp only [firstWord, trim, start, trimEnd_solid_append solid]
  rw [List.takeWhile_append_of_pos kept, after, List.append_nil]

theorem trim_trimStart (text : List Char) : trim (trimStart text) = trim text := by
  rw [trim, trim, trimStart, trimStart, List.dropWhile_idempotent]

theorem trim_trimEnd (text : List Char) : trim (trimEnd text) = trim text := by
  obtain ⟨after, parts, blanks⟩ := exists_blank_trimEnd text
  conv_rhs => rw [parts, trim_append_blank blanks]

theorem trimEnd_append {rest : List Char} (ends : trimEnd rest ≠ []) (text : List Char) :
    trimEnd (text ++ rest) = text ++ trimEnd rest := by
  rw [trimEnd, List.reverse_append, List.dropWhile_append]
  split
  · rename_i nothing
    rw [trimEnd, List.isEmpty_iff.mp nothing] at ends
    exact (ends rfl).elim
  · rw [List.reverse_append, List.reverse_reverse, trimEnd]

/-- A text with a visible character is trimmed on the two sides of it. -/
theorem trim_append_cons {char : Char} (visible : isBlank char = false) (before after : List Char) :
    trim (before ++ char :: after) = trimStart before ++ char :: trimEnd after := by
  have start : trimStart (before ++ char :: after) = trimStart before ++ char :: after := by
    rw [trimStart, List.dropWhile_append, trimStart]
    split
    · rename_i nothing
      rw [List.isEmpty_iff.mp nothing, List.dropWhile_cons_of_neg (by simp [visible]),
        List.nil_append]
    · rfl
  have ends : trimEnd (char :: after) = char :: trimEnd after :=
    trimEnd_solid_append (List.forall_mem_singleton.mpr visible) after
  have more : trimEnd (char :: after) ≠ [] := by simp [ends]
  rw [trim, start, trimEnd_append more, ends]

/-- Trimming takes away nothing but white space. -/
theorem filter_trim {keeps : Char → Bool}
    (drops : ∀ char, isBlank char = true → keeps char = false) (text : List Char) :
    (trim text).filter keeps = text.filter keeps := by
  obtain ⟨before, after, parts, blankBefore, blankAfter⟩ := exists_blank_trim text
  have nothing : ∀ blank : List Char, (∀ char ∈ blank, isBlank char = true) →
      blank.filter keeps = [] := by
    intro blank blanks
    simpa using fun char member => drops char (blanks char member)
  conv_rhs => rw [parts]
  rw [List.filter_append, List.filter_append, nothing before blankBefore,
    nothing after blankAfter, List.nil_append, List.append_nil]

theorem trim_trim (text : List Char) : trim (trim text) = trim text := by
  have kept : (trim text).dropWhile isBlank = trim text := by
    rw [List.dropWhile_eq_self_iff]
    intro nonempty
    have within : trim text <+: text.dropWhile isBlank := List.rdropWhile_prefix isBlank _
    have solid := List.dropWhile_eq_self_iff.mp (List.dropWhile_idempotent isBlank text)
      (Nat.lt_of_lt_of_le nonempty within.length_le)
    rwa [← within.getElem nonempty] at solid
  rw [trim_eq_rdropWhile (trim text), kept, trim_eq_rdropWhile text, List.rdropWhile_idempotent]

end QueryShell.Text
