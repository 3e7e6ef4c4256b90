import QueryShell.Number.Decimal

/-!
The texts that denote numbers, as a grammar. A sign may stand in front of `inf`, `infinity` or `nan`
in any case, and in front of digits with at most one point among them and at most one exponent
after them. A text has a number exactly if the grammar has the text.
-/

namespace QueryShell.Decimal

def Digits (text : List Char) : Prop := ∀ char ∈ text, isDigit char = true

inductive Sign : List Char → Prop
  | none : Sign []
  | plus : Sign ['+']
  | minus : Sign ['-']

inductive Exponent : List Char → Prop
  | none : Exponent []
  | power {mark : Char} {sign digits : List Char} (marked : mark = 'e' ∨ mark = 'E')
      (signed : Sign sign) (numeric : Digits digits) (some_digit : digits ≠ []) :
      Exponent (mark :: (sign ++ digits))

inductive Magnitude : List Char → Prop
  | infinite {text : List Char}
      (named : text.map Char.toLower = "inf".toList ∨ text.map Char.toLower = "infinity".toList) :
      Magnitude text
  | nan {text : List Char} (named : text.map Char.toLower = "nan".toList) : Magnitude text
  | whole {digits exponent : List Char} (numeric : Digits digits) (some_digit : digits ≠ [])
      (raised : Exponent exponent) : Magnitude (digits ++ exponent)
  | pointed {whole fraction exponent : List Char} (numeric : Digits whole)
      (also_numeric : Digits fraction) (some_digit : whole ≠ [] ∨ fraction ≠ [])
      (raised : Exponent exponent) : Magnitude (whole ++ '.' :: (fraction ++ exponent))

inductive Literal : List Char → Prop
  | signed {sign magnitude : List Char} (signed : Sign sign) (measured : Magnitude magnitude) :
      Literal (sign ++ magnitude)

variable {text digits rest : List Char}

theorem isSome_natOfText? : (natOfText? text).isSome = true ↔ Digits text ∧ text ≠ [] := by
  rw [natOfText?]
  cases text with
  | nil => simp
  | cons first rest =>
      by_cases numeric : (first :: rest).all isDigit
      · simp only [numeric]
        simpa [Digits] using numeric
      · simp only [numeric]
        simpa [Digits] using numeric

section Signs

def Unsigned (text : List Char) : Prop := ∀ first ∈ text.head?, first ≠ '-' ∧ first ≠ '+'

theorem cutSign_append {sign : List Char} (signed : Sign sign) (plain : Unsigned text) :
    (cutSign (sign ++ text)).2 = text := by
  cases signed with
  | plus => rfl
  | minus => rfl
  | none =>
      cases text with
      | nil => rfl
      | cons first rest =>
          obtain ⟨no_minus, no_plus⟩ := plain first rfl
          rw [List.nil_append, cutSign.eq_def]
          split
          · rename_i same
            exact (no_minus (List.cons.inj same).1).elim
          · rename_i same
            exact (no_plus (List.cons.inj same).1).elim
          · rfl

theorem exists_sign (text : List Char) : ∃ sign, Sign sign ∧ text = sign ++ (cutSign text).2 := by
  rw [cutSign.eq_def]
  split
  · exact ⟨['-'], .minus, rfl⟩
  · exact ⟨['+'], .plus, rfl⟩
  · exact ⟨[], .none, rfl⟩

theorem Digits.unsigned (numeric : Digits digits) (rest_plain : Unsigned rest) :
    Unsigned (digits ++ rest) := by
  cases digits with
  | nil => exact rest_plain
  | cons first others =>
      rintro _ ⟨⟩
      have digit := numeric first List.mem_cons_self
      constructor
      · rintro rfl
        exact absurd digit (by decide)
      · rintro rfl
        exact absurd digit (by decide)

end Signs

section Exponents

theorem isSome_exponentOfText? : (exponentOfText? text).isSome = true ↔ Exponent text := by
  constructor
  · intro given
    cases text with
    | nil => exact .none
    | cons mark rest =>
        rw [exponentOfText?] at given
        split at given
        · rename_i marked
          rw [Option.isSome_map, isSome_natOfText?] at given
          obtain ⟨sign, signed, parts⟩ := exists_sign rest
          rw [parts]
          exact .power (by simpa using marked) signed given.1 given.2
        · cases given
  · intro raised
    cases raised with
    | none => rfl
    | @power mark sign digits marked signed numeric some_digit =>
        have nothing : Unsigned [] := by rintro _ ⟨⟩
        have plain : Unsigned digits := by simpa using numeric.unsigned nothing
        have letter : (mark = 'e' || mark = 'E') = true := by simpa using marked
        rw [exponentOfText?, if_pos letter]
        simp only [cutSign_append signed plain, Option.isSome_map]
        exact isSome_natOfText?.mpr ⟨numeric, some_digit⟩

/-- No digit goes on into an exponent. -/
theorem Exponent.span_append (raised : Exponent text) (numeric : Digits digits) :
    (digits ++ text).takeWhile isDigit = digits ∧ (digits ++ text).dropWhile isDigit = text := by
  have ends : text.takeWhile isDigit = [] ∧ text.dropWhile isDigit = text := by
    cases raised with
    | none => exact ⟨rfl, rfl⟩
    | power marked =>
        rcases marked with rfl | rfl
        · exact ⟨rfl, rfl⟩
        · exact ⟨rfl, rfl⟩
  constructor
  · rw [List.takeWhile_append_of_pos numeric, ends.1, List.append_nil]
  · rw [List.dropWhile_append_of_pos numeric, ends.2]

theorem Exponent.unpointed (raised : Exponent text) : ∀ rest, text ≠ '.' :: rest := by
  rintro rest rfl
  cases raised with
  | power marked => exact absurd marked (by decide)

end Exponents

section Magnitudes

theorem digits_takeWhile (text : List Char) : Digits (text.takeWhile isDigit) :=
  List.all_eq_true.mp List.all_takeWhile

theorem some_digit_iff {whole fraction : List Char} :
    ¬(whole.isEmpty && fraction.isEmpty) = true ↔ whole ≠ [] ∨ fraction ≠ [] := by
  rw [Bool.and_eq_true, List.isEmpty_iff, List.isEmpty_iff, Decidable.not_and_iff_not_or_not]

theorem magnitude_of_unsignedOfText? {negative : Bool}
    (given : (unsignedOfText? negative text).isSome = true) : Magnitude text := by
  have parts : text.takeWhile isDigit ++ text.dropWhile isDigit = text :=
    List.takeWhile_append_dropWhile
  simp only [unsignedOfText?, Bool.or_eq_true, decide_eq_true_eq] at given
  split at given
  · rename_i named
    exact .infinite named
  · split at given
    · rename_i named
      exact .nan named
    · split at given
      · rename_i after pointed
        have later : after.takeWhile isDigit ++ after.dropWhile isDigit = after :=
          List.takeWhile_append_dropWhile
        split at given
        · cases given
        · rename_i some_digit
          rw [Option.isSome_map, isSome_exponentOfText?] at given
          rw [← parts, pointed, ← later]
          exact .pointed (digits_takeWhile text) (digits_takeWhile after)
            (some_digit_iff.mp some_digit) given
      · split at given
        · cases given
        · rename_i some_digit
          rw [Option.isSome_map, isSome_exponentOfText?] at given
          rw [← parts]
          refine .whole (digits_takeWhile text) ?_ given
          simpa using some_digit

theorem isSome_unsignedOfText? {negative : Bool} :
    (unsignedOfText? negative text).isSome = true ↔ Magnitude text := by
  refine ⟨magnitude_of_unsignedOfText?, fun measured => ?_⟩
  simp only [unsignedOfText?, Bool.or_eq_true, decide_eq_true_eq]
  split
  · rfl
  · rename_i finite
    split
    · rfl
    · rename_i other
      cases measured with
      | infinite named => exact (finite named).elim
      | nan named => exact (other named).elim
      | whole numeric some_digit raised =>
          obtain ⟨taken, dropped⟩ := raised.span_append numeric
          rw [taken, dropped]
          split
          · exact (raised.unpointed _ rfl).elim
          · rw [if_neg (by simpa using some_digit), Option.isSome_map]
            exact isSome_exponentOfText?.mpr raised
      | @pointed whole fraction exponent numeric also_numeric some_digit raised =>
          have taken : (whole ++ '.' :: (fraction ++ exponent)).takeWhile isDigit = whole := by
            rw [List.takeWhile_append_of_pos numeric, List.takeWhile_cons_of_neg (by decide),
              List.append_nil]
          have dropped : (whole ++ '.' :: (fraction ++ exponent)).dropWhile isDigit =
              '.' :: (fraction ++ exponent) := by
            rw [List.dropWhile_append_of_pos numeric, List.dropWhile_cons_of_neg (by decide)]
          obtain ⟨fraction_taken, fraction_dropped⟩ := raised.span_append also_numeric
          simp only [taken, dropped, fraction_taken, fraction_dropped]
          rw [if_neg (some_digit_iff.mpr some_digit), Option.isSome_map]
          exact isSome_exponentOfText?.mpr raised

theorem Magnitude.unsigned (measured : Magnitude text) : Unsigned text := by
  have worded {word : List Char} (named : text.map Char.toLower = word)
      (plain : ∀ first ∈ word.head?, first ≠ '-' ∧ first ≠ '+') : Unsigned text := by
    subst named
    cases text with
    | nil => exact plain
    | cons first rest =>
        rintro _ ⟨⟩
        obtain ⟨no_minus, no_plus⟩ := plain first.toLower rfl
        constructor
        · rintro rfl
          exact no_minus rfl
        · rintro rfl
          exact no_plus rfl
  cases measured with
  | infinite named =>
      rcases named with named | named
      · exact worded named (by simp)
      · exact worded named (by simp)
  | nan named => exact worded named (by simp)
  | whole numeric some_digit raised =>
      refine numeric.unsigned ?_
      cases raised with
      | none => rintro _ ⟨⟩
      | power marked =>
          rintro _ ⟨⟩
          rcases marked with rfl | rfl
          · decide
          · decide
  | pointed numeric =>
      refine numeric.unsigned ?_
      rintro _ ⟨⟩
      decide

end Magnitudes

theorem isSome_binary64OfText? : (binary64OfText? text).isSome = true ↔ Literal text := by
  simp only [binary64OfText?, isSome_unsignedOfText?]
  constructor
  · intro measured
    obtain ⟨sign, signed, parts⟩ := exists_sign text
    rw [parts]
    exact .signed signed measured
  · rintro ⟨signed, measured⟩
    rwa [cutSign_append signed measured.unsigned]

end QueryShell.Decimal
