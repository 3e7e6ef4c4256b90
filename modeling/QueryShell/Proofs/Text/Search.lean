import QueryShell.Text.Search

/-!
The first occurrence of a part in a text. A text is cut where a marker is found first, and a marker
that cannot overlap itself is found behind any text that does not have it.
-/

namespace QueryShell.Text

variable {Element : Type} {part whole : List Element} {marker text before after : List Char}

structure FirstAt (part whole : List Element) (place : Nat) : Prop where
  here : part <+: whole.drop place
  first : ∀ earlier < place, ¬part <+: whole.drop earlier

theorem FirstAt.unique {place other : Nat} (found : FirstAt part whole place)
    (also_found : FirstAt part whole other) : place = other := by
  rcases Nat.lt_trichotomy place other with sooner | same | later
  · exact (also_found.first place sooner found.here).elim
  · exact same
  · exact (found.first other later also_found.here).elim

theorem FirstAt.succ {element : Element} {place : Nat} (elsewhere : ¬part <+: element :: whole)
    (found : FirstAt part whole place) : FirstAt part (element :: whole) (place + 1) := by
  refine ⟨found.here, fun earlier sooner => ?_⟩
  cases earlier with
  | zero => exact elsewhere
  | succ earlier => exact found.first earlier (Nat.lt_of_succ_lt_succ sooner)

theorem eq_append_of_cutAt? (cut : cutAt? marker text = some (before, after)) :
    text = before ++ marker ++ after := by
  induction text generalizing before with
  | nil =>
      simp only [cutAt?] at cut
      split at cut
      · rename_i empty
        cases cut
        simp [List.isEmpty_iff.mp empty]
      · cases cut
  | cons char rest ih =>
      simp only [cutAt?] at cut
      split at cut
      · rename_i here
        cases cut
        exact (List.prefix_iff_eq_append.mp (List.isPrefixOf_iff_prefix.mp here)).symm
      · obtain ⟨⟨front, back⟩, later, same⟩ := Option.map_eq_some_iff.mp cut
        cases same
        rw [ih later]
        rfl

theorem firstAt_of_cutAt? (cut : cutAt? marker text = some (before, after)) :
    FirstAt marker text before.length := by
  induction text generalizing before with
  | nil =>
      simp only [cutAt?] at cut
      split at cut
      · rename_i empty
        cases cut
        exact ⟨by simp [List.isEmpty_iff.mp empty], by simp⟩
      · cases cut
  | cons char rest ih =>
      simp only [cutAt?] at cut
      split at cut
      · rename_i here
        cases cut
        exact ⟨List.isPrefixOf_iff_prefix.mp here, by simp⟩
      · rename_i elsewhere
        obtain ⟨⟨front, back⟩, later, same⟩ := Option.map_eq_some_iff.mp cut
        cases same
        exact (ih later).succ fun here => elsewhere (List.isPrefixOf_iff_prefix.mpr here)

theorem isSome_cutAt? : (cutAt? marker text).isSome = true ↔ marker <:+: text := by
  induction text with
  | nil => simp [cutAt?]
  | cons char rest ih =>
      rw [List.infix_cons_iff, ← ih, ← List.isPrefixOf_iff_prefix]
      simp only [cutAt?]
      split
      · rename_i here
        simp [here]
      · rename_i elsewhere
        simp [elsewhere]

/-- A text is cut exactly at the first occurrence of the marker. -/
theorem cutAt?_eq_some_iff : cutAt? marker text = some (before, after) ↔
    text = before ++ marker ++ after ∧ FirstAt marker text before.length := by
  constructor
  · intro cut
    exact ⟨eq_append_of_cutAt? cut, firstAt_of_cutAt? cut⟩
  · rintro ⟨parts, found⟩
    have occurs : marker <:+: text := ⟨before, after, parts.symm⟩
    obtain ⟨⟨front, back⟩, cut⟩ := Option.isSome_iff_exists.mp (isSome_cutAt?.mpr occurs)
    have length := (firstAt_of_cutAt? cut).unique found
    have same : front ++ (marker ++ back) = before ++ (marker ++ after) := by
      rw [← List.append_assoc, ← eq_append_of_cutAt? cut, parts, List.append_assoc]
    obtain ⟨rfl, rest⟩ := List.append_inj same length
    rw [cut, List.append_cancel_left rest]

theorem cutAt?_eq_none_iff : cutAt? marker text = none ↔ ¬marker <:+: text := by
  rw [← isSome_cutAt?, Option.not_isSome_iff_eq_none]

/-- Whether no end of a text is the beginning of it, so that two occurrences never overlap. -/
def Apart (marker : List Char) : Prop :=
  ∀ size < marker.length, 0 < size → ¬marker.drop size <+: marker

instance (marker : List Char) : Decidable (Apart marker) :=
  inferInstanceAs (Decidable (∀ size < marker.length, 0 < size → ¬marker.drop size <+: marker))

theorem Apart.prefix_of_prefix_append {front back : List Char} (apart : Apart marker)
    (filled : front ≠ []) (here : marker <+: front ++ (marker ++ back)) : marker <+: front := by
  rcases List.prefix_or_prefix_of_prefix here (List.prefix_append front _) with within | beyond
  · exact within
  · obtain ⟨rest, parts⟩ := beyond
    have rest_here : rest <+: marker ++ back := by
      rw [← parts, List.prefix_append_right_inj] at here
      rwa [parts] at here
    have rest_eq : rest = marker.drop front.length := by rw [← parts, List.drop_left]
    by_cases shorter : front.length < marker.length
    · have overlap : rest <+: marker := List.prefix_of_prefix_length_le rest_here
        (List.prefix_append marker back) (by rw [← parts, List.length_append]; omega)
      rw [rest_eq] at overlap
      exact (apart front.length shorter (List.length_pos_iff.mpr filled) overlap).elim
    · rw [List.drop_of_length_le (Nat.not_lt.mp shorter)] at rest_eq
      exact ⟨[], by rw [List.append_nil, ← parts, rest_eq, List.append_nil]⟩

/-- A marker that does not overlap itself is found behind a text without it. -/
theorem cutAt?_append_of_absent {front : List Char} (apart : Apart marker)
    (absent : ¬marker <:+: front) (back : List Char) :
    cutAt? marker (front ++ (marker ++ back)) = some (front, back) := by
  induction front with
  | nil =>
      cases marker with
      | nil => exact (absent List.nil_infix).elim
      | cons first rest => simp [cutAt?]
  | cons char rest ih =>
      rw [List.infix_cons_iff, not_or] at absent
      have elsewhere : ¬marker.isPrefixOf (char :: rest ++ (marker ++ back)) = true := by
        rw [List.isPrefixOf_iff_prefix]
        exact fun here => absent.1 (apart.prefix_of_prefix_append (List.cons_ne_nil _ _) here)
      rw [List.cons_append] at elsewhere ⊢
      rw [cutAt?, if_neg elsewhere, ih absent.2, Option.map_some]

end QueryShell.Text
