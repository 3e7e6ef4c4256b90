import QueryShell.Proofs.Sampling.Grammar

/-!
The query for the keys of a sample. Each star of the base stands for the columns and their count. The
marker is looked for only after that, and is still the one behind the base unless the columns have
completed another one in it.
-/

namespace QueryShell

open Text

theorem Text.substitute_append (char : Char) (replacement first second : List Char) :
    substitute char replacement (first ++ second) =
      substitute char replacement first ++ substitute char replacement second :=
  List.flatMap_append

theorem Text.substitute_of_not_mem {char : Char} {text : List Char} (absent : char ∉ text)
    (replacement : List Char) : substitute char replacement text = text := by
  induction text with
  | nil => rfl
  | cons first rest ih =>
      rw [List.mem_cons, not_or] at absent
      rw [substitute, List.flatMap_cons, if_neg (Ne.symm absent.1), List.singleton_append]
      exact congrArg _ (ih absent.2)

namespace Sample

variable {base marker back : List Char}

theorem apart_biasMarker : Apart biasMarker := by decide +kernel

/-- A marker is found behind a text without one, as it cannot begin in that text. -/
theorem cutMarker?_append_of_absent (cased : lowerAscii marker = biasMarker)
    (absent : ¬biasMarker <:+: lowerAscii base) (back : List Char) :
    cutMarker? (base ++ (marker ++ back)) = some (base, marker ++ back) := by
  rw [cutMarker?_eq, lowerAscii_append, lowerAscii_append, cased,
    cutAt?_append_of_absent apart_biasMarker absent, Option.map_some]
  simp only [length_lowerAscii, List.take_left, List.drop_left]

/-- A text that has a marker is not left whole. -/
theorem length_lt_of_cutMarker? {front rest : List Char}
    (occurs : biasMarker <:+: lowerAscii base)
    (cut : cutMarker? (base ++ back) = some (front, rest)) : front.length < base.length := by
  obtain ⟨before, after, parts⟩ := occurs
  obtain ⟨marker, columns, -, -, -, first⟩ := cutMarker?_eq_some_iff.mp cut
  have among : biasMarker <+: (lowerAscii (base ++ back)).drop before.length := by
    rw [lowerAscii_append, ← parts, List.append_assoc, List.append_assoc, List.drop_left]
    exact List.prefix_append _ _
  have sooner : front.length ≤ before.length :=
    Nat.not_lt.mp fun later => first.first before.length later among
  have length := congrArg List.length parts
  rw [List.length_append, List.length_append, length_lowerAscii] at length
  have size : 0 < biasMarker.length := by decide
  omega

theorem star_not_mem (cased : lowerAscii marker = biasMarker) : '*' ∉ marker := by
  intro member
  have lowered : '*' ∈ lowerAscii marker := List.mem_map.mpr ⟨'*', member, rfl⟩
  rw [cased] at lowered
  exact absurd lowered (by decide)

/-- The query groups the base by the columns, with the columns and their count for every star, exactly
if this makes no marker in the base. What the columns have in them makes no difference. -/
theorem summary_groups_base_iff {statement : String} {sample : Sample}
    (taken : ofStatement statement = .ok sample) :
    let counted := substitute '*' (sample.columnsText ++ ",count(*)".toList) sample.base
    ¬biasMarker <:+: lowerAscii counted ↔
      sample.summaryQuery = String.ofList (counted ++ " group by ".toList ++ sample.columnsText) := by
  intro counted
  obtain ⟨marker, _, _, written, command, -⟩ :=
    ofChars?_eq_some_iff.mp (ofStatement_eq_ok_iff.mp taken)
  have cased := written.marked.cased
  -- The marker has no star, so the whole text is changed in front of it and behind it only.
  obtain ⟨back, whole⟩ : ∃ back, substitute '*' (sample.columnsText ++ ",count(*)".toList)
      sample.command = counted ++ (marker ++ back) := by
    refine ⟨substitute '*' (sample.columnsText ++ ",count(*)".toList) sample.columnsText, ?_⟩
    rw [command, substitute_append, substitute_append,
      substitute_of_not_mem (star_not_mem cased), List.append_assoc]
  simp only [summaryQuery, whole, String.ofList_inj]
  constructor
  · intro absent
    rw [cutMarker?_append_of_absent cased absent]
  · intro same occurs
    have also_occurs : biasMarker <:+: lowerAscii (counted ++ (marker ++ back)) := by
      rw [lowerAscii_append]
      exact occurs.trans (List.prefix_append _ _).isInfix
    obtain ⟨⟨front, rest⟩, cut⟩ :=
      Option.isSome_iff_exists.mp (isSome_cutMarker?.mpr also_occurs)
    simp only [cut, List.append_assoc] at same
    have shorter := length_lt_of_cutMarker? occurs cut
    have length := congrArg List.length (List.append_cancel_right same)
    omega

theorem summary_groups_base_iff_of_marker_in_columns :
    let text := "select x from ſ bias obias on é*, bias on c limit=3"
    ∃ sample, ofStatement text = .ok sample ∧
      sample.columnsText = " é*, bias on c ".toList ∧
      ¬biasMarker <:+: lowerAscii (substitute '*' (sample.columnsText ++ ",count(*)".toList)
        sample.base) ∧
      sample.summaryQuery = "select x from ſ bias o group by  é*, bias on c " := by
  intro text
  let sample : Sample :=
    { command := "select x from ſ bias obias on é*, bias on c ".toList
      base := "select x from ſ bias o".toList
      columnsText := " é*, bias on c ".toList
      columns := ["é*".toList, "bias on c".toList]
      limit := .finite false 6755399441055744 (-51) }
  have found : ofChars? text.toList = some sample := by decide +kernel
  have taken : ofStatement text = .ok sample := ofStatement_eq_ok_iff.mpr found
  have unmarked : ¬biasMarker <:+: lowerAscii
      (substitute '*' (sample.columnsText ++ ",count(*)".toList) sample.base) := by
    decide +kernel
  have grouped := (summary_groups_base_iff taken).mp unmarked
  exact ⟨sample, taken, rfl, unmarked, grouped.trans (by decide +kernel)⟩

end Sample

end QueryShell
