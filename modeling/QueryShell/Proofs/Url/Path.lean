import QueryShell.Proofs.Text.Lines
import QueryShell.Proofs.Url.Percent
import QueryShell.Url

/-!
Resolved paths. A path that was read has no dot segments and nothing that has to be encoded, and it
is read as itself.
-/

namespace QueryShell.Url

variable {segment path : List Char} {segments before : List (List Char)} {text : List Char}

structure IsSegment (segment : List Char) : Prop where
  plain : Percent.Plain Percent.inPath segment
  whole : '/' ∉ segment
  named : isDot segment = false
  below : isDoubleDot segment = false

def IsResolved (path : List Char) : Prop :=
  ∃ segments ≠ [], (∀ segment ∈ segments, IsSegment segment) ∧
    path = '/' :: ['/'].intercalate segments

theorem isSegment_nil : IsSegment [] where
  plain := List.forall_mem_nil _
  whole := List.not_mem_nil
  named := by decide
  below := by decide

def entered (before : List (List Char)) (segment : List Char) : List (List Char) :=
  if isDoubleDot segment then
    match before with
    | last :: others => if isDrive last then before else others
    | [] => []
  else if isDot segment then before
  else segment :: before

theorem resolve_cons (before : List (List Char)) (segment : List Char) (rest : List (List Char)) :
    resolve before (segment :: rest) =
      if rest.isEmpty && (isDot segment || isDoubleDot segment) then
        ([] :: entered before segment).reverse
      else resolve (entered before segment) rest := rfl

theorem IsSegment.entered_eq (whole : IsSegment segment) (before : List (List Char)) :
    entered before segment = segment :: before := by
  simp [entered, whole.named, whole.below]

theorem isSegment_of_mem_entered {other : List Char}
    (kept : ∀ segment ∈ before, IsSegment segment)
    (plain : Percent.Plain Percent.inPath segment) (whole : '/' ∉ segment)
    (member : other ∈ entered before segment) : IsSegment other := by
  rw [entered.eq_def] at member
  split at member
  · split at member
    · split at member
      · exact kept other member
      · exact kept other (List.mem_cons_of_mem _ member)
    · cases member
  · rename_i not_above
    split at member
    · exact kept other member
    · rename_i not_here
      rcases List.mem_cons.mp member with rfl | behind
      · exact ⟨plain, whole, Bool.eq_false_iff.mpr not_here, Bool.eq_false_iff.mpr not_above⟩
      · exact kept other behind

theorem resolve_of_segments (each : ∀ segment ∈ segments, IsSegment segment)
    (before : List (List Char)) : resolve before segments = before.reverse ++ segments := by
  induction segments generalizing before with
  | nil => simp [resolve]
  | cons first rest ih =>
      obtain ⟨segment, each⟩ := List.forall_mem_cons.mp each
      simp [resolve_cons, segment.entered_eq, segment.named, segment.below, ih each]

/-- What is left of encoded segments without a slash are segments that stand for themselves. -/
theorem isSegment_of_mem_resolve
    (plain : ∀ segment ∈ segments, Percent.Plain Percent.inPath segment)
    (whole : ∀ segment ∈ segments, '/' ∉ segment) (kept : ∀ segment ∈ before, IsSegment segment)
    (member : segment ∈ resolve before segments) : IsSegment segment := by
  -- on the segments still to be read: those in `before` stand for themselves already
  induction segments generalizing before with
  | nil => exact kept segment (List.mem_reverse.mp member)
  | cons first rest ih =>
      obtain ⟨first_plain, plain⟩ := List.forall_mem_cons.mp plain
      obtain ⟨first_whole, whole⟩ := List.forall_mem_cons.mp whole
      have also_kept : ∀ segment ∈ entered before first, IsSegment segment := by
        intro other among
        exact isSegment_of_mem_entered kept first_plain first_whole among
      rw [resolve_cons] at member
      split at member
      · rcases List.mem_cons.mp (List.mem_reverse.mp member) with rfl | among
        · exact isSegment_nil
        · exact also_kept segment among
      · exact ih plain whole also_kept member

theorem resolve_ne_nil (some_segment : segments ≠ []) (before : List (List Char)) :
    resolve before segments ≠ [] := by
  induction segments generalizing before with
  | nil => exact (some_segment rfl).elim
  | cons first rest ih =>
      rw [resolve_cons]
      split
      · simp
      · rename_i goes_on
        cases rest with
        | nil =>
            have stays : isDot first = false ∧ isDoubleDot first = false := by
              simpa using goes_on
            simp [resolve, entered, stays]
        | cons second others => exact ih (List.cons_ne_nil _ _) (entered before first)

theorem pathAfterSlash_plain (text : List Char) :
    pathAfterSlash .plain text = String.ofList ('/' :: ['/'].intercalate
      (resolve [] ((Text.pieces (· = '/') text).map (Percent.encode Percent.inPath)))) := by
  simp [pathAfterSlash]

theorem isResolved_pathAfterSlash (text : List Char) :
    IsResolved (pathAfterSlash .plain text).toList := by
  rw [pathAfterSlash_plain, String.toList_ofList]
  have some_piece := Text.pieces_ne_nil (· = '/') text
  refine ⟨_, resolve_ne_nil (by simpa using some_piece) [], ?_, rfl⟩
  intro segment member
  refine isSegment_of_mem_resolve ?_ ?_ (List.forall_mem_nil _) member
  · intro segment among
    obtain ⟨piece, -, rfl⟩ := List.mem_map.mp among
    exact Percent.plain_encode Percent.sparesEscapes_inPath piece
  · intro segment among slash
    obtain ⟨piece, cut, rfl⟩ := List.mem_map.mp among
    rcases Percent.of_mem_encode slash with ⟨inside, -⟩ | mark | ⟨value, small, digit⟩
    · have spared := (Text.of_mem_pieces cut inside).2
      simp at spared
    · exact absurd mark (by decide)
    · have all : ∀ value < 16, '/' ≠ Percent.digit value := by decide
      exact all value small digit

theorem pathOf_cases (text : List Char) :
    pathOf .plain text = "" ∨ IsResolved (pathOf .plain text).toList := by
  rw [pathOf]
  split
  · exact .inl rfl
  · right
    split
    · split
      · exact isResolved_pathAfterSlash _
      · exact isResolved_pathAfterSlash _
    · exact isResolved_pathAfterSlash _

theorem of_mem_resolved {char : Char} (resolved : IsResolved path) (member : char ∈ path) :
    Percent.inPath char = false := by
  obtain ⟨segments, -, each, rfl⟩ := resolved
  rcases List.mem_cons.mp member with rfl | within
  · decide
  · by_contra escaped
    have other : char ≠ '/' := by
      rintro rfl
      exact escaped (by decide)
    refine Text.not_mem_intercalate other ?_ within
    intro segment among inside
    exact escaped ((each segment among).plain char inside)

theorem pathAfterSlash_of_segments (some_segment : segments ≠ [])
    (each : ∀ segment ∈ segments, IsSegment segment) :
    pathAfterSlash .plain (['/'].intercalate segments) =
      String.ofList ('/' :: ['/'].intercalate segments) := by
  have pieces : Text.pieces (· = '/') (['/'].intercalate segments) = segments :=
    Text.pieces_intercalate '/' some_segment fun segment member => (each segment member).whole
  have encoded : segments.map (Percent.encode Percent.inPath) = segments := by
    refine (List.map_congr_left fun segment member => ?_).trans (List.map_id segments)
    exact Percent.encode_of_plain (each segment member).plain
  rw [pathAfterSlash_plain, pieces, encoded, resolve_of_segments each]
  rfl

theorem pathOf_resolved (resolved : IsResolved path) :
    pathOf .plain path = String.ofList path := by
  have query_free : beforeQuery path = path := by
    rw [beforeQuery, List.takeWhile_eq_self_iff]
    intro char member
    obtain ⟨-, no_query, no_fragment⟩ := Percent.of_not_inPath (of_mem_resolved resolved member)
    simp [no_query, no_fragment]
  obtain ⟨segments, some_segment, each, rfl⟩ := resolved
  rw [pathOf, query_free]
  simpa [endsAuthority] using pathAfterSlash_of_segments some_segment each

end QueryShell.Url
