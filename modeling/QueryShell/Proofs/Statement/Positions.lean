import QueryShell.Proofs.Statement.Grammar
import QueryShell.Proofs.Text.Bytes

/-!
Positions of statements. What a statement is read from is a slice of the text that ends behind a
terminator or with the text. A statement is the same on its own slice, and what is behind the slice
is read as a text of its own, only that its positions are moved by what is in front.
-/

namespace QueryShell.Statement

open Text

section Fragments

inductive IsFirst : List Char → List Char → Prop
  | last {text : List Char} (filled : text ≠ []) (absent : terminator ∉ text) : IsFirst text []
  | cut {text : List Char} (absent : terminator ∉ text) (rest : List Char) :
      IsFirst (text ++ [terminator]) rest

variable {piece rest text : List Char}

theorem IsFirst.filled (first : IsFirst piece rest) : piece ≠ [] := by
  cases first with
  | last filled _ => exact filled
  | cut _ _ => exact List.append_ne_nil_of_right_ne_nil _ (List.cons_ne_nil _ _)

theorem fragments_append_of_absent (absent : terminator ∉ text) (rest : List Char) :
    fragments (text ++ terminator :: rest) = (text ++ [terminator]) :: fragments rest := by
  induction text with
  | nil => simp [fragments]
  | cons char others ih =>
      rw [List.mem_cons, not_or] at absent
      obtain ⟨other, later⟩ := absent
      rw [List.cons_append, fragments, if_neg (Ne.symm other), ih later]
      rfl

theorem fragments_of_absent (filled : text ≠ []) (absent : terminator ∉ text) :
    fragments text = [text] := by
  induction text with
  | nil => exact (filled rfl).elim
  | cons char others ih =>
      rw [List.mem_cons, not_or] at absent
      obtain ⟨other, later⟩ := absent
      rw [fragments, if_neg (Ne.symm other)]
      cases others with
      | nil => rfl
      | cons second more => rw [ih (List.cons_ne_nil _ _) later]

theorem IsFirst.fragments_append (first : IsFirst piece rest) :
    fragments (piece ++ rest) = piece :: fragments rest := by
  cases first with
  | last filled absent => rw [List.append_nil, fragments_of_absent filled absent]; rfl
  | cut absent rest =>
      rw [List.append_assoc, List.singleton_append, fragments_append_of_absent absent]

/-- A text is empty, or its first fragment in front of another text. -/
@[elab_as_elim]
theorem fragment_induction {motive : List Char → Prop} (empty : motive [])
    (first : ∀ piece rest, IsFirst piece rest → motive rest → motive (piece ++ rest))
    (text : List Char) : motive text := by
  induction size : text.length using Nat.strong_induction_on generalizing text with
  | _ size ih =>
      by_cases filled : text = []
      · rw [filled]
        exact empty
      · by_cases ends : terminator ∈ text
        · obtain ⟨front, rest, rfl, absent⟩ := List.eq_append_cons_of_mem ends
          rw [List.append_cons]
          refine first _ rest (.cut absent rest) (ih rest.length ?_ rest rfl)
          rw [← size, List.length_append, List.length_cons]
          omega
        · rw [← List.append_nil text]
          exact first text [] (.last filled ends) empty

theorem flatten_fragments (text : List Char) : (fragments text).flatten = text := by
  induction text using fragment_induction with
  | empty => rfl
  | first piece rest first ih => rw [first.fragments_append, List.flatten_cons, ih]

/-- Fragments of a text are those of what they are joined to, and so are the fragments behind. -/
theorem fragments_of_parts {used unread : List (List Char)}
    (parts : fragments text = used ++ unread) :
    fragments used.flatten = used ∧ fragments unread.flatten = unread := by
  induction text using fragment_induction generalizing used with
  | empty =>
      obtain ⟨rfl, rfl⟩ := List.append_eq_nil_iff.mp parts.symm
      exact ⟨rfl, rfl⟩
  | first piece rest first ih =>
      cases used with
      | nil =>
          rw [List.nil_append] at parts
          rw [← parts, flatten_fragments]
          exact ⟨rfl, rfl⟩
      | cons head used =>
          rw [first.fragments_append, List.cons_append] at parts
          obtain ⟨rfl, later⟩ := List.cons.inj parts
          obtain ⟨front, back⟩ := ih later
          refine ⟨?_, back⟩
          -- Only the last fragment may lack its terminator, and then there is nothing behind it.
          have still : IsFirst piece used.flatten := by
            cases first with
            | last filled absent =>
                obtain ⟨rfl, rfl⟩ := List.append_eq_nil_iff.mp later.symm
                exact .last filled absent
            | cut absent _ => exact .cut absent _
          rw [List.flatten_cons, still.fragments_append, front]

theorem terminated_of_parts {used unread : List (List Char)} (filled : used ≠ [])
    (parts : fragments text = used ++ unread) :
    (∃ front, used.flatten = front ++ [terminator]) ∨ unread = [] := by
  induction text using fragment_induction generalizing used with
  | empty => exact (filled (List.append_eq_nil_iff.mp parts.symm).1).elim
  | first piece rest first ih =>
      obtain ⟨head, used, rfl⟩ := List.exists_cons_of_ne_nil filled
      rw [first.fragments_append, List.cons_append] at parts
      obtain ⟨rfl, later⟩ := List.cons.inj parts
      cases first with
      | last _ _ => exact .inr (List.append_eq_nil_iff.mp later.symm).2
      | @cut front absent rest =>
          by_cases only : used = []
          · exact .inl ⟨front, by rw [only, List.flatten_singleton]⟩
          · rcases ih only later with ⟨more, ends⟩ | nothing
            · refine .inl ⟨front ++ [terminator] ++ more, ?_⟩
              rw [List.flatten_cons, ends, ← List.append_assoc]
            · exact .inr nothing

theorem fragments_ne_nil_of_filled (filled : text ≠ []) : fragments text ≠ [] := by
  intro nothing
  have joined := flatten_fragments text
  rw [nothing] at joined
  exact filled joined.symm

/-- A terminator ends a fragment whatever comes after it. -/
theorem fragments_append_terminator (front back : List Char) :
    fragments (front ++ [terminator] ++ back) =
      fragments (front ++ [terminator]) ++ fragments back := by
  induction front with
  | nil => simp [fragments]
  | cons char rest ih =>
      by_cases ends : char = terminator
      · simp only [List.cons_append, fragments, if_pos ends, ih]
      · have filled : rest ++ [terminator] ≠ [] :=
          List.append_ne_nil_of_right_ne_nil _ (List.cons_ne_nil _ _)
        obtain ⟨first, others, parts⟩ :=
          List.exists_cons_of_ne_nil (fragments_ne_nil_of_filled filled)
        simp only [List.cons_append, fragments, if_neg ends, ih, parts]

theorem fragments_append_of_parts {used unread : List (List Char)} {other : List Char}
    (filled : used ≠ []) (parts : fragments text = used ++ unread)
    (last : unread = [] → other = []) :
    fragments (used.flatten ++ other) = used ++ fragments other := by
  obtain ⟨alone, -⟩ := fragments_of_parts parts
  rcases terminated_of_parts filled parts with ⟨front, ends⟩ | nothing
  · rw [ends, fragments_append_terminator, ← ends, alone]
  · rw [last nothing, List.append_nil, alone]
    exact (List.append_nil used).symm

end Fragments

section Reading

variable {held statement : List Char} {unread rest : List (List Char)}

/-- A statement depends on no fragment behind its own. -/
theorem exists_used (found : nextAfter? held unread = some (statement, rest)) :
    ∃ used, used ≠ [] ∧ unread = used ++ rest ∧
      ∀ others, nextAfter? held (used ++ others) = some (statement, others) := by
  induction unread generalizing held with
  | nil => cases found
  | cons fragment later ih =>
      rw [nextAfter?] at found
      by_cases goes : (body fragment).getLast? = some escape
      · rw [if_pos goes] at found
        obtain ⟨used, -, rfl, same⟩ := ih found
        refine ⟨fragment :: used, List.cons_ne_nil _ _, rfl, fun others => ?_⟩
        rw [List.cons_append, nextAfter?, if_pos goes, same]
      · rw [if_neg goes] at found
        by_cases blank : (trim (held ++ body fragment)).isEmpty
        · simp only [if_pos blank] at found
          obtain ⟨used, -, rfl, same⟩ := ih found
          refine ⟨fragment :: used, List.cons_ne_nil _ _, rfl, fun others => ?_⟩
          simp only [List.cons_append, nextAfter?, if_neg goes, if_pos blank, same]
        · simp only [if_neg blank] at found
          cases found
          refine ⟨[fragment], List.cons_ne_nil _ _, rfl, fun others => ?_⟩
          simp only [List.cons_append, List.nil_append, nextAfter?, if_neg goes, if_neg blank]

theorem exists_of_mem_withRest {each : List Char × List (List Char)}
    (member : each ∈ withRest unread) : ∃ used, unread = used ++ each.2 := by
  induction unread using withRest.induct with
  | case1 unread finished => simp [withRest_of_finished finished] at member
  | case2 unread statement rest found ih =>
      obtain ⟨used, -, parts, -⟩ := exists_used found
      rw [withRest_of_found found] at member
      rcases List.mem_cons.mp member with rfl | later
      · exact ⟨used, parts⟩
      · obtain ⟨more, others⟩ := ih later
        exact ⟨used ++ more, by rw [parts, others, List.append_assoc]⟩

end Reading

section Slices

/-- A slice that a statement is read from, in front of the rest of the text: it ends behind a
terminator or with the text, and gives the statement whatever comes after the terminator. -/
structure IsSlice (slice back : String) (statement : List Char) : Prop where
  filled : slice ≠ ""
  ends : (∃ body : String, slice = body.push terminator) ∨ back = ""
  found : ∀ other, (back = "" → other = "") →
    next? (fragments (slice ++ other).toList) = some (statement, fragments other.toList)

variable {text slice back : String} {statement : List Char} {unread : List (List Char)}

theorem IsSlice.size_pos (isSlice : IsSlice slice back statement) : 0 < slice.utf8ByteSize :=
  Nat.pos_of_ne_zero (mt String.utf8ByteSize_eq_zero_iff.mp isSlice.filled)

theorem exists_slice (found : next? (fragments text.toList) = some (statement, unread)) :
    ∃ slice back, text = slice ++ back ∧ unread = fragments back.toList ∧
      IsSlice slice back statement := by
  obtain ⟨used, filled, parts, same⟩ := exists_used found
  obtain ⟨of_slice, of_back⟩ := fragments_of_parts parts
  have whole := flatten_fragments text.toList
  rw [parts, List.flatten_append] at whole
  refine ⟨String.ofList used.flatten, String.ofList unread.flatten, ?_, ?_, ?_, ?_, ?_⟩
  · rw [← String.ofList_append, whole, String.ofList_toList]
  · rw [String.toList_ofList, of_back]
  · intro empty
    rw [String.ofList_eq_empty_iff.mp empty] at of_slice
    exact filled of_slice.symm
  · rcases terminated_of_parts filled parts with ⟨front, ends⟩ | nothing
    · refine .inl ⟨String.ofList front, String.toList_injective ?_⟩
      rw [String.toList_ofList, String.toList_push, String.toList_ofList, ends]
    · exact .inr (by rw [nothing]; rfl)
  · intro other last
    rw [String.toList_append, String.toList_ofList, fragments_append_of_parts filled parts]
    · exact same _
    · intro nothing
      rw [last (by rw [nothing]; rfl), String.toList_empty]

/-- A text has no statement, or a slice with its first statement in front of another text. -/
@[elab_as_elim]
theorem slice_induction {motive : String → Prop}
    (finished : ∀ text : String, next? (fragments text.toList) = none → motive text)
    (slice : ∀ slice back statement, IsSlice slice back statement → motive back →
      motive (slice ++ back))
    (text : String) : motive text := by
  induction size : text.utf8ByteSize using Nat.strong_induction_on generalizing text with
  | _ size ih =>
      cases found : next? (fragments text.toList) with
      | none => exact finished text found
      | some next =>
          obtain ⟨statement, unread⟩ := next
          obtain ⟨front, back, rfl, -, isSlice⟩ := exists_slice found
          refine slice front back statement isSlice (ih back.utf8ByteSize ?_ back rfl)
          have filled := isSlice.size_pos
          rw [← size, String.utf8ByteSize_append]
          omega

def moved (size : Nat) (found : String × Nat) : String × Nat := (found.1, size + found.2)

theorem splitWithPositions_of_finished (finished : next? (fragments text.toList) = none) :
    splitWithPositions text = [] := by
  rw [splitWithPositions, withRest_of_finished finished, List.map_nil]

/-- A slice gives its statement in front of any text that it can stand in front of. -/
theorem IsSlice.splitWithPositions_append (isSlice : IsSlice slice back statement)
    (other : String) (last : back = "" → other = "") :
    splitWithPositions (slice ++ other) =
      (String.ofList statement, slice.utf8ByteSize) ::
        (splitWithPositions other).map (moved slice.utf8ByteSize) := by
  have sizes : byteSize (slice ++ other).toList = slice.utf8ByteSize + other.utf8ByteSize := by
    rw [byteSize_toList, String.utf8ByteSize_append]
  rw [splitWithPositions, withRest_of_found (isSlice.found other last), List.map_cons]
  simp only [flatten_fragments, sizes, byteSize_toList, Nat.add_sub_cancel]
  congr 1
  rw [splitWithPositions, List.map_map]
  refine List.map_congr_left fun each member => ?_
  obtain ⟨used, parts⟩ := exists_of_mem_withRest member
  have joined := flatten_fragments other.toList
  have within : byteSize each.2.flatten ≤ other.utf8ByteSize := by
    rw [← byteSize_toList, ← joined, parts, List.flatten_append, byteSize_append]
    exact Nat.le_add_left _ _
  simp only [Function.comp, moved, byteSize_toList]
  rw [Nat.add_sub_assoc within]

theorem IsSlice.alone (isSlice : IsSlice slice back statement) :
    splitWithPositions slice = [(String.ofList statement, slice.utf8ByteSize)] := by
  have only := isSlice.splitWithPositions_append "" fun _ => rfl
  have nothing : splitWithPositions "" = [] := splitWithPositions_of_finished rfl
  rwa [nothing, List.map_nil, String.append_empty] at only

end Slices

section Positions

@[simp]
theorem map_moved_zero (found : List (String × Nat)) : found.map (moved 0) = found := by
  refine (List.map_congr_left fun each _ => ?_).trans (List.map_id found)
  rw [moved, Nat.zero_add]
  rfl

theorem map_moved_moved (first second : Nat) (found : List (String × Nat)) :
    (found.map (moved second)).map (moved first) = found.map (moved (first + second)) := by
  rw [List.map_map]
  refine List.map_congr_left fun each _ => ?_
  simp only [Function.comp, moved, Nat.add_assoc]

theorem map_fst_splitWithPositions (text : String) :
    (splitWithPositions text).map Prod.fst = split text := by
  rw [splitWithPositions, split, splitChars, List.map_map, List.map_map]
  rfl

/-- The positions behind the statements of a text ascend from its start. -/
theorem positions_ascend (text : String) :
    (0 :: (splitWithPositions text).map Prod.snd).Pairwise (· < ·) := by
  induction text using slice_induction with
  | finished text finished =>
      rw [splitWithPositions_of_finished finished]
      exact List.pairwise_singleton _ _
  | slice slice back statement isSlice ih =>
      have filled := isSlice.size_pos
      have later := ih.map (slice.utf8ByteSize + ·) fun _ _ less => Nat.add_lt_add_left less _
      have positions : (splitWithPositions (slice ++ back)).map Prod.snd =
          (0 :: (splitWithPositions back).map Prod.snd).map (slice.utf8ByteSize + ·) := by
        rw [isSlice.splitWithPositions_append _ id, List.map_cons, List.map_map, List.map_cons,
          List.map_map]
        rfl
      rw [positions]
      refine List.pairwise_cons.mpr ⟨fun position member => ?_, later⟩
      obtain ⟨distance, -, rfl⟩ := List.mem_map.mp member
      exact Nat.add_pos_left filled distance

def reached (found : List (String × Nat)) : Nat := (found.getLast?.map Prod.snd).getD 0

theorem reached_cons_moved (statement : String) (size : Nat) (found : List (String × Nat)) :
    reached ((statement, size) :: found.map (moved size)) = size + reached found := by
  rw [reached, reached, List.getLast?_cons, List.getLast?_map]
  cases found.getLast? with
  | none => rfl
  | some last => rfl

/-- A statement of a text and the parts of the text around it: what is in front up to the statement
before, the slice that is read, and what is behind. Each part is read as a text of its own, and the
slice gives the statement and no other. -/
structure IsDivided (text : String) (earlier : List (String × Nat)) (statement : String)
    (position : Nat) (later : List (String × Nat)) (front slice back : String) : Prop where
  parts : text = front ++ slice ++ back
  start : front.utf8ByteSize = reached earlier
  stop : (front ++ slice).utf8ByteSize = position
  ends : (∃ body : String, slice = body.push terminator) ∨ back = ""
  before : splitWithPositions front = earlier
  alone : splitWithPositions slice = [(statement, slice.utf8ByteSize)]
  behind : (splitWithPositions back).map (moved position) = later

theorem exists_division {text statement : String} {earlier later : List (String × Nat)}
    {position : Nat}
    (found : splitWithPositions text = earlier ++ (statement, position) :: later) :
    ∃ front slice back, IsDivided text earlier statement position later front slice back := by
  induction text using slice_induction generalizing earlier position later with
  | finished text finished =>
      rw [splitWithPositions_of_finished finished] at found
      cases (List.append_eq_nil_iff.mp found.symm).2
  | slice slice back first isSlice ih =>
      rw [isSlice.splitWithPositions_append _ id] at found
      cases earlier with
      | nil =>
          cases found
          exact ⟨"", slice, back, by rw [String.empty_append], rfl, by rw [String.empty_append],
            isSlice.ends, splitWithPositions_of_finished rfl, isSlice.alone, rfl⟩
      | cons head earlier =>
          -- The others are those of the text behind the first slice, all moved by its size.
          obtain ⟨rfl, rest⟩ := List.cons.inj found
          obtain ⟨earlier, others, all, rfl, same⟩ := List.map_eq_append_iff.mp rest
          obtain ⟨⟨statement, position⟩, later, rfl, here, rfl⟩ := List.map_eq_cons_iff.mp same
          cases here
          obtain ⟨front, middle, behind, cut⟩ := ih all
          have more : back ≠ "" := by
            rintro rfl
            rw [splitWithPositions_of_finished rfl] at all
            cases (List.append_eq_nil_iff.mp all.symm).2
          refine ⟨slice ++ front, middle, behind, ?_, ?_, ?_, cut.ends, ?_, cut.alone, ?_⟩
          · rw [cut.parts]
            simp only [String.append_assoc]
          · rw [String.utf8ByteSize_append, cut.start, reached_cons_moved]
          · rw [String.append_assoc, String.utf8ByteSize_append, cut.stop]
          · rw [isSlice.splitWithPositions_append _ fun nothing => (more nothing).elim, cut.before]
          · rw [← cut.behind, map_moved_moved]

end Positions

end QueryShell.Statement
