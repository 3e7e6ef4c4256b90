import Mathlib.Data.List.Infix
import QueryShell.Proofs.Statement.Positions

/-!
Reading a text by positions. A cursor holds nothing but a text and how many of its bytes are read,
and takes a slice of the text for every fragment. Between two characters it reads what the fragments
behind it give, and so does a fresh cursor on the rest of the text.
-/

namespace QueryShell

namespace Text

def behind? (size : Nat) : List Char → Option (List Char)
  | [] => if size = 0 then some [] else none
  | char :: rest =>
      if size = 0 then some (char :: rest)
      else if size < char.utf8Size then none
      else behind? (size - char.utf8Size) rest

theorem behind?_append (front back : List Char) :
    behind? (byteSize front) (front ++ back) = some back := by
  induction front with
  | nil => cases back <;> rfl
  | cons char rest ih =>
      have filled := char.utf8Size_pos
      have size : byteSize (char :: rest) = char.utf8Size + byteSize rest := rfl
      have nonzero : byteSize (char :: rest) ≠ 0 := by omega
      have fits : ¬byteSize (char :: rest) < char.utf8Size := by omega
      rw [List.cons_append, behind?, if_neg nonzero, if_neg fits, size, Nat.add_sub_cancel_left, ih]

theorem eq_append_of_behind? {size : Nat} {text back : List Char}
    (cut : behind? size text = some back) :
    ∃ front, text = front ++ back ∧ size = byteSize front := by
  induction text generalizing size with
  | nil =>
      simp only [behind?] at cut
      split at cut
      · rename_i zero
        cases cut
        exact ⟨[], rfl, zero⟩
      · cases cut
  | cons char rest ih =>
      simp only [behind?] at cut
      split at cut
      · rename_i zero
        cases cut
        exact ⟨[], rfl, zero⟩
      · split at cut
        · cases cut
        · obtain ⟨front, parts, place⟩ := ih cut
          refine ⟨char :: front, by rw [parts, List.cons_append], ?_⟩
          have whole : byteSize (char :: front) = char.utf8Size + byteSize front := rfl
          omega

/-- A text has slices at the positions between its characters only. -/
theorem isSome_behind?_iff {text : String} {position : Nat} :
    (behind? position text.toList).isSome = true ↔ String.Pos.Raw.IsValid text ⟨position⟩ := by
  rw [String.Pos.Raw.isValid_iff_exists_append]
  constructor
  · intro some_back
    obtain ⟨back, cut⟩ := Option.isSome_iff_exists.mp some_back
    obtain ⟨front, parts, rfl⟩ := eq_append_of_behind? cut
    refine ⟨String.ofList front, String.ofList back, ?_, ?_⟩
    · rw [← String.ofList_append, ← parts, String.ofList_toList]
    · rw [byteSize_eq]
      rfl
  · rintro ⟨front, back, rfl, place⟩
    obtain rfl : position = front.utf8ByteSize := congrArg String.Pos.Raw.byteIdx place
    rw [String.toList_append, ← byteSize_toList, behind?_append]
    rfl

example : behind? 1 "é;".toList = none ∧ behind? 2 "é;".toList = some [';'] := by decide

end Text

namespace Statement

open Text

section Reading

def fragmentAt? (text : List Char) (position : Nat) : Option (List Char × Nat) :=
  (behind? position text).map fun rest =>
    match cutAt? [terminator] rest with
    | some (fragment, _) => (fragment, position + byteSize fragment + terminator.utf8Size)
    | none => (rest, byteSize text)

theorem fragmentAt?_advances {text fragment : List Char} {position next : Nat}
    (found : fragmentAt? text position = some (fragment, next))
    (within : position < byteSize text) : position < next := by
  obtain ⟨rest, -, same⟩ := Option.map_eq_some_iff.mp found
  have filled := terminator.utf8Size_pos
  split at same
  · cases same
    omega
  · cases same
    exact within

/-- The next statement behind a position, where `held` is what earlier fragments left open, and the
position behind it. There is no statement up to the end of the text, and no result at all if a slice
begins inside a character. -/
def nextFrom? (text held : List Char) (position : Nat) : Option (Option (List Char) × Nat) :=
  if _within : position < byteSize text then
    match _found : fragmentAt? text position with
    | none => none
    | some (fragment, next) =>
        if fragment.getLast? = some escape then
          nextFrom? text (held ++ fragment.dropLast ++ [terminator]) next
        else
          let statement := trim (held ++ fragment)
          if statement.isEmpty then nextFrom? text (held ++ fragment) next
          else some (some statement, next)
  else some (none, position)
termination_by byteSize text - position
decreasing_by
  all_goals
    have advances := fragmentAt?_advances _found _within
    omega

structure Cursor where
  text : String
  position : Nat := 0
deriving DecidableEq, Repr

def Cursor.next? (cursor : Cursor) : Option (Option String × Cursor) :=
  (nextFrom? cursor.text.toList [] cursor.position).map fun (statement, position) =>
    (statement.map String.ofList, { cursor with position })

def Cursor.resume? (cursor : Cursor) : Option (Option String × Cursor) := do
  let rest ← behind? cursor.position cursor.text.toList
  let (statement, ahead) ← Cursor.next? { text := String.ofList rest }
  return (statement, { cursor with position := cursor.position + ahead.position })

variable {front rest piece : List Char}

theorem IsFirst.fragmentAt? (first : IsFirst piece rest) (front : List Char) :
    fragmentAt? (front ++ (piece ++ rest)) (byteSize front) =
      some (body piece, byteSize (front ++ piece)) := by
  rw [Statement.fragmentAt?, behind?_append, Option.map_some]
  cases first with
  | last filled absent =>
      have uncut : cutAt? [terminator] piece = none := by
        rw [cutAt?_eq_none_iff, List.singleton_infix_iff]
        exact absent
      have whole : body piece = piece := by
        rw [body, if_neg fun ends => absent (List.mem_of_getLast? ends)]
      rw [List.append_nil, uncut, whole]
  | @cut text absent rest =>
      have found : cutAt? [terminator] (text ++ [terminator] ++ rest) = some (text, rest) := by
        rw [List.append_assoc]
        refine cutAt?_append_of_absent (by decide) ?_ rest
        rwa [List.singleton_infix_iff]
      have stripped : body (text ++ [terminator]) = text := by simp [body]
      have size : byteSize (front ++ (text ++ [terminator])) =
          byteSize front + byteSize text + terminator.utf8Size := by
        rw [byteSize_append, byteSize_append, ← Nat.add_assoc]
        rfl
      rw [found, stripped, size]

theorem nextFrom?_of_fragment {text fragment : List Char} {position next : Nat}
    (within : position < byteSize text)
    (found : fragmentAt? text position = some (fragment, next)) (held : List Char) :
    nextFrom? text held position =
      if fragment.getLast? = some escape then
        nextFrom? text (held ++ fragment.dropLast ++ [terminator]) next
      else if (trim (held ++ fragment)).isEmpty then nextFrom? text (held ++ fragment) next
      else some (some (trim (held ++ fragment)), next) := by
  rw [nextFrom?, dif_pos within]
  split
  · rename_i inside
    rw [found] at inside
    cases inside
  · rename_i again
    rw [found] at again
    cases again
    rfl

theorem byteSize_pos {text : List Char} (filled : text ≠ []) : 0 < byteSize text := by
  obtain ⟨char, rest, rfl⟩ := List.exists_cons_of_ne_nil filled
  exact Nat.add_pos_left char.utf8Size_pos _

/-- From a position between two characters, a cursor reads what the fragments behind it give. -/
theorem nextFrom?_eq (held front rest : List Char) :
    nextFrom? (front ++ rest) held (byteSize front) =
      some (match nextAfter? held (fragments rest) with
        | none => (none, byteSize (front ++ rest))
        | some (statement, unread) =>
            (some statement, byteSize (front ++ rest) - byteSize unread.flatten)) := by
  -- Every fragment that is read moves to the front, and changes what is held.
  induction rest using fragment_induction generalizing held front with
  | empty =>
      rw [nextFrom?, List.append_nil, dif_neg (Nat.lt_irrefl _)]
      rfl
  | first piece rest first ih =>
      have filled := byteSize_pos first.filled
      have sizes : byteSize (front ++ (piece ++ rest)) =
          byteSize (front ++ piece) + byteSize rest := by
        rw [← List.append_assoc, byteSize_append]
      have within : byteSize front < byteSize (front ++ (piece ++ rest)) := by
        rw [sizes, byteSize_append]
        omega
      have later (held : List Char) := ih held (front ++ piece)
      simp only [List.append_assoc] at later
      rw [nextFrom?_of_fragment within (first.fragmentAt? front), first.fragments_append,
        nextAfter?]
      by_cases goes : (body piece).getLast? = some escape
      · rw [if_pos goes, if_pos goes, later]
      · rw [if_neg goes, if_neg goes]
        by_cases blank : (trim (held ++ body piece)).isEmpty
        · rw [if_pos blank, if_pos blank, later]
        · simp only [if_neg blank, flatten_fragments, sizes, Nat.add_sub_cancel]

end Reading

section Passes

structure Cursor.StandsAt (cursor : Cursor) (earlier : List (String × Nat)) (rest : String) :
    Prop where
  exists_front : ∃ front : String,
    cursor.text = front ++ rest ∧ cursor.position = front.utf8ByteSize
  position_eq : cursor.position = reached earlier
  found : splitWithPositions cursor.text =
    earlier ++ (splitWithPositions rest).map (moved cursor.position)

inductive Cursor.Passes (step : Cursor → Option (Option String × Cursor)) :
    Cursor → List (String × Nat) → Nat → Prop
  | ended {cursor last : Cursor} (result : step cursor = some (none, last)) :
      Passes step cursor [] last.position
  | read {cursor ahead : Cursor} {statement : String} {found : List (String × Nat)} {stop : Nat}
      (result : step cursor = some (some statement, ahead))
      (later : Passes step ahead found stop) :
      Passes step cursor ((statement, ahead.position) :: found) stop

namespace Cursor

variable {cursor : Cursor} {earlier : List (String × Nat)} {rest slice back : String}
  {statement : List Char}

theorem next?_of_finished (finished : Statement.next? (fragments rest.toList) = none)
    (front : String) :
    next? ⟨front ++ rest, front.utf8ByteSize⟩ =
      some (none, ⟨front ++ rest, (front ++ rest).utf8ByteSize⟩) := by
  have none_left : nextAfter? [] (fragments rest.toList) = none := finished
  simp only [next?, String.toList_append, ← byteSize_toList, nextFrom?_eq, none_left]
  rfl

theorem next?_of_slice (isSlice : IsSlice slice back statement) (front : String) :
    next? ⟨front ++ (slice ++ back), front.utf8ByteSize⟩ =
      some (some (String.ofList statement),
        ⟨front ++ (slice ++ back), (front ++ slice).utf8ByteSize⟩) := by
  have found : nextAfter? [] (fragments (slice.toList ++ back.toList)) =
      some (statement, fragments back.toList) := by
    rw [← String.toList_append]
    exact isSlice.found back id
  have size : byteSize (front.toList ++ (slice.toList ++ back.toList)) - byteSize back.toList =
      byteSize (front.toList ++ slice.toList) := by
    rw [← List.append_assoc, byteSize_append, Nat.add_sub_cancel]
  simp only [next?, String.toList_append, ← byteSize_toList, nextFrom?_eq, found,
    flatten_fragments, size]
  rfl

theorem resume?_of_fresh {ahead : Cursor} {read : Option String} (front : String)
    (fresh : next? ⟨rest, 0⟩ = some (read, ahead)) :
    resume? ⟨front ++ rest, front.utf8ByteSize⟩ =
      some (read, ⟨front ++ rest, front.utf8ByteSize + ahead.position⟩) := by
  have cut : behind? front.utf8ByteSize (front ++ rest).toList = some rest.toList := by
    rw [String.toList_append, ← byteSize_toList, behind?_append]
  simp only [resume?, cut, Option.bind_eq_bind, Option.bind_some, String.ofList_toList, fresh]
  rfl

/-- The position is all that a cursor has to keep between two statements. -/
theorem resume?_eq_next? (front rest : String) :
    resume? ⟨front ++ rest, front.utf8ByteSize⟩ = next? ⟨front ++ rest, front.utf8ByteSize⟩ := by
  cases found : Statement.next? (fragments rest.toList) with
  | none =>
      have fresh := next?_of_finished found ""
      rw [String.empty_append] at fresh
      rw [resume?_of_fresh front fresh, next?_of_finished found, String.utf8ByteSize_append]
  | some next =>
      obtain ⟨statement, unread⟩ := next
      obtain ⟨slice, back, rfl, -, isSlice⟩ := exists_slice found
      have fresh := next?_of_slice isSlice ""
      rw [String.empty_append, String.empty_append] at fresh
      rw [resume?_of_fresh front fresh, next?_of_slice isSlice, String.utf8ByteSize_append]

theorem StandsAt.resume?_eq (stands : cursor.StandsAt earlier rest) :
    cursor.resume? = cursor.next? := by
  obtain ⟨text, position⟩ := cursor
  obtain ⟨front, rfl, rfl⟩ := stands.exists_front
  exact resume?_eq_next? front rest

theorem standsAt_start (text : String) : StandsAt { text } [] text :=
  ⟨⟨"", (String.empty_append).symm, rfl⟩, rfl, by rw [map_moved_zero, List.nil_append]⟩

theorem StandsAt.finished (stands : cursor.StandsAt earlier rest)
    (finished : Statement.next? (fragments rest.toList) = none) :
    cursor.next? = some (none, { cursor with position := cursor.text.utf8ByteSize }) := by
  obtain ⟨text, position⟩ := cursor
  obtain ⟨front, rfl, rfl⟩ := stands.exists_front
  exact next?_of_finished finished front

theorem StandsAt.next (stands : cursor.StandsAt earlier (slice ++ back))
    (isSlice : IsSlice slice back statement) :
    ∃ ahead : Cursor, cursor.next? = some (some (String.ofList statement), ahead) ∧
      ahead.text = cursor.text ∧ ahead.position = cursor.position + slice.utf8ByteSize ∧
      ahead.StandsAt (earlier ++ [(String.ofList statement, ahead.position)]) back := by
  obtain ⟨text, position⟩ := cursor
  obtain ⟨front, rfl, rfl⟩ := stands.exists_front
  have size := String.utf8ByteSize_append (s := front) (t := slice)
  refine ⟨_, next?_of_slice isSlice front, rfl, size, ⟨_, (String.append_assoc).symm, rfl⟩, ?_, ?_⟩
  · simp [reached]
  · have found := stands.found
    rw [isSlice.splitWithPositions_append _ id, List.map_cons, map_moved_moved, ← size] at found
    rw [found, moved, ← size, List.append_assoc]
    rfl

section Run

variable {step : Cursor → Option (Option String × Cursor)} {found others : List (String × Nat)}
  {stop final : Nat}

theorem Passes.unique (first : Passes step cursor found stop)
    (second : Passes step cursor others final) : found = others ∧ stop = final := by
  induction first generalizing others final with
  | ended result =>
      cases second with
      | ended again =>
          rw [result] at again
          cases again
          exact ⟨rfl, rfl⟩
      | read again _ =>
          rw [result] at again
          cases again
  | read result _ ih =>
      cases second with
      | ended again =>
          rw [result] at again
          cases again
      | read again later =>
          rw [result] at again
          cases again
          obtain ⟨rfl, rfl⟩ := ih later
          exact ⟨rfl, rfl⟩

theorem StandsAt.passes
    (same : ∀ {cursor earlier rest}, StandsAt cursor earlier rest → step cursor = cursor.next?)
    (stands : cursor.StandsAt earlier rest) :
    Passes step cursor ((splitWithPositions rest).map (moved cursor.position))
      cursor.text.utf8ByteSize := by
  induction rest using slice_induction generalizing cursor earlier with
  | finished rest finished =>
      have result := (same stands).trans (stands.finished finished)
      rw [splitWithPositions_of_finished finished]
      exact .ended result
  | slice slice back statement isSlice ih =>
      obtain ⟨ahead, result, text, position, behind⟩ := stands.next isSlice
      have pass := Passes.read ((same stands).trans result) (ih behind)
      rw [position, text, ← map_moved_moved] at pass
      rw [isSlice.splitWithPositions_append _ id, List.map_cons]
      exact pass

/-- A pass over a text reads its statements at their positions, and ends behind its last byte. -/
theorem passes_iff
    (same : ∀ {cursor earlier rest}, StandsAt cursor earlier rest → step cursor = cursor.next?)
    (text : String) :
    Passes step { text } found stop ↔
      found = splitWithPositions text ∧ stop = text.utf8ByteSize := by
  have pass := (standsAt_start text).passes same
  rw [map_moved_zero] at pass
  constructor
  · intro other
    exact other.unique pass
  · rintro ⟨rfl, rfl⟩
    exact pass

end Run

end Cursor

end Passes

/-- A text that positions alone are enough to read. -/
structure Positioned (text : String) : Prop where
  sliced : ∀ position, (behind? position text.toList).isSome = true ↔
    String.Pos.Raw.IsValid text ⟨position⟩
  statements : (splitWithPositions text).map Prod.fst = split text
  ascending : (0 :: (splitWithPositions text).map Prod.snd).Pairwise (· < ·)
  read_on : ∀ found stop, Cursor.Passes Cursor.next? { text } found stop ↔
    found = splitWithPositions text ∧ stop = text.utf8ByteSize
  read_anew : ∀ found stop, Cursor.Passes Cursor.resume? { text } found stop ↔
    found = splitWithPositions text ∧ stop = text.utf8ByteSize
  resumed : ∀ position, String.Pos.Raw.IsValid text ⟨position⟩ →
    Cursor.resume? ⟨text, position⟩ = Cursor.next? ⟨text, position⟩
  divided : ∀ earlier statement position later,
    splitWithPositions text = earlier ++ (statement, position) :: later →
      String.Pos.Raw.IsValid text ⟨position⟩ ∧
        ∃ front slice back, IsDivided text earlier statement position later front slice back

theorem positioned (text : String) : Positioned text where
  sliced _ := isSome_behind?_iff
  statements := map_fst_splitWithPositions text
  ascending := positions_ascend text
  read_on _ _ := Cursor.passes_iff (fun _ => rfl) text
  read_anew _ _ := Cursor.passes_iff (fun stands => stands.resume?_eq) text
  resumed position boundary := by
    obtain ⟨front, rest, rfl, place⟩ := String.Pos.Raw.isValid_iff_exists_append.mp boundary
    obtain rfl : position = front.utf8ByteSize := congrArg String.Pos.Raw.byteIdx place
    exact Cursor.resume?_eq_next? front rest
  divided earlier statement position later found := by
    obtain ⟨front, slice, back, division⟩ := exists_division found
    refine ⟨String.Pos.Raw.isValid_iff_exists_append.mpr ?_, front, slice, back, division⟩
    exact ⟨front ++ slice, back, division.parts, by rw [← division.stop]; rfl⟩

end Statement

end QueryShell
