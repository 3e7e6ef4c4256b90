import Mathlib.Data.List.SplitBy
import QueryShell.Proofs.Text.Trim
import QueryShell.Statement

/-!
The pieces of a text and their groups. A text is cut at every terminator, and a piece that ends in
the escape character is grouped with the piece after it. Every group that comes to an end and is not
blank is a statement.
-/

namespace QueryShell.Statement

open Text

def cut (text : List Char) : List (List Char) :=
  let all := text.splitOn terminator
  if all.getLast? = some [] then all.dropLast else all

def continues (piece : List Char) : Bool := piece.getLast? = some escape

/-- Pieces in groups, where each piece that continues is in the group of the piece after it. -/
def groups (pieces : List (List Char)) : List (List (List Char)) :=
  pieces.splitBy fun piece _ => continues piece

def isOpen (pieces : List (List Char)) : Bool := pieces.getLast?.any continues

def finished (groups : List (List (List Char))) : List (List (List Char)) :=
  if groups.getLast?.any isOpen then groups.dropLast else groups

/-- The text of a group: its pieces, without the escape at the end of each but the last, joined by
the terminator and trimmed. -/
def joined (group : List (List Char)) : List Char :=
  trim ([terminator].intercalate (group.dropLast.map List.dropLast ++ group.getLast?.toList))

def grouped (pieces : List (List Char)) : List (List Char) :=
  ((finished (groups pieces)).map joined).filter fun statement => !statement.isEmpty

section Joined

theorem intercalate_concat {α : Type} (separator : List α) (init : List (List α)) (last : List α) :
    separator.intercalate (init ++ [last]) = init.flatMap (· ++ separator) ++ last := by
  induction init with
  | nil => simp
  | cons first others ih =>
      rw [List.cons_append, List.intercalate_cons_of_ne_nil (by simp), ih]
      simp

def opened (group : List (List Char)) : List Char :=
  group.flatMap fun piece => piece.dropLast ++ [terminator]

@[simp]
theorem opened_nil : opened [] = [] := rfl

theorem opened_concat (group : List (List Char)) (piece : List Char) :
    opened (group ++ [piece]) = opened group ++ (piece.dropLast ++ [terminator]) := by
  simp [opened]

theorem joined_concat (group : List (List Char)) (last : List Char) :
    joined (group ++ [last]) = trim (opened group ++ last) := by
  simp [joined, intercalate_concat, opened, List.flatMap_map]

end Joined

section Cut

theorem cut_nil : cut [] = [] := by decide

theorem cut_cons (char : Char) (rest : List Char) :
    cut (char :: rest) =
      if char = terminator then [] :: cut rest
      else match cut rest with
        | [] => [[char]]
        | first :: others => (char :: first) :: others := by
  obtain ⟨first, others, parts⟩ := List.exists_cons_of_ne_nil (List.splitOn_ne_nil terminator rest)
  simp only [cut, List.splitOn_cons_eq_if_modifyHead, parts, beq_iff_eq]
  by_cases ends : char = terminator
  · simp only [if_pos ends, List.getLast?_cons_cons, List.dropLast_cons_cons]
    split <;> rfl
  · simp only [if_neg ends, List.modifyHead_cons]
    cases others with
    | nil => cases first <;> simp
    | cons second others =>
        simp only [List.getLast?_cons_cons, List.dropLast_cons_cons]
        split <;> rfl

theorem cut_append_terminator (body after : List Char) :
    cut (body ++ terminator :: after) = body.splitOn terminator ++ cut after := by
  have nonempty := List.splitOn_ne_nil terminator after
  simp only [cut, List.splitOn_append_cons_self, List.getLast?_append_of_ne_nil _ nonempty,
    List.dropLast_append_of_ne_nil nonempty]
  split <;> rfl

end Cut

section Groups

variable {group pieces : List (List Char)} {last : List Char} {rest : List (List Char)}

@[simp]
theorem isOpen_nil : isOpen [] = false := rfl

@[simp]
theorem isOpen_concat (pieces : List (List Char)) (last : List Char) :
    isOpen (pieces ++ [last]) = continues last := by
  simp [isOpen]

theorem isOpen_append (nonempty : rest ≠ []) : isOpen (pieces ++ rest) = isOpen rest := by
  rw [isOpen, List.getLast?_append_of_ne_nil pieces nonempty, isOpen]

theorem closed_rest (closed : isOpen (group ++ last :: rest) = false) : isOpen rest = false := by
  by_cases empty : rest = []
  · rw [empty, isOpen_nil]
  · rwa [List.append_cons, isOpen_append empty] at closed

theorem isOpen_of_continued (nonempty : group ≠ [])
    (continued : ∀ piece ∈ group, continues piece = true) : isOpen group = true := by
  obtain ⟨init, last, rfl⟩ := List.eq_nil_or_concat group |>.resolve_left nonempty
  rw [List.concat_eq_append] at continued ⊢
  rw [isOpen_concat]
  exact continued last (by simp)

theorem eq_nil_of_closed (closed : isOpen group = false)
    (continued : ∀ piece ∈ group, continues piece = true) : group = [] := by
  by_contra nonempty
  rw [isOpen_of_continued nonempty continued] at closed
  cases closed

theorem continued_concat {piece : List Char} (goes : continues piece = true)
    (continued : ∀ piece ∈ group, continues piece = true) :
    ∀ each ∈ group ++ [piece], continues each = true := by
  intro each member
  rcases List.mem_append.mp member with earlier | here
  · exact continued each earlier
  · rwa [List.mem_singleton.mp here]

/-- Pieces are an open group, or a group that comes to an end in front of other pieces. -/
@[elab_as_elim]
theorem group_induction {motive : List (List Char) → Prop}
    (left : ∀ group, (∀ piece ∈ group, continues piece = true) → motive group)
    (ended : ∀ group last rest, (∀ piece ∈ group, continues piece = true) →
      continues last = false → motive rest → motive (group ++ last :: rest))
    (pieces : List (List Char)) : motive pieces := by
  -- The pieces of the group at hand are moved in front, one after another.
  suffices all : ∀ group, (∀ piece ∈ group, continues piece = true) → motive (group ++ pieces) from
    all [] (by simp)
  induction pieces with
  | nil =>
      intro group continued
      rw [List.append_nil]
      exact left group continued
  | cons piece rest ih =>
      intro group continued
      cases goes : continues piece with
      | true =>
          rw [List.append_cons]
          exact ih (group ++ [piece]) (continued_concat goes continued)
      | false => exact ended group piece rest continued goes (ih [] (by simp))

theorem isChain_of_continued (continued : ∀ piece ∈ group, continues piece = true)
    (last : List Char) : (group ++ [last]).IsChain fun piece _ => continues piece = true := by
  induction group with
  | nil => exact List.isChain_singleton last
  | cons piece others ih =>
      rw [List.cons_append, List.isChain_cons]
      exact ⟨fun _ _ => continued piece List.mem_cons_self,
        ih fun each member => continued each (List.mem_cons_of_mem _ member)⟩

theorem groups_of_continued (nonempty : group ≠ [])
    (continued : ∀ piece ∈ group, continues piece = true) : groups group = [group] := by
  obtain ⟨init, last, rfl⟩ := List.eq_nil_or_concat group |>.resolve_left nonempty
  rw [List.concat_eq_append] at continued ⊢
  exact List.splitBy_of_isChain (by simp)
    (isChain_of_continued (fun piece member => continued piece (by simp [member])) last)

theorem groups_ended (continued : ∀ piece ∈ group, continues piece = true)
    (ends : continues last = false) (rest : List (List Char)) :
    groups (group ++ last :: rest) = (group ++ [last]) :: groups rest := by
  have apart : ∀ piece ∈ (group ++ [last]).getLast?, ∀ next ∈ rest.head?,
      continues piece = false := by
    simp [ends]
  rw [List.append_cons, groups, List.splitBy_append apart,
    List.splitBy_of_isChain (by simp) (isChain_of_continued continued last),
    List.singleton_append, groups]

theorem finished_cons {all : List (List (List Char))} (closed : isOpen group = false) :
    finished (group :: all) = group :: finished all := by
  cases all with
  | nil => simp [finished, closed]
  | cons second others =>
      simp only [finished, List.getLast?_cons_cons, List.dropLast_cons_cons]
      split <;> rfl

end Groups

section Grouped

variable {group pieces : List (List Char)} {last : List Char} {rest : List (List Char)}

def listed (statement : List Char) : List (List Char) := if statement = [] then [] else [statement]

theorem flatten_listed (statement : List Char) : (listed statement).flatten = statement := by
  by_cases empty : statement = []
  · rw [empty]
    rfl
  · rw [listed, if_neg empty, List.flatten_singleton]

theorem length_listed_le (statement : List Char) : (listed statement).length ≤ 1 := by
  rw [listed]
  split
  · exact Nat.zero_le 1
  · exact Nat.le_refl 1

theorem grouped_of_continued (continued : ∀ piece ∈ group, continues piece = true) :
    grouped group = [] := by
  by_cases empty : group = []
  · rw [empty]
    decide
  · simp [grouped, groups_of_continued empty continued, finished,
      isOpen_of_continued empty continued]

theorem grouped_nil : grouped [] = [] := grouped_of_continued (by simp)

theorem grouped_ended (continued : ∀ piece ∈ group, continues piece = true)
    (ends : continues last = false) (rest : List (List Char)) :
    grouped (group ++ last :: rest) = listed (joined (group ++ [last])) ++ grouped rest := by
  rw [grouped, groups_ended continued ends, finished_cons (by rw [isOpen_concat, ends]),
    List.map_cons, listed, grouped]
  by_cases blank : joined (group ++ [last]) = []
  · simp [blank]
  · simp [blank]

theorem grouped_single (ends : continues last = false) (rest : List (List Char)) :
    grouped (last :: rest) = listed (trim last) ++ grouped rest := by
  have alone : joined ([] ++ [last]) = trim last := by
    rw [joined_concat, opened_nil, List.nil_append]
  rw [← alone, ← @grouped_ended [] last (by simp) ends rest, List.nil_append]

/-- Pieces that do not end in a continuation have their statements whatever comes after them. -/
theorem grouped_append (closed : isOpen pieces = false) (rest : List (List Char)) :
    grouped (pieces ++ rest) = grouped pieces ++ grouped rest := by
  induction pieces using group_induction with
  | left group continued =>
      rw [eq_nil_of_closed closed continued, grouped_nil, List.nil_append, List.nil_append]
  | ended group last others continued ends ih =>
      rw [List.append_assoc, List.cons_append, grouped_ended continued ends,
        grouped_ended continued ends, ih (closed_rest closed), List.append_assoc]

theorem length_grouped_le (pieces : List (List Char)) :
    (grouped pieces).length ≤ pieces.countP fun piece => !continues piece := by
  induction pieces using group_induction with
  | left group continued =>
      rw [grouped_of_continued continued]
      exact Nat.zero_le _
  | ended group last rest continued ends ih =>
      have single := length_listed_le (joined (group ++ [last]))
      simp only [grouped_ended continued ends, List.length_append, List.countP_append,
        List.countP_cons, ends, Bool.not_false, if_true]
      omega

end Grouped

section Solid

variable {group pieces : List (List Char)}

def unescaped (piece : List Char) : List Char := if continues piece then piece.dropLast else piece

def solid (char : Char) : Bool := !isBlank char && char != terminator

theorem filter_solid_trim (text : List Char) : (trim text).filter solid = text.filter solid := by
  apply filter_trim
  intro char blank
  simp [solid, blank]

theorem filter_solid_opened (continued : ∀ piece ∈ group, continues piece = true) :
    (opened group).filter solid = (group.flatMap unescaped).filter solid := by
  rw [opened, List.filter_flatMap, List.filter_flatMap]
  refine List.flatMap_congr fun piece member => ?_
  rw [unescaped, if_pos (continued piece member), List.filter_append]
  simp [solid]

/-- Pieces that do not end in a continuation lose no text but the escapes that make them go on. -/
theorem filter_solid_grouped (closed : isOpen pieces = false) :
    (grouped pieces).flatten.filter solid = (pieces.flatMap unescaped).filter solid := by
  induction pieces using group_induction with
  | left group continued =>
      rw [eq_nil_of_closed closed continued, grouped_nil]
      rfl
  | ended group last rest continued ends ih =>
      have final : unescaped last = last := by rw [unescaped, if_neg (by simp [ends])]
      rw [grouped_ended continued ends, List.flatten_append, flatten_listed, joined_concat]
      rw [List.filter_append, filter_solid_trim, List.filter_append, filter_solid_opened continued,
        ih (closed_rest closed)]
      rw [List.flatMap_append, List.flatMap_cons, final, List.filter_append, List.filter_append,
        List.append_assoc]

end Solid

end QueryShell.Statement
