import Mathlib.Data.List.DropRight
import QueryShell.Proofs.Completion.Candidates

/-!
The word in front of the cursor and what completes it. The word starts behind the last delimiter, and
its length in bytes leads back to the character it starts with.
-/

namespace QueryShell.Completion

open Text

theorem headOfSize?_append (before after : List Char) :
    headOfSize? (byteSize before) (before ++ after) = some before := by
  induction before with
  | nil => cases after <;> rfl
  | cons char rest ih =>
      have filled := char.utf8Size_pos
      have size : byteSize (char :: rest) = char.utf8Size + byteSize rest := rfl
      have nonzero : byteSize (char :: rest) ≠ 0 := by omega
      have fits : ¬byteSize (char :: rest) < char.utf8Size := by omega
      rw [List.cons_append, headOfSize?, if_neg nonzero, if_neg fits, size, Nat.add_sub_cancel_left,
        ih]
      rfl

structure IsCut (line front word after : String) : Prop where
  parts : line = front ++ word ++ after
  delimited : front = "" ∨ ∃ before : String, ∃ last, front = before.push last ∧
    isDelimiter last = true
  solid : ∀ char ∈ word.toList, isDelimiter char = false

theorem exists_cut (before after : String) : ∃ front word : String,
    front ++ word = before ∧ IsCut (before ++ after) front word after ∧
      (before.toList.reverse.takeWhile fun char => !isDelimiter char).reverse = word.toList := by
  let inWord (char : Char) := !isDelimiter char
  have parts : before.toList.rdropWhile inWord ++ before.toList.rtakeWhile inWord = before.toList :=
    List.rdropWhile_append_rtakeWhile
  have joined : String.ofList (before.toList.rdropWhile inWord) ++
      String.ofList (before.toList.rtakeWhile inWord) = before := by
    rw [← String.ofList_append, parts, String.ofList_toList]
  refine ⟨_, _, joined, ⟨by rw [joined], ?_, ?_⟩, (String.toList_ofList).symm⟩
  · by_cases empty : before.toList.rdropWhile inWord = []
    · rw [empty]
      exact .inl rfl
    · have last := List.rdropWhile_last_not inWord before.toList empty
      refine .inr ⟨String.ofList (before.toList.rdropWhile inWord).dropLast, _, ?_,
        by simpa [inWord] using last⟩
      apply String.toList_injective
      rw [String.toList_push, String.toList_ofList, String.toList_ofList,
        List.dropLast_append_getLast]
  · intro char member
    rw [String.toList_ofList] at member
    simpa [inWord] using List.mem_rtakeWhile_imp member

structure IsClosed (found completions : List String) : Prop where
  several : found.length ≠ 1 → completions = found
  parenthesis : ∀ name, found = [name ++ "("] → completions = found
  single : ∀ only, found = [only] → (∀ name, only ≠ name ++ "(") → completions = [only ++ " "]

theorem isClosed_closeSingle (found : List String) : IsClosed found (closeSingle found) := by
  have ends (only : String) : only.toList.getLast? = some '(' ↔ ∃ name, only = name ++ "(" := by
    rw [List.getLast?_eq_some_iff]
    constructor
    · rintro ⟨front, parts⟩
      refine ⟨String.ofList front, String.toList_injective ?_⟩
      rw [parts, String.toList_append, String.toList_ofList]
      rfl
    · rintro ⟨name, rfl⟩
      exact ⟨name.toList, String.toList_append⟩
  constructor
  · intro other
    match found with
    | [] => rfl
    | [only] => exact (other rfl).elim
    | first :: second :: rest => rfl
  · rintro name rfl
    exact if_pos ((ends _).mpr ⟨name, rfl⟩)
  · rintro only rfl named
    refine if_neg fun last => ?_
    obtain ⟨name, same⟩ := (ends only).mp last
    exact named name same

theorem headUpTo_append (before after : String) :
    headUpTo before.utf8ByteSize (before ++ after).toList = before.toList := by
  have size := byteSize_eq before.toList
  rw [String.ofList_toList] at size
  rw [headUpTo, ← size, String.toList_append, headOfSize?_append]
  rfl

/-- What completes the word in front of a position: the texts that are offered and start with it. -/
structure Completes (offered : List String) (line : String) (position start : Nat)
    (completions : List String) : Prop where
  start_le : start ≤ position
  boundary : String.Pos.Raw.IsValid line ⟨start⟩
  exists_word : ∃ front word after : String, IsCut line front word after ∧
    start = front.utf8ByteSize ∧ position = (front ++ word).utf8ByteSize ∧
    ∃ found, (∀ text, text ∈ found ↔ text ∈ offered ∧ word.toList <+: text.toList) ∧
      Ascending found ∧ IsClosed found completions

theorem complete_completes {offered : List String} {line : String} {position : Nat}
    (ascending : Ascending offered) (boundary : String.Pos.Raw.IsValid line ⟨position⟩) :
    Completes offered line position (complete offered line position).1
      (complete offered line position).2 := by
  obtain ⟨before, after, rfl, place⟩ := String.Pos.Raw.isValid_iff_exists_append.mp boundary
  obtain rfl : position = before.utf8ByteSize := congrArg String.Pos.Raw.byteIdx place
  obtain ⟨front, word, joined, cut, taken⟩ := exists_cut before after
  have sizes : before.utf8ByteSize = front.utf8ByteSize + word.utf8ByteSize := by
    rw [← joined, String.utf8ByteSize_append]
  have start : (complete offered (before ++ after) before.utf8ByteSize).1 = front.utf8ByteSize := by
    simp only [complete, headUpTo_append, taken, byteSize_eq, String.ofList_toList]
    omega
  have completions : (complete offered (before ++ after) before.utf8ByteSize).2 =
      closeSingle (offered.filter fun text => word.toList.isPrefixOf text.toList) := by
    simp only [complete, headUpTo_append, taken]
  rw [start, completions]
  constructor
  · omega
  · exact String.Pos.Raw.isValid_iff_exists_append.mpr
      ⟨front, word ++ after, by rw [cut.parts, String.append_assoc], rfl⟩
  · refine ⟨front, word, after, cut, rfl, by rw [joined], _, ?_, ascending.filter _,
      isClosed_closeSingle _⟩
    intro text
    rw [List.mem_filter, List.isPrefixOf_iff_prefix]

/-- The candidates are told by the names and keywords that occur, and the completions by the
candidates and the word. -/
theorem candidates_complete (functions keywords : List String) {line : String} {position : Nat}
    (boundary : String.Pos.Raw.IsValid line ⟨position⟩) :
    Ascending (candidates functions keywords) ∧
      (∀ others otherKeywords : List String, (∀ name, name ∈ functions ↔ name ∈ others) →
        (∀ keyword, keyword ∈ keywords ↔ keyword ∈ otherKeywords) →
        candidates functions keywords = candidates others otherKeywords) ∧
      (∀ text, text ∈ candidates functions keywords ↔ Stands functions keywords text) ∧
      Completes (candidates functions keywords) line position
        (complete (candidates functions keywords) line position).1
        (complete (candidates functions keywords) line position).2 := by
  refine ⟨candidates_ascending, ?_, fun text => mem_candidates,
    complete_completes candidates_ascending boundary⟩
  intro others otherKeywords names words
  exact candidates_congr names words

theorem candidates_complete_behind_wide_blank :
    String.Pos.Raw.IsValid "(\u3000coX" ⟨6⟩ ∧
      candidates ["count", "||"] ["COPY"] = ["COPY", "copy", "count(", "||"] ∧
      Completes ["COPY", "copy", "count(", "||"] "(\u3000coX" 6 4 ["copy", "count("] := by
  have boundary : String.Pos.Raw.IsValid "(\u3000coX" ⟨6⟩ :=
    String.Pos.Raw.isValid_iff_exists_append.mpr ⟨"(\u3000co", "X", by decide, by decide⟩
  have offered : candidates ["count", "||"] ["COPY"] = ["COPY", "copy", "count(", "||"] := by
    apply candidates_pairwise_lt.eq_of_mem_iff (by decide)
    have listed : ["count", "||"].map functionCandidate ++ ["COPY"].flatMap keywordCandidates =
        ["count(", "||", "COPY", "copy"] := by decide +kernel
    intro text
    rw [candidates, mem_withoutRepeats, List.mem_mergeSort, listed]
    exact List.Perm.mem_iff (by decide)
  obtain ⟨-, -, -, completes⟩ := candidates_complete ["count", "||"] ["COPY"] boundary
  have result : complete ["COPY", "copy", "count(", "||"] "(\u3000coX" 6 =
      (4, ["copy", "count("]) := by decide +kernel
  rw [offered, result] at completes
  exact ⟨boundary, offered, completes⟩

end QueryShell.Completion
