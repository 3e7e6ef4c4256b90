import Mathlib.Data.List.Sort
import Mathlib.Data.String.Basic
import QueryShell.Completion
import QueryShell.Proofs.Text.Letters
import QueryShell.Proofs.Text.Order

/-!
The candidates of completion. They are ascending by their bytes, and a list that is ascending is told
by its members: neither the order nor the repetition of names makes a difference.
-/

namespace QueryShell.Completion

open Text

variable {functions keywords others otherKeywords texts : List String} {name text : String}

section Repeats

theorem mem_withoutRepeats : text ∈ withoutRepeats texts ↔ text ∈ texts := by
  induction texts using withoutRepeats.induct with
  | case1 => exact Iff.rfl
  | case2 only => exact Iff.rfl
  | case3 second rest ih =>
      rw [withoutRepeats, if_pos rfl, ih]
      simp
  | case4 first second rest differ ih =>
      rw [withoutRepeats, if_neg differ, List.mem_cons, ih, ← List.mem_cons]

theorem pairwise_withoutRepeats (ordered : texts.Pairwise (· ≤ ·)) :
    (withoutRepeats texts).Pairwise (· < ·) := by
  induction texts using withoutRepeats.induct with
  | case1 => exact List.Pairwise.nil
  | case2 only => exact List.pairwise_singleton _ only
  | case3 second rest ih =>
      rw [withoutRepeats, if_pos rfl]
      exact ih ordered.tail
  | case4 first second rest differ ih =>
      rw [withoutRepeats, if_neg differ, List.pairwise_cons]
      obtain ⟨least, later⟩ := List.pairwise_cons.mp ordered
      refine ⟨fun other member => ?_, ih later⟩
      -- the list was in order, so that what stands behind `second` is not below it
      have before : first < second :=
        lt_of_le_of_ne (least second List.mem_cons_self) differ
      rcases List.mem_cons.mp (mem_withoutRepeats.mp member) with rfl | behind
      · exact before
      · exact lt_of_lt_of_le before ((List.pairwise_cons.mp later).1 other behind)

end Repeats

def IsLetter (char : Char) : Prop :=
  ('a' ≤ char ∧ char ≤ 'z') ∨ ('A' ≤ char ∧ char ≤ 'Z') ∨ char = '_'

def IsPlainName (name : String) : Prop :=
  ∃ first rest, name.toList = first :: rest ∧ IsLetter first ∧
    ∀ char ∈ rest, IsLetter char ∨ '0' ≤ char ∧ char ≤ '9'

theorem isNameStart_iff {char : Char} : isNameStart char = true ↔ IsLetter char := by
  rw [isNameStart, Bool.or_eq_true, isAlpha_iff, decide_eq_true_eq, IsLetter]
  tauto

theorem isNamePart_iff {char : Char} :
    isNamePart char = true ↔ IsLetter char ∨ '0' ≤ char ∧ char ≤ '9' := by
  rw [← isNameStart_iff]
  rw [isNamePart, isNameStart, Bool.or_eq_true, Bool.or_eq_true, isAlphanum_iff]
  tauto

theorem isIdentifier_iff : isIdentifier name = true ↔ IsPlainName name := by
  rw [isIdentifier, IsPlainName]
  cases name.toList with
  | nil => simp
  | cons first rest =>
      simp only [Bool.and_eq_true, List.all_eq_true, isNameStart_iff, isNamePart_iff]
      constructor
      · rintro ⟨start, parts⟩
        exact ⟨first, rest, rfl, start, parts⟩
      · rintro ⟨_, _, same, start, parts⟩
        obtain ⟨rfl, rfl⟩ := List.cons.inj same
        exact ⟨start, parts⟩

inductive Stands (functions keywords : List String) : String → Prop
  | plain {name : String} (member : name ∈ functions) (plain : IsPlainName name) :
      Stands functions keywords (name ++ "(")
  | other {name : String} (member : name ∈ functions) (other : ¬IsPlainName name) :
      Stands functions keywords name
  | keyword {keyword : String} (member : keyword ∈ keywords) : Stands functions keywords keyword
  | lowered {keyword : String} (member : keyword ∈ keywords) :
      Stands functions keywords (lowered keyword)

theorem mem_candidates : text ∈ candidates functions keywords ↔ Stands functions keywords text := by
  rw [candidates, mem_withoutRepeats, List.mem_mergeSort, List.mem_append, List.mem_map,
    List.mem_flatMap]
  constructor
  · rintro (⟨name, member, rfl⟩ | ⟨keyword, member, listed⟩)
    · rw [functionCandidate]
      split
      · rename_i plain
        exact .plain member (isIdentifier_iff.mp plain)
      · rename_i other
        exact .other member fun plain => other (isIdentifier_iff.mpr plain)
    · rcases List.mem_pair.mp listed with rfl | rfl
      · exact .keyword member
      · exact .lowered member
  · rintro (⟨member, plain⟩ | ⟨member, other⟩ | member | member)
    · exact .inl ⟨_, member, if_pos (isIdentifier_iff.mpr plain)⟩
    · exact .inl ⟨_, member, if_neg fun plain => other (isIdentifier_iff.mp plain)⟩
    · exact .inr ⟨_, member, List.mem_cons_self⟩
    · exact .inr ⟨_, member, List.mem_cons_of_mem _ List.mem_cons_self⟩

theorem candidates_pairwise_lt : (candidates functions keywords).Pairwise (· < ·) :=
  pairwise_withoutRepeats (List.pairwise_mergeSort' (· ≤ ·) _)

theorem Stands.mono (names : functions ⊆ others) (words : keywords ⊆ otherKeywords)
    (stands : Stands functions keywords text) : Stands others otherKeywords text := by
  cases stands with
  | plain member plain => exact .plain (names member) plain
  | other member other => exact .other (names member) other
  | keyword member => exact .keyword (words member)
  | lowered member => exact .lowered (words member)

theorem candidates_congr (names : ∀ name, name ∈ functions ↔ name ∈ others)
    (words : ∀ keyword, keyword ∈ keywords ↔ keyword ∈ otherKeywords) :
    candidates functions keywords = candidates others otherKeywords := by
  apply candidates_pairwise_lt.eq_of_mem_iff candidates_pairwise_lt
  intro text
  rw [mem_candidates, mem_candidates]
  constructor
  · exact Stands.mono (fun name => (names name).mp) fun keyword => (words keyword).mp
  · exact Stands.mono (fun name => (names name).mpr) fun keyword => (words keyword).mpr

def Ascending (texts : List String) : Prop :=
  texts.Pairwise fun first second => bytes first.toList < bytes second.toList

theorem candidates_ascending : Ascending (candidates functions keywords) := by
  apply candidates_pairwise_lt.imp
  intro first second less
  exact bytes_lt_of_lt (String.lt_iff_toList_lt.mp less)

end QueryShell.Completion
