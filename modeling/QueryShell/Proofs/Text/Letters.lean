import QueryShell.Proofs.Text.Trim
import QueryShell.Text.Case

/-!
The case of ASCII letters. White space and full lower case do not depend on it, the final sigma
included: a letter is cased in either case, and never ignorable.
-/

namespace QueryShell.Text

variable {char : Char}

theorem isAlpha_iff :
    char.isAlpha = true ↔ ('A' ≤ char ∧ char ≤ 'Z') ∨ ('a' ≤ char ∧ char ≤ 'z') := by
  have upper : char.isUpper = decide ('A'.val ≤ char.val ∧ char.val ≤ 'Z'.val) := rfl
  have lower : char.isLower = (decide ('a'.val ≤ char.val) && decide (char.val ≤ 'z'.val)) := rfl
  have either : char.isAlpha = (char.isUpper || char.isLower) := rfl
  rw [either, upper, lower, Bool.or_eq_true, decide_eq_true_eq, Bool.and_eq_true, decide_eq_true_eq,
    decide_eq_true_eq]
  exact Iff.rfl

theorem isAlphanum_iff :
    char.isAlphanum = true ↔ char.isAlpha = true ∨ ('0' ≤ char ∧ char ≤ '9') := by
  have digit : char.isDigit = (decide ('0'.val ≤ char.val) && decide (char.val ≤ '9'.val)) := rfl
  have either : char.isAlphanum = (char.isAlpha || char.isDigit) := rfl
  rw [either, digit, Bool.or_eq_true, Bool.and_eq_true, decide_eq_true_eq, decide_eq_true_eq]
  exact Iff.rfl

def capitals : List Char := "ABCDEFGHIJKLMNOPQRSTUVWXYZ".toList

theorem toLower_of_not_mem (other : char ∉ capitals) : char.toLower = char := by
  refine dif_neg fun capital => other ?_
  have least : 65 ≤ char.toNat := UInt32.le_iff_toNat_le.mp capital.1
  have most : char.toNat ≤ 90 := UInt32.le_iff_toNat_le.mp capital.2
  have all : ∀ place < 26, Char.ofNat (65 + place) ∈ capitals := by decide +kernel
  have here := all (char.toNat - 65) (by omega)
  rwa [Nat.add_sub_cancel' least, Char.ofNat_toNat] at here

/-- What does not see the case of ASCII letters, if it does not for each of them. -/
theorem apply_toLower {Result : Type} (look : Char → Result)
    (same : (capitals.map Char.toLower).map look = capitals.map look) (char : Char) :
    look char.toLower = look char := by
  by_cases capital : char ∈ capitals
  · rw [List.map_map] at same
    exact List.map_inj_left.mp same char capital
  · rw [toLower_of_not_mem capital]

theorem isBlank_toLower (char : Char) : isBlank char.toLower = isBlank char :=
  apply_toLower isBlank (by decide +kernel) char

theorem lowerChar_toLower (char : Char) : lowerChar char.toLower = lowerChar char :=
  apply_toLower lowerChar (by decide +kernel) char

theorem toLower_eq_sigma_iff (char : Char) : char.toLower = 'Σ' ↔ char = 'Σ' := by
  rw [← decide_eq_decide]
  exact apply_toLower (fun char => decide (char = 'Σ')) (by decide +kernel) char

theorem meetsCased_lowerAscii (text : List Char) : meetsCased (lowerAscii text) = meetsCased text := by
  have ignorable : inRanges ignorableRanges ∘ Char.toLower = inRanges ignorableRanges :=
    funext (apply_toLower (inRanges ignorableRanges) (by decide +kernel))
  have cased : ∀ char : Char, inRanges casedRanges char.toLower = inRanges casedRanges char :=
    apply_toLower (inRanges casedRanges) (by decide +kernel)
  rw [meetsCased, meetsCased, lowerAscii, List.dropWhile_map, ignorable]
  cases text.dropWhile (inRanges ignorableRanges) with
  | nil => rfl
  | cons char rest => exact cased char

theorem lowerAfter_lowerAscii (before text : List Char) :
    lowerAfter (lowerAscii before) (lowerAscii text) = lowerAfter before text := by
  induction text generalizing before with
  | nil => rfl
  | cons char rest ih =>
      have split : lowerAscii (char :: rest) = char.toLower :: lowerAscii rest := rfl
      have later := ih (char :: before)
      rw [lowerAscii, List.map_cons, ← lowerAscii] at later
      simp only [split, lowerAfter, toLower_eq_sigma_iff, meetsCased_lowerAscii, lowerChar_toLower,
        later]

theorem lower_lowerAscii (text : List Char) : lower (lowerAscii text) = lower text :=
  lowerAfter_lowerAscii [] text

theorem trim_lowerAscii (text : List Char) : trim (lowerAscii text) = lowerAscii (trim text) := by
  have blank : isBlank ∘ Char.toLower = isBlank := funext isBlank_toLower
  rw [trim, trimEnd, trimStart, lowerAscii, List.dropWhile_map, blank, ← List.map_reverse,
    List.dropWhile_map, blank, ← List.map_reverse]
  rfl

end QueryShell.Text
