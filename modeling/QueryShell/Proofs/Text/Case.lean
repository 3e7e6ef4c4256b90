import QueryShell.Text.Case

/-!
Lower case of a text from that of its front. Only a capital sigma depends on what stands around it.
-/

namespace QueryShell.Text

variable {text front : List Char}

theorem lowerAfter_append (plain : 'Σ' ∉ front) (before rest : List Char) :
    lowerAfter before (front ++ rest) =
      front.flatMap lowerChar ++ lowerAfter (front.reverse ++ before) rest := by
  induction front generalizing before with
  | nil => rfl
  | cons char front ih =>
      have other : char ≠ 'Σ' := fun same => plain (same ▸ List.mem_cons_self)
      have later := ih (fun member => plain (List.mem_cons_of_mem char member)) (char :: before)
      simp only [List.cons_append, lowerAfter, if_neg other, later, List.flatMap_cons,
        List.reverse_cons, List.append_assoc, List.nil_append]

theorem sigma_mem_lowerAfter (capital : 'Σ' ∈ text) (before : List Char) :
    'σ' ∈ lowerAfter before text ∨ 'ς' ∈ lowerAfter before text := by
  induction text generalizing before with
  | nil => cases capital
  | cons char rest ih =>
      by_cases first : char = 'Σ'
      · simp only [lowerAfter, first, if_true]
        split
        · exact .inr List.mem_cons_self
        · exact .inl List.mem_cons_self
      · have later := ih ((List.mem_cons.mp capital).resolve_left (Ne.symm first)) (char :: before)
        exact later.imp (List.mem_append_right _) (List.mem_append_right _)

/-- The lower case of a text starts with that of a front in which it has no sigma. -/
theorem lower_append (plain : 'σ' ∉ lower front ∧ 'ς' ∉ lower front) (rest : List Char) :
    ∃ later, lower (front ++ rest) = lower front ++ later := by
  have none : 'Σ' ∉ front :=
    fun capital => (sigma_mem_lowerAfter capital []).elim plain.1 plain.2
  have alone := lowerAfter_append none [] []
  rw [List.append_nil] at alone
  refine ⟨lowerAfter (front.reverse ++ []) rest, ?_⟩
  rw [lower, lowerAfter_append none, lower, alone]
  simp [lowerAfter]

theorem lower_cons_of_ascii (char : Char) (ascii : char.toNat < 128) (rest : List Char) :
    ∃ later, lower (char :: rest) = char.toLower :: later := by
  have other : char ≠ 'Σ' := by
    rintro rfl
    exact absurd ascii (by decide)
  refine ⟨lowerAfter [char] rest, ?_⟩
  simp only [lower, lowerAfter, if_neg other, lowerChar, if_pos ascii, List.singleton_append]

end QueryShell.Text
