import Mathlib.Algebra.Group.Nat.Defs
import QueryShell.Number.Decimal
import QueryShell.Number.Digit

/-!
Numbers written in digits. What is written for a number is read as that number, and so many digits
keep a number below a power of the base.
-/

namespace QueryShell

variable {base value : Nat} {char : Char} {digits : List Char}

namespace Digit

theorem value?_digitChar (small : value < 16) : value? value.digitChar = some value := by
  have all : ∀ value < 16, value? value.digitChar = some value := by decide
  exact all value small

theorem exists_values_of_toDigits (several : 1 < base) (known : base ≤ 16) (value : Nat) :
    ∃ values, (Nat.toDigits base value).mapM value? = some values ∧
      (∀ value ∈ values, value < base) ∧
      values.foldl (fun number value => base * number + value) 0 = value := by
  induction value using Nat.strongRecOn with
  | ind value ih =>
      rw [Nat.toDigits_eq_if several]
      by_cases single : value < base
      · refine ⟨[value], ?_, ?_, ?_⟩
        · simp [single, value?_digitChar (Nat.lt_of_lt_of_le single known)]
        · simpa using single
        · simp
      · have smaller : value / base < value := Nat.div_lt_self (by omega) several
        have last : value % base < base := Nat.mod_lt value (by omega)
        obtain ⟨values, read, bounded, number⟩ := ih (value / base) smaller
        refine ⟨values ++ [value % base], ?_, ?_, ?_⟩
        · simp [single, read, value?_digitChar (Nat.lt_of_lt_of_le last known)]
        · intro other member
          rcases List.mem_append.mp member with among | final
          · exact bounded other among
          · obtain rfl := List.mem_singleton.mp final
            exact last
        · rw [List.foldl_append, number]
          exact Nat.div_add_mod value base

theorem number?_toDigits (several : 1 < base) (known : base ≤ 16) (value : Nat) :
    number? base (Nat.toDigits base value) = some value := by
  obtain ⟨values, read, bounded, number⟩ := exists_values_of_toDigits several known value
  have below : values.all (· < base) = true := by simpa using bounded
  rw [number?, read, Option.bind_some, if_pos below, number]

theorem foldl_lt {values : List Nat} (bounded : ∀ value ∈ values, value < base) (start : Nat) :
    values.foldl (fun number value => base * number + value) start <
      (start + 1) * base ^ values.length := by
  induction values generalizing start with
  | nil => simp
  | cons first rest ih =>
      obtain ⟨small, bounded⟩ := List.forall_mem_cons.mp bounded
      have next : base * start + first + 1 ≤ (start + 1) * base := by
        rw [Nat.add_mul, Nat.mul_comm base start]
        omega
      calc
        rest.foldl (fun number value => base * number + value) (base * start + first)
          < (base * start + first + 1) * base ^ rest.length := ih bounded (base * start + first)
        _ ≤ (start + 1) * base * base ^ rest.length := Nat.mul_le_mul_right _ next
        _ = (start + 1) * base ^ (rest.length + 1) := by rw [Nat.pow_succ, Nat.mul_assoc,
            Nat.mul_comm base]

theorem length_of_mapM {values : List Nat} (read : digits.mapM value? = some values) :
    values.length = digits.length := by
  induction digits generalizing values with
  | nil =>
      cases read
      rfl
  | cons first rest ih =>
      simp only [List.mapM_cons, Option.bind_eq_bind, Option.bind_eq_some_iff] at read
      obtain ⟨value, -, others, also_read, same⟩ := read
      cases same
      rw [List.length_cons, List.length_cons, ih also_read]

theorem lt_of_number? (read : number? base digits = some value) :
    value < base ^ digits.length := by
  obtain ⟨values, each, whole⟩ := Option.bind_eq_some_iff.mp read
  split at whole
  · rename_i below
    cases whole
    have bounded : ∀ value ∈ values, value < base := by simpa using below
    have bound := foldl_lt bounded 0
    rwa [Nat.zero_add, Nat.one_mul, length_of_mapM each] at bound
  · cases whole

theorem exists_of_mem_toDigits (several : 1 < base) (member : char ∈ Nat.toDigits base value) :
    ∃ digit < base, char = digit.digitChar := by
  induction value using Nat.strongRecOn with
  | ind value ih =>
      rw [Nat.toDigits_eq_if several] at member
      split at member
      · rename_i single
        exact ⟨value, single, List.mem_singleton.mp member⟩
      · rename_i more
        rcases List.mem_append.mp member with among | final
        · exact ih (value / base) (Nat.div_lt_self (by omega) several) among
        · exact ⟨value % base, Nat.mod_lt value (by omega), List.mem_singleton.mp final⟩

end Digit

namespace Decimal

theorem natOfText?_toDigits (value : Nat) :
    natOfText? (Nat.toDigits 10 value) = some value := by
  have written : (Nat.toDigits 10 value).isEmpty = false := by simp
  have numeric : (Nat.toDigits 10 value).all isDigit = true := by
    rw [List.all_eq_true]
    intro char member
    have digit := Nat.isDigit_of_mem_toDigits (by decide) (by decide) member
    simpa [isDigit, Char.isDigit, Char.le_def] using digit
  have number : digitsValue (Nat.toDigits 10 value) = value := by
    have folded := Nat.ofDigitChars_ten_toDigits (n := value)
    rwa [Nat.ofDigitChars_eq_foldl] at folded
  rw [natOfText?, written, numeric, number]
  rfl

end Decimal

end QueryShell
