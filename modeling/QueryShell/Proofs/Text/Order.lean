import QueryShell.Proofs.Text.Bytes

/-!
The order of texts by their bytes. It is that of their characters: the first byte of a character
grows with the number of its bytes, and the bytes of equally many are digits of its code.
-/

namespace QueryShell.Text

variable {first second : Char} {left right : List Char}

theorem digits_lt {code other : Nat} (less : code < other) :
    code / 262144 < other / 262144 ∨ code / 262144 = other / 262144 ∧
      (code / 4096 % 64 < other / 4096 % 64 ∨ code / 4096 % 64 = other / 4096 % 64 ∧
        (code / 64 % 64 < other / 64 % 64 ∨ code / 64 % 64 = other / 64 % 64 ∧
          code % 64 < other % 64)) := by
  omega

theorem utf8EncodeChar_append_lt (less : first < second) (rest others : List UInt8) :
    String.utf8EncodeChar first ++ rest < String.utf8EncodeChar second ++ others := by
  have bound (char : Char) : char.val.toNat < 1114112 := by
    rcases char.valid with low | ⟨-, high⟩
    · exact Nat.lt_trans low (by decide)
    · exact high
  have smaller : first.val.toNat < second.val.toNat := less
  have firstBound := bound first
  have secondBound := bound second
  simp only [String.utf8EncodeChar]
  generalize first.val.toNat = code at smaller firstBound
  generalize second.val.toNat = other at smaller secondBound
  have order := digits_lt smaller
  have top : code / 262144 % 8 = code / 262144 := Nat.mod_eq_of_lt (by omega)
  have otherTop : other / 262144 % 8 = other / 262144 := Nat.mod_eq_of_lt (by omega)
  rw [top, otherTop]
  repeat' split
  all_goals
    simp only [List.cons_append, List.nil_append, List.cons_lt_cons_iff, UInt8.lt_iff_toNat_lt,
      ← UInt8.toNat_inj, UInt8.toNat_ofNat']
  all_goals try omega
  -- four bytes each: no sum leaves the range of a byte, and the digits decide
  have lead (digit : Nat) (small : digit < 8) : (digit + 240) % 2 ^ 8 = digit + 240 :=
    Nat.mod_eq_of_lt (by omega)
  have digit (value : Nat) : (value % 64 + 128) % 2 ^ 8 = value % 64 + 128 :=
    Nat.mod_eq_of_lt (by omega)
  rw [lead _ (by omega), lead _ (by omega)]
  simp only [digit, Nat.add_lt_add_iff_right, Nat.add_right_cancel_iff]
  rcases order with order | ⟨top, order | ⟨high, order | ⟨middle, order⟩⟩⟩
  · exact .inl order
  · exact .inr ⟨top, .inl order⟩
  · exact .inr ⟨top, .inr ⟨high, .inl order⟩⟩
  · exact .inr ⟨top, .inr ⟨high, .inr ⟨middle, .inl order⟩⟩⟩

theorem bytes_lt_of_lt (less : left < right) : bytes left < bytes right := by
  induction left generalizing right with
  | nil =>
      obtain ⟨char, rest, rfl⟩ : ∃ char rest, right = char :: rest := by
        apply List.exists_cons_of_ne_nil
        rintro rfl
        exact List.lt_irrefl [] less
      obtain ⟨byte, others, encoded⟩ :=
        List.exists_cons_of_ne_nil (String.utf8EncodeChar_ne_nil (c := char))
      rw [bytes_nil, bytes_cons, encoded]
      exact List.nil_lt_cons _ _
  | cons char rest ih =>
      cases right with
      | nil => exact (List.not_lt_nil _ less).elim
      | cons other others =>
          rw [bytes_cons, bytes_cons]
          rcases List.cons_lt_cons_iff.mp less with smaller | ⟨rfl, later⟩
          · exact utf8EncodeChar_append_lt smaller (bytes rest) (bytes others)
          · exact List.append_left_lt (ih later)

end QueryShell.Text
