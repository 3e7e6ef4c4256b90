import QueryShell.Url.Percent

/-!
Percent encoding as a fixed point. An encoded text has no character that has to be encoded, and such
a text is its own encoded form.
-/

namespace QueryShell.Url.Percent

variable {escapes : Char → Bool} {text : List Char} {char first : Char}

def Plain (escapes : Char → Bool) (text : List Char) : Prop := ∀ char ∈ text, escapes char = false

def SparesEscapes (escapes : Char → Bool) : Prop :=
  escapes '%' = false ∧ ∀ value < 16, escapes (digit value) = false

theorem encode_of_plain (plain : Plain escapes text) : encode escapes text = text := by
  induction text with
  | nil => rfl
  | cons first rest ih =>
      obtain ⟨spared, plain⟩ := List.forall_mem_cons.mp plain
      have later : encode escapes rest = rest := ih plain
      rw [encode, List.flatMap_cons, spared]
      exact congrArg (first :: ·) later

theorem of_mem_escape (member : char ∈ escape first) :
    char = '%' ∨ ∃ value < 16, char = digit value := by
  obtain ⟨byte, -, among⟩ := List.mem_flatMap.mp member
  have bound : byte.toNat < 256 := byte.toNat_lt
  simp only [escapeByte, List.mem_cons, List.not_mem_nil, or_false] at among
  rcases among with mark | high | low
  · exact .inl mark
  · exact .inr ⟨byte.toNat / 16, by omega, high⟩
  · exact .inr ⟨byte.toNat % 16, by omega, low⟩

theorem of_mem_encode (member : char ∈ encode escapes text) :
    (char ∈ text ∧ escapes char = false) ∨ char = '%' ∨ ∃ value < 16, char = digit value := by
  obtain ⟨source, among, written⟩ := List.mem_flatMap.mp member
  split at written
  · exact .inr (of_mem_escape written)
  · rename_i spared
    obtain rfl := List.mem_singleton.mp written
    exact .inl ⟨among, Bool.eq_false_iff.mpr spared⟩

theorem plain_encode (spares : SparesEscapes escapes) (text : List Char) :
    Plain escapes (encode escapes text) := by
  intro char member
  rcases of_mem_encode member with ⟨-, spared⟩ | rfl | ⟨value, small, rfl⟩
  · exact spared
  · exact spares.1
  · exact spares.2 value small

theorem encode_ne_nil (filled : text ≠ []) : encode escapes text ≠ [] := by
  obtain ⟨first, rest, rfl⟩ := List.exists_cons_of_ne_nil filled
  have written : escape first ≠ [] := by
    obtain ⟨byte, others, bytes⟩ :=
      List.exists_cons_of_ne_nil (String.utf8EncodeChar_ne_nil (c := first))
    simp [escape, bytes, escapeByte]
  rw [encode, List.flatMap_cons]
  split
  · exact List.append_ne_nil_of_left_ne_nil written _
  · exact List.cons_ne_nil _ _

theorem sparesEscapes_isControl : SparesEscapes isControl := by
  constructor
  · decide
  · decide

theorem sparesEscapes_inPath : SparesEscapes inPath := by
  constructor
  · decide
  · decide

theorem sparesEscapes_inUserInfo : SparesEscapes inUserInfo := by
  constructor
  · decide
  · decide

/-- A character that no path encodes is visible and ends no path. -/
theorem of_not_inPath (spared : inPath char = false) :
    0x20 < char.toNat ∧ char ≠ '?' ∧ char ≠ '#' := by
  simp only [inPath, isControl, Bool.or_eq_false_iff, decide_eq_false_iff_not] at spared
  obtain ⟨⟨low, -⟩, other⟩ := spared
  have no_space : char ≠ ' ' := by
    rintro rfl
    exact other (by decide)
  have code : char.toNat ≠ 0x20 := fun same => no_space (Char.toNat_inj.mp same)
  refine ⟨by omega, ?_, ?_⟩
  · rintro rfl
    exact other (by decide)
  · rintro rfl
    exact other (by decide)

/-- A character that no user or password encodes separates nothing in front of a host. -/
theorem of_not_inUserInfo (spared : inUserInfo char = false) :
    inPath char = false ∧ char ≠ '/' ∧ char ≠ ':' ∧ char ≠ '@' := by
  simp only [inUserInfo, Bool.or_eq_false_iff, decide_eq_false_iff_not] at spared
  obtain ⟨path, other⟩ := spared
  refine ⟨path, ?_, ?_, ?_⟩
  · rintro rfl
    exact other (by decide)
  · rintro rfl
    exact other (by decide)
  · rintro rfl
    exact other (by decide)

end QueryShell.Url.Percent
