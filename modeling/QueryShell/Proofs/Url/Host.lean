import QueryShell.Proofs.Text.Letters
import QueryShell.Proofs.Url.Address
import QueryShell.Proofs.Url.Percent
import QueryShell.Url

/-!
Hosts that stand for themselves. Every host that was read is read as itself, in front of a port or at
the end of the authority, and so is a plain name.
-/

namespace QueryShell.Url

variable {char : Char} {word host text : List Char} {groups : List Nat} {inBrackets : Bool}

structure IsHost (host : List Char) : Prop where
  filled : host ≠ []
  kept : hostOf .plain host = .ok (String.ofList host)
  span : ∀ rest, hostLength false (host ++ ':' :: rest) = host.length
  inside : ∀ char ∈ host, 0x20 < char.toNat ∧ endsAuthority .plain char = false ∧ char ≠ '@'

theorem endsAuthority_plain_eq_false_iff :
    endsAuthority .plain char = false ↔ char ≠ '/' ∧ char ≠ '?' ∧ char ≠ '#' := by
  simp [endsAuthority, and_assoc]

theorem hostLength_cons (other : char ≠ ':') (rest : List Char) :
    hostLength inBrackets (char :: rest) = hostLength
      (if char = '[' then true else if char = ']' then false else inBrackets) rest + 1 := by
  rw [hostLength.eq_def]
  split
  · rename_i same
    cases same
  · rename_i same
    exact (other (List.cons.inj same).1).elim
  · rename_i same
    obtain ⟨rfl, rfl⟩ := List.cons.inj same
    rfl

theorem hostLength_append (free : ∀ char ∈ word, char ≠ ':' ∧ char ≠ '[' ∧ char ≠ ']')
    (rest : List Char) :
    hostLength inBrackets (word ++ rest) = word.length + hostLength inBrackets rest := by
  induction word with
  | nil => simp
  | cons first others ih =>
      obtain ⟨⟨no_colon, no_opening, no_closing⟩, free⟩ := List.forall_mem_cons.mp free
      rw [List.cons_append, hostLength_cons no_colon, if_neg no_opening, if_neg no_closing, ih free,
        List.length_cons]
      omega

theorem hostLength_within (free : ∀ char ∈ word, char ≠ '[' ∧ char ≠ ']') (rest : List Char) :
    hostLength true (word ++ rest) = word.length + hostLength true rest := by
  induction word with
  | nil => simp
  | cons first others ih =>
      obtain ⟨⟨no_opening, no_closing⟩, free⟩ := List.forall_mem_cons.mp free
      rw [List.cons_append, List.length_cons]
      by_cases colon : first = ':'
      · rw [colon, hostLength, if_pos rfl, ih free]
        omega
      · rw [hostLength_cons colon, if_neg no_opening, if_neg no_closing, ih free]
        omega

section Names

theorem ne_of_not_isForbidden (allowed : isForbidden char = false) :
    char ≠ ' ' ∧ char ≠ '/' ∧ char ≠ '?' ∧ char ≠ '#' ∧ char ≠ '@' ∧ char ≠ ':' ∧ char ≠ '[' ∧
      char ≠ ']' := by
  have other {forbidden : Char} (listed : isForbidden forbidden = true) : char ≠ forbidden := by
    rintro rfl
    rw [allowed] at listed
    cases listed
  exact ⟨other (by decide), other (by decide), other (by decide), other (by decide),
    other (by decide), other (by decide), other (by decide), other (by decide)⟩

theorem isHost_of_allowed (filled : host ≠ [])
    (allowed : ∀ char ∈ host, isForbidden char = false ∧ Percent.isControl char = false) :
    IsHost host where
  filled := filled
  kept := by
    have unbracketed : host.head? ≠ some '[' := by
      intro bracket
      have first := allowed '[' (List.mem_of_head? bracket)
      exact absurd first.1 (by decide)
    have none_forbidden : host.any isForbidden = false := by
      rw [List.any_eq_false]
      intro char member
      simp [(allowed char member).1]
    have encoded : Percent.encode Percent.isControl host = host :=
      Percent.encode_of_plain fun char member => (allowed char member).2
    simp [hostOf, unbracketed, none_forbidden, encoded]
  span rest := by
    have free : ∀ char ∈ host, char ≠ ':' ∧ char ≠ '[' ∧ char ≠ ']' := by
      intro char member
      obtain ⟨-, -, -, -, -, unbracketed⟩ := ne_of_not_isForbidden (allowed char member).1
      exact unbracketed
    rw [hostLength_append free, hostLength]
    simp
  inside := by
    intro char member
    obtain ⟨no_space, no_slash, no_query, no_fragment, no_at, -⟩ :=
      ne_of_not_isForbidden (allowed char member).1
    have control := (allowed char member).2
    simp only [Percent.isControl, Bool.or_eq_false_iff, decide_eq_false_iff_not] at control
    have code : char.toNat ≠ 0x20 := fun same => no_space (Char.toNat_inj.mp same)
    refine ⟨by omega, ?_, no_at⟩
    exact endsAuthority_plain_eq_false_iff.mpr ⟨no_slash, no_query, no_fragment⟩

theorem isHost_encode (filled : text ≠ []) (allowed : text.any isForbidden = false) :
    IsHost (Percent.encode Percent.isControl text) := by
  refine isHost_of_allowed (Percent.encode_ne_nil filled) ?_
  intro char member
  have spared := Percent.plain_encode Percent.sparesEscapes_isControl text char member
  refine ⟨?_, spared⟩
  rcases Percent.of_mem_encode member with ⟨among, -⟩ | rfl | ⟨value, small, rfl⟩
  · exact Bool.eq_false_iff.mpr (List.any_eq_false.mp allowed char among)
  · decide
  · have all : ∀ value < 16, isForbidden (Percent.digit value) = false := by decide
    exact all value small

def isNamePart (char : Char) : Bool := char.isAlphanum || char = '.' || char = '-'

theorem isHost_of_name (filled : host ≠ []) (named : ∀ char ∈ host, isNamePart char = true) :
    IsHost host := by
  refine isHost_of_allowed filled ?_
  intro char member
  have part := named char member
  constructor
  · rw [Bool.eq_false_iff]
    intro forbidden
    have none_named : ('\x00' :: "\t\n\x0d #/:<>?@[\\]^|".toList).any isNamePart = false := by
      decide
    have listed : char ∈ '\x00' :: "\t\n\x0d #/:<>?@[\\]^|".toList := by
      simpa [isForbidden] using forbidden
    exact List.any_eq_false.mp none_named char listed part
  · simp only [isNamePart, Bool.or_eq_true, Text.isAlphanum_iff, Text.isAlpha_iff,
      decide_eq_true_eq, Char.le_def, UInt32.le_iff_toNat_le] at part
    simp only [Percent.isControl, Bool.or_eq_false_iff, decide_eq_false_iff_not]
    have code : char.toNat = char.val.toNat := rfl
    rcases part with (((upper | lower) | digit) | rfl) | rfl
    · have bounds : 65 ≤ char.val.toNat ∧ char.val.toNat ≤ 90 := upper
      omega
    · have bounds : 97 ≤ char.val.toNat ∧ char.val.toNat ≤ 122 := lower
      omega
    · have bounds : 48 ≤ char.val.toNat ∧ char.val.toNat ≤ 57 := digit
      omega
    · decide
    · decide

end Names

section Addresses

def bracketed (groups : List Nat) : List Char := '[' :: Address.text groups ++ [']']

theorem of_mem_bracketed (member : char ∈ bracketed groups) :
    char = '[' ∨ char = ']' ∨ char = ':' ∨ ∃ digit < 16, char = digit.digitChar := by
  simp only [bracketed, List.cons_append, List.mem_cons, List.mem_append, List.not_mem_nil,
    or_false] at member
  rcases member with opening | within | closing
  · exact .inl opening
  · exact .inr (.inr (Address.of_mem_text within))
  · exact .inr (.inl closing)

theorem isHost_bracketed (address : Address.IsAddress groups) : IsHost (bracketed groups) where
  filled := by simp [bracketed]
  kept := by
    have last : (bracketed groups).getLast? = some ']' := by
      rw [bracketed, List.getLast?_append]
      rfl
    have within : ((bracketed groups).drop 1).dropLast = Address.text groups := by
      simp [bracketed]
    have first : (bracketed groups).head? = some '[' := rfl
    rw [hostOf, if_pos first, bracketedHost, if_pos last, within, Address.ofText?_text address,
      bracketed, String.ofList_append, String.ofList_cons]
    rfl
  span rest := by
    have free : ∀ char ∈ Address.text groups, char ≠ '[' ∧ char ≠ ']' := by
      intro char member
      rcases Address.of_mem_text member with rfl | ⟨digit, small, rfl⟩
      · decide
      · exact ⟨Nat.digitChar_ne '[' (by decide), Nat.digitChar_ne ']' (by decide)⟩
    rw [bracketed, List.cons_append, List.cons_append, List.append_assoc,
      hostLength_cons (by decide), if_pos rfl, hostLength_within free, List.singleton_append,
      hostLength_cons (by decide), if_neg (by decide), if_pos rfl, hostLength]
    simp
  inside := by
    intro char member
    rcases of_mem_bracketed member with rfl | rfl | rfl | ⟨digit, small, rfl⟩
    · decide
    · decide
    · decide
    · have all : ∀ digit < 16, 0x20 < digit.digitChar.toNat ∧
          endsAuthority .plain digit.digitChar = false ∧ digit.digitChar ≠ '@' := by decide
      exact all digit small

end Addresses

theorem isHost_of_hostOf {host : String} (read : hostOf .plain text = .ok host)
    (named : host.isEmpty = false) : IsHost host.toList := by
  rw [hostOf] at read
  split at read
  · rw [bracketedHost] at read
    split at read
    · split at read
      · rename_i groups found
        cases read
        have same : "[" ++ String.ofList (Address.text groups) ++ "]" =
            String.ofList (bracketed groups) := by
          rw [bracketed, String.ofList_append, String.ofList_cons]
          rfl
        rw [same, String.toList_ofList]
        exact isHost_bracketed (Address.isAddress_of_ofText? found)
      · cases read
    · cases read
  · rw [if_neg (by decide)] at read
    split at read
    · cases read
    · rename_i allowed
      cases read
      rw [String.toList_ofList]
      refine isHost_encode ?_ (Bool.eq_false_iff.mpr allowed)
      rintro rfl
      exact absurd named (by decide)

end QueryShell.Url
