import Mathlib.Data.String.Basic
import QueryShell.Proofs.Text.Search
import QueryShell.Text.Case
import QueryShell.Text.Utf8

/-!
The bytes of a text. ASCII characters and their bytes are the same thing, so that a part in ASCII is
among the bytes of a text exactly where it is in the text: never inside a character.
-/

namespace QueryShell.Text

variable {text part before after : List Char} {char : Char}

def bytes (text : List Char) : List UInt8 := text.flatMap String.utf8EncodeChar

@[simp] theorem bytes_nil : bytes [] = [] := rfl

@[simp] theorem bytes_cons (char : Char) (rest : List Char) :
    bytes (char :: rest) = String.utf8EncodeChar char ++ bytes rest := rfl

@[simp] theorem bytes_append (first second : List Char) :
    bytes (first ++ second) = bytes first ++ bytes second := List.flatMap_append

theorem toUTF8_eq (text : String) : text.toUTF8 = (bytes text.toList).toByteArray := by
  rw [String.toUTF8_eq_toByteArray, ← String.utf8Encode_toList]
  rfl

/-- A text can be cut behind the bytes of any front of it. -/
theorem isValid_of_append {text : String} {front back : List Char}
    (parts : text.toList = front ++ back) :
    String.Pos.Raw.IsValid text ⟨(bytes front).length⟩ := by
  refine String.Pos.Raw.isValid_iff_exists_append.mpr
    ⟨String.ofList front, String.ofList back, ?_, ?_⟩
  · rw [← String.ofList_append, ← parts, String.ofList_toList]
  · have size : (String.ofList front).toByteArray.size = (bytes front).length := by
      rw [String.toByteArray_ofList]
      exact List.size_toByteArray
    rw [← size]
    rfl

theorem byteSize_eq (text : List Char) : byteSize text = (String.ofList text).utf8ByteSize := by
  induction text with
  | nil => rfl
  | cons char rest ih =>
      rw [String.utf8ByteSize_ofList, String.utf8Len_cons, ← String.utf8ByteSize_ofList, ← ih]
      exact Nat.add_comm _ _

theorem byteSize_toList (text : String) : byteSize text.toList = text.utf8ByteSize := by
  rw [byteSize_eq, String.ofList_toList]

theorem byteSize_append (front back : List Char) :
    byteSize (front ++ back) = byteSize front + byteSize back := by
  rw [byteSize_eq, String.ofList_append, String.utf8ByteSize_append, ← byteSize_eq, ← byteSize_eq]

def Ascii (text : List Char) : Prop := ∀ char ∈ text, char.toNat < 128

instance : DecidablePred Ascii := List.decidableBAll fun (char : Char) => char.toNat < 128

def lowerByte (byte : UInt8) : UInt8 := if 65 ≤ byte && byte ≤ 90 then byte + 32 else byte

section Characters

theorem utf8EncodeChar_of_ascii (ascii : char.toNat < 128) :
    String.utf8EncodeChar char = [UInt8.ofNat char.toNat] := by
  have small : char.val.toNat ≤ 127 := Nat.le_of_lt_succ ascii
  rw [String.utf8EncodeChar, if_pos small]
  rfl

theorem length_bytes_of_ascii (ascii : Ascii text) : (bytes text).length = text.length := by
  induction text with
  | nil => rfl
  | cons char rest ih =>
      have later : Ascii rest := fun other member => ascii other (List.mem_cons_of_mem char member)
      rw [bytes_cons, utf8EncodeChar_of_ascii (ascii char List.mem_cons_self), List.length_append,
        ih later]
      exact Nat.add_comm 1 rest.length

/-- No byte of another character is one of ASCII. -/
theorem le_of_mem_utf8EncodeChar (other : 128 ≤ char.toNat) :
    ∀ byte ∈ String.utf8EncodeChar char, 128 ≤ byte.toNat := by
  have large : ¬char.val.toNat ≤ 127 := Nat.not_le.mpr other
  simp only [String.utf8EncodeChar, if_neg large]
  split
  · simp only [List.forall_mem_cons, List.not_mem_nil, false_implies, implies_true, and_true,
        UInt8.toNat_ofNat']
    omega
  · split
    · simp only [List.forall_mem_cons, List.not_mem_nil, false_implies, implies_true, and_true,
        UInt8.toNat_ofNat']
      omega
    · simp only [List.forall_mem_cons, List.not_mem_nil, false_implies, implies_true, and_true,
        UInt8.toNat_ofNat']
      omega

theorem ofNat_toNat_inj {other : Char} (ascii : char.toNat < 128) (also_ascii : other.toNat < 128) :
    UInt8.ofNat char.toNat = UInt8.ofNat other.toNat ↔ char = other := by
  constructor
  · intro same
    have codes := congrArg UInt8.toNat same
    rw [UInt8.toNat_ofNat', UInt8.toNat_ofNat'] at codes
    exact Char.toNat_inj.mp (by omega)
  · rintro rfl
    rfl

theorem map_lowerByte_utf8EncodeChar (char : Char) :
    (String.utf8EncodeChar char).map lowerByte = String.utf8EncodeChar char.toLower := by
  by_cases ascii : char.toNat < 128
  · have all : ∀ code < 128, (String.utf8EncodeChar (Char.ofNat code)).map lowerByte =
        String.utf8EncodeChar (Char.ofNat code).toLower := by decide +kernel
    have this := all char.toNat ascii
    rwa [Char.ofNat_toNat] at this
  · have other := Nat.not_lt.mp ascii
    have same : char.toLower = char := by
      refine dif_neg fun capital => ?_
      have code : char.toNat ≤ 90 := UInt32.le_iff_toNat_le.mp capital.2
      omega
    rw [same]
    refine (List.map_congr_left fun byte member => ?_).trans (List.map_id _)
    have large := le_of_mem_utf8EncodeChar other byte member
    rw [lowerByte, if_neg]
    · rfl
    · rw [Bool.and_eq_true, decide_eq_true_eq, decide_eq_true_eq, UInt8.le_iff_toNat_le,
        UInt8.le_iff_toNat_le]
      rintro ⟨-, small⟩
      exact absurd (Nat.le_trans large small) (by decide)

end Characters

/-- Lower case of the bytes is lower case of the characters. -/
theorem map_lowerByte_bytes (text : List Char) :
    (bytes text).map lowerByte = bytes (lowerAscii text) := by
  induction text with
  | nil => rfl
  | cons char rest ih =>
      rw [bytes_cons, List.map_append, map_lowerByte_utf8EncodeChar, ih]
      rfl

theorem length_bytes_lowerAscii (text : List Char) :
    (bytes (lowerAscii text)).length = (bytes text).length := by
  rw [← map_lowerByte_bytes, List.length_map]

section Places

theorem bytes_prefix_iff (ascii : Ascii part) : bytes part <+: bytes text ↔ part <+: text := by
  induction part generalizing text with
  | nil => simp
  | cons first part ih =>
      obtain ⟨first_ascii, ascii⟩ := List.forall_mem_cons.mp ascii
      rw [bytes_cons, utf8EncodeChar_of_ascii first_ascii, List.singleton_append]
      cases text with
      | nil => simp
      | cons char rest =>
          rw [bytes_cons, List.cons_prefix_cons]
          by_cases char_ascii : char.toNat < 128
          · rw [utf8EncodeChar_of_ascii char_ascii, List.singleton_append, List.cons_prefix_cons,
              ofNat_toNat_inj first_ascii char_ascii, ih ascii]
          · have large := le_of_mem_utf8EncodeChar (Nat.not_lt.mp char_ascii)
            obtain ⟨byte, more, encoded⟩ :=
              List.exists_cons_of_ne_nil (String.utf8EncodeChar_ne_nil (c := char))
            rw [encoded, List.forall_mem_cons] at large
            rw [encoded, List.cons_append, List.cons_prefix_cons]
            constructor
            · rintro ⟨rfl, -⟩
              have code := large.1
              rw [UInt8.toNat_ofNat'] at code
              omega
            · rintro ⟨rfl, -⟩
              exact (char_ascii first_ascii).elim

theorem bytes_prefix_drop (before part after : List Char) :
    bytes part <+: (bytes (before ++ part ++ after)).drop (bytes before).length := by
  rw [List.append_assoc, bytes_append, List.drop_left, bytes_append]
  exact List.prefix_append _ _

/-- Behind its first byte a character has no byte of ASCII. -/
theorem not_prefix_inside {first : Char} (ascii : first.toNat < 128) {place : Nat}
    (inside : 0 < place) (within : place < (String.utf8EncodeChar char).length)
    (more rest : List UInt8) :
    ¬UInt8.ofNat first.toNat :: more <+: (String.utf8EncodeChar char).drop place ++ rest := by
  have other : 128 ≤ char.toNat := by
    refine Nat.not_lt.mp fun char_ascii => ?_
    rw [utf8EncodeChar_of_ascii char_ascii, List.length_singleton] at within
    omega
  have left : (String.utf8EncodeChar char).drop place ≠ [] := by
    rw [ne_eq, List.drop_eq_nil_iff]
    omega
  obtain ⟨byte, later, dropped⟩ := List.exists_cons_of_ne_nil left
  have member : byte ∈ String.utf8EncodeChar char :=
    List.mem_of_mem_drop (dropped ▸ List.mem_cons_self)
  have large := le_of_mem_utf8EncodeChar other byte member
  rw [dropped, List.cons_append, List.cons_prefix_cons]
  rintro ⟨rfl, -⟩
  rw [UInt8.toNat_ofNat'] at large
  omega

/-- A part in ASCII is among the bytes of a text at whole characters only. -/
theorem exists_of_bytes_prefix_drop (ascii : Ascii part) (filled : part ≠ []) {place : Nat}
    (here : bytes part <+: (bytes text).drop place) :
    ∃ before after, text = before ++ part ++ after ∧ (bytes before).length = place := by
  obtain ⟨first, others, rfl⟩ := List.exists_cons_of_ne_nil filled
  have first_ascii := ascii first List.mem_cons_self
  induction text generalizing place with
  | nil => simp [utf8EncodeChar_of_ascii first_ascii] at here
  | cons char rest ih =>
      by_cases start : place = 0
      · subst start
        obtain ⟨after, parts⟩ := (bytes_prefix_iff ascii).mp here
        exact ⟨[], after, parts.symm, rfl⟩
      · by_cases within : place < (String.utf8EncodeChar char).length
        · rw [bytes_cons, bytes_cons, utf8EncodeChar_of_ascii first_ascii, List.singleton_append,
            List.drop_append_of_le_length (Nat.le_of_lt within)] at here
          exact (not_prefix_inside first_ascii (Nat.pos_of_ne_zero start) within _ _ here).elim
        · rw [bytes_cons char, List.drop_append, List.drop_of_length_le (Nat.not_lt.mp within),
            List.nil_append] at here
          obtain ⟨before, after, parts, length⟩ := ih here
          refine ⟨char :: before, after, by simp [parts], ?_⟩
          rw [bytes_cons, List.length_append, length]
          omega

theorem length_bytes_lt_iff {front : List Char} (begins : front <+: text)
    (also_begins : before <+: text) :
    (bytes front).length < (bytes before).length ↔ front.length < before.length := by
  rcases List.prefix_or_prefix_of_prefix begins also_begins with ⟨rest, rfl⟩ | ⟨rest, rfl⟩
  · cases rest with
    | nil => simp
    | cons char rest =>
        have size := List.length_pos_iff.mpr (String.utf8EncodeChar_ne_nil (c := char))
        simp only [bytes_append, bytes_cons, List.length_append, List.length_cons]
        omega
  · simp only [bytes_append, List.length_append]
    omega

/-- The first place of a part in ASCII among the bytes of a text is its first place in the text. -/
theorem firstAt_bytes_iff (ascii : Ascii part) (filled : part ≠ []) {place : Nat} :
    FirstAt (bytes part) (bytes text) place ↔ ∃ before after, text = before ++ part ++ after ∧
      FirstAt part text before.length ∧ place = (bytes before).length := by
  have begins {front back : List Char} (parts : text = front ++ part ++ back) : front <+: text :=
    ⟨part ++ back, by rw [parts, List.append_assoc]⟩
  constructor
  · rintro ⟨here, first⟩
    obtain ⟨before, after, parts, rfl⟩ := exists_of_bytes_prefix_drop ascii filled here
    refine ⟨before, after, parts, ⟨?_, fun earlier sooner found => ?_⟩, rfl⟩
    · rw [parts, List.append_assoc, List.drop_left]
      exact List.prefix_append _ _
    · obtain ⟨back, rest⟩ := found
      have also_parts : text = text.take earlier ++ part ++ back := by
        rw [List.append_assoc, rest, List.take_append_drop]
      have length : (text.take earlier).length < before.length := by
        rw [List.length_take]
        omega
      have among := bytes_prefix_drop (text.take earlier) part back
      rw [← also_parts] at among
      exact first _ ((length_bytes_lt_iff (begins also_parts) (begins parts)).mpr length) among
  · rintro ⟨before, after, parts, ⟨-, first⟩, rfl⟩
    refine ⟨parts ▸ bytes_prefix_drop before part after, fun earlier sooner found => ?_⟩
    obtain ⟨front, back, also_parts, rfl⟩ := exists_of_bytes_prefix_drop ascii filled found
    have length := (length_bytes_lt_iff (begins also_parts) (begins parts)).mp sooner
    refine first front.length length ?_
    rw [also_parts, List.append_assoc, List.drop_left]
    exact List.prefix_append _ _

end Places

end QueryShell.Text
