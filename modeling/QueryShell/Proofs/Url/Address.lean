import QueryShell.Proofs.Number.Digits
import QueryShell.Proofs.Text.Lines
import QueryShell.Url.Address

/-!
Addresses of eight groups. What is read as an address is eight groups of sixteen bits, and the
shortest text of such groups is read as these groups, whichever run of zeros it leaves out.
-/

namespace QueryShell.Url.Address

variable {groups : List Nat} {text word rest : List Char} {char : Char}

structure IsAddress (groups : List Nat) : Prop where
  count : groups.length = 8
  bounded : ∀ group ∈ groups, group < 65536

section Reading

theorem forall_of_mapM {Source Result : Type} {read : Source → Option Result}
    {holds : Result → Prop} (each : ∀ source result, read source = some result → holds result)
    {sources : List Source} {results : List Result} (made : sources.mapM read = some results) :
    ∀ result ∈ results, holds result := by
  induction sources generalizing results with
  | nil =>
      cases made
      exact List.forall_mem_nil _
  | cons first rest ih =>
      simp only [List.mapM_cons, Option.bind_eq_bind, Option.bind_eq_some_iff] at made
      obtain ⟨result, given, others, remaining, same⟩ := made
      cases same
      rw [List.forall_mem_cons]
      exact ⟨each first result given, ih remaining⟩

theorem group?_lt {group : Nat} (read : group? text = some group) : group < 65536 := by
  rw [group?] at read
  split at read
  · cases read
  · rename_i short
    have length : text.length ≤ 4 := by
      rw [Bool.or_eq_true, not_or, decide_eq_true_eq] at short
      omega
    calc
      group < 16 ^ text.length := Digit.lt_of_number? read
      _ ≤ 16 ^ 4 := Nat.pow_le_pow_right (by decide) length

theorem octet?_lt {octet : Nat} (read : octet? text = some octet) : octet < 256 := by
  rw [octet?.eq_def] at read
  split at read
  · cases read
  · obtain ⟨-, below⟩ := Option.filter_eq_some_iff.mp read
    exact of_decide_eq_true below

theorem dotted?_lt (read : dotted? text = some groups) : ∀ group ∈ groups, group < 65536 := by
  rw [dotted?] at read
  split at read
  · rename_i first second third fourth octets
    cases read
    have bounded := forall_of_mapM (fun _ _ => octet?_lt) octets
    simp only [List.forall_mem_cons, List.not_mem_nil, false_implies, implies_true, and_true]
      at bounded ⊢
    omega
  · cases read

theorem groups?_lt {mayEndDotted : Bool} (read : groups? mayEndDotted text = some groups) :
    ∀ group ∈ groups, group < 65536 := by
  rw [groups?] at read
  split at read
  · cases read
    exact List.forall_mem_nil _
  · dsimp only at read
    split at read
    · simp only [Option.bind_eq_bind, Option.bind_eq_some_iff] at read
      obtain ⟨front, first, back, last, same⟩ := read
      cases same
      rw [List.forall_mem_append]
      exact ⟨forall_of_mapM (fun _ _ => group?_lt) first, dotted?_lt last⟩
    · exact forall_of_mapM (fun _ _ => group?_lt) read

theorem isAddress_of_ofText? (read : ofText? text = some groups) : IsAddress groups := by
  rw [ofText?] at read
  split at read
  · obtain ⟨whole, count⟩ := Option.filter_eq_some_iff.mp read
    exact ⟨of_decide_eq_true count, groups?_lt whole⟩
  · simp only [Option.bind_eq_bind, Option.bind_eq_some_iff] at read
    obtain ⟨front, first, back, last, rest⟩ := read
    split at rest
    · cases rest
    · rename_i missing
      cases rest
      constructor
      · simp only [List.length_append, List.length_replicate]
        omega
      · intro group member
        rcases List.mem_append.mp member with among | behind
        · rcases List.mem_append.mp among with before | zero
          · exact groups?_lt first group before
          · obtain ⟨-, rfl⟩ := List.mem_replicate.mp zero
            decide
        · exact groups?_lt last group behind

end Reading

section Writing

theorem ne_of_mem_hexadecimal {value : Nat} (member : char ∈ hexadecimal value) :
    char ≠ ':' ∧ char ≠ '.' := by
  obtain ⟨digit, -, rfl⟩ := Digit.exists_of_mem_toDigits (by decide) member
  exact ⟨Nat.digitChar_ne ':' (by decide), Nat.digitChar_ne '.' (by decide)⟩

theorem group?_hexadecimal {value : Nat} (bound : value < 65536) :
    group? (hexadecimal value) = some value := by
  have written : (hexadecimal value).isEmpty = false := by simp [hexadecimal]
  have short : (hexadecimal value).length ≤ 4 :=
    (Nat.length_toDigits_le_iff (by decide) (by decide)).mpr bound
  have within : decide (4 < (hexadecimal value).length) = false :=
    decide_eq_false (Nat.not_lt.mpr short)
  rw [group?, written, within]
  exact Digit.number?_toDigits (by decide) (by decide) value

theorem joined_cons_cons (first second : Nat) (rest : List Nat) :
    joined (first :: second :: rest) = hexadecimal first ++ ':' :: joined (second :: rest) := by
  simp [joined, List.intercalate_cons_of_ne_nil]

theorem groups?_joined (mayEndDotted : Bool) (bounded : ∀ group ∈ groups, group < 65536) :
    groups? mayEndDotted (joined groups) = some groups := by
  by_cases none : groups = []
  · subst none
    rfl
  · have colon_free : ∀ part ∈ groups.map hexadecimal, ':' ∉ part := by
      intro part member within
      obtain ⟨group, -, rfl⟩ := List.mem_map.mp member
      exact (ne_of_mem_hexadecimal within).1 rfl
    have parts : Text.pieces (· = ':') (joined groups) = groups.map hexadecimal :=
      Text.pieces_intercalate ':' (by simpa using none) colon_free
    have written : (joined groups).isEmpty = false := by
      obtain ⟨first, rest, rfl⟩ := List.exists_cons_of_ne_nil none
      cases rest with
      | nil => simp [joined, hexadecimal]
      | cons second rest => simp [joined_cons_cons]
    have undotted : ((groups.map hexadecimal).getLast?.getD []).contains '.' = false := by
      rw [List.getLast?_map]
      cases groups.getLast? with
      | none => rfl
      | some last =>
          refine Bool.eq_false_iff.mpr fun dotted => ?_
          exact (ne_of_mem_hexadecimal (List.contains_iff_mem.mp dotted)).2 rfl
    have each : (groups.map hexadecimal).mapM group? = some groups := by
      clear none colon_free parts written undotted
      induction groups with
      | nil => rfl
      | cons first rest ih =>
          obtain ⟨bound, bounded⟩ := List.forall_mem_cons.mp bounded
          simp [group?_hexadecimal bound, ih bounded]
    rw [groups?, written, parts]
    simp only [undotted, Bool.and_false, Bool.false_eq_true, if_false]
    exact each

theorem cutGap?_append (colon_free : ':' ∉ word) (rest : List Char) :
    cutGap? (word ++ rest) =
      (cutGap? rest).map fun (before, after) => (word ++ before, after) := by
  induction word with
  | nil => simp
  | cons first others ih =>
      have other : first ≠ ':' := fun same => colon_free (same ▸ List.mem_cons_self)
      have later := ih fun member => colon_free (List.mem_cons_of_mem first member)
      rw [List.cons_append, cutGap?.eq_def]
      split
      · rename_i same
        exact (other (List.cons.inj same).1).elim
      · rename_i same
        obtain ⟨rfl, rfl⟩ := List.cons.inj same
        rw [later]
        cases cutGap? rest with
        | none => rfl
        | some cut => rfl
      · rename_i same
        cases same

theorem cutGap?_colon (single : rest.head? ≠ some ':') :
    cutGap? (':' :: rest) = (cutGap? rest).map fun (before, after) => (':' :: before, after) := by
  rw [cutGap?.eq_def]
  split
  · rename_i same
    obtain ⟨-, rfl⟩ := List.cons.inj same
    exact (single rfl).elim
  · rename_i same
    obtain ⟨rfl, rfl⟩ := List.cons.inj same
    rfl
  · rename_i same
    cases same

theorem joined_head? (first : Nat) (others : List Nat) (rest : List Char) :
    (joined (first :: others) ++ rest).head? ≠ some ':' := by
  obtain ⟨digit, digits, written⟩ :=
    List.exists_cons_of_ne_nil (Nat.toDigits_ne_nil (n := first) (b := 16))
  have other : digit ≠ ':' := by
    have member : digit ∈ hexadecimal first := by simp [hexadecimal, written]
    exact (ne_of_mem_hexadecimal member).1
  cases others with
  | nil => simpa [joined, hexadecimal, written] using other
  | cons second others => simpa [joined_cons_cons, hexadecimal, written] using other

theorem cutGap?_joined_append (groups : List Nat) (rest : List Char) :
    cutGap? (joined groups ++ rest) =
      (cutGap? rest).map fun (before, after) => (joined groups ++ before, after) := by
  have free (value : Nat) : ':' ∉ hexadecimal value :=
    fun member => (ne_of_mem_hexadecimal member).1 rfl
  induction groups with
  | nil => simp [joined]
  | cons first others ih =>
      cases others with
      | nil =>
          have whole : joined [first] = hexadecimal first := by simp [joined]
          rw [whole, cutGap?_append (free first)]
      | cons second others =>
          rw [joined_cons_cons, List.append_assoc, cutGap?_append (free first), List.cons_append,
            cutGap?_colon (joined_head? second others rest), ih]
          cases cutGap? rest with
          | none => rfl
          | some cut => simp

theorem zerosAt_spec (groups : List Nat) :
    ∃ back, groups = List.replicate (zerosAt groups) 0 ++ back := by
  refine ⟨groups.dropWhile (· = 0), ?_⟩
  have zeros : groups.takeWhile (· = 0) = List.replicate (zerosAt groups) 0 := by
    rw [List.eq_replicate_iff]
    refine ⟨rfl, ?_⟩
    intro group member
    simpa using List.mem_takeWhile_imp member
  rw [← zeros, List.takeWhile_append_dropWhile]

/-- The run that is found is a run of zeros at its place. -/
theorem longestZeros_spec (groups : List Nat) (place : Nat)
    (some_zero : 0 < (longestZeros place groups).2) :
    ∃ front back, groups = front ++ List.replicate (longestZeros place groups).2 0 ++ back ∧
      (longestZeros place groups).1 = place + front.length := by
  induction groups generalizing place with
  | nil => simp [longestZeros] at some_zero
  | cons first rest ih =>
      simp only [longestZeros] at some_zero ⊢
      split at some_zero
      · rename_i here
        rw [if_pos here]
        obtain ⟨back, parts⟩ := zerosAt_spec (first :: rest)
        exact ⟨[], back, by simpa using parts, rfl⟩
      · rename_i elsewhere
        rw [if_neg elsewhere]
        obtain ⟨front, back, parts, found⟩ := ih (place + 1) some_zero
        refine ⟨first :: front, back, ?_, ?_⟩
        · rw [List.cons_append, List.cons_append, ← parts]
        · rw [found, List.length_cons]
          omega

/-- The shortest text of an address: all groups, or those around some zeros. -/
theorem text_cases (groups : List Nat) :
    Address.text groups = joined groups ∨
    ∃ front zeros back, groups = front ++ List.replicate zeros 0 ++ back ∧ zeros ≠ 0 ∧
      Address.text groups = joined front ++ ':' :: ':' :: joined back := by
  rw [Address.text]
  dsimp only
  split
  · exact .inl rfl
  · rename_i several
    have some_zero : 0 < (longestZeros 0 groups).2 := by omega
    obtain ⟨front, back, parts, place⟩ := longestZeros_spec groups 0 some_zero
    rw [place]
    generalize (longestZeros 0 groups).2 = zeros at parts some_zero
    refine .inr ⟨front, zeros, back, parts, Nat.ne_of_gt some_zero, ?_⟩
    have before : groups.take (0 + front.length) = front := by
      rw [parts, Nat.zero_add, List.append_assoc, List.take_left]
    have after : groups.drop (0 + front.length + zeros) = back := by
      have length : 0 + front.length + zeros =
          (front ++ List.replicate zeros 0).length := by simp
      rw [length, parts, List.drop_left]
    rw [before, after, List.append_assoc]
    rfl

theorem ofText?_text (address : IsAddress groups) :
    ofText? (Address.text groups) = some groups := by
  rcases text_cases groups with whole | ⟨front, zeros, back, parts, some_zero, written⟩
  · have no_gap : cutGap? (joined groups) = none := by
      have cut := cutGap?_joined_append groups []
      rwa [List.append_nil] at cut
    have read := groups?_joined true address.bounded
    simp [ofText?, whole, no_gap, read, address.count]
  · have bounded := address.bounded
    have count := address.count
    rw [parts] at bounded count
    simp only [List.length_append, List.length_replicate] at count
    have gap : cutGap? (joined front ++ ':' :: ':' :: joined back) =
        some (joined front, joined back) := by
      rw [cutGap?_joined_append, cutGap?]
      simp
    have first : groups? false (joined front) = some front := by
      apply groups?_joined
      intro group member
      exact bounded group (List.mem_append_left _ (List.mem_append_left _ member))
    have last : groups? true (joined back) = some back := by
      apply groups?_joined
      intro group member
      exact bounded group (List.mem_append_right _ member)
    have missing : 8 - front.length - back.length = zeros := by omega
    rw [ofText?, written, gap]
    simp only [first, last, Option.bind_eq_bind, Option.bind_some, missing, if_neg some_zero]
    rw [parts]
    rfl

theorem of_mem_joined (member : char ∈ joined groups) :
    char = ':' ∨ ∃ digit < 16, char = digit.digitChar := by
  induction groups with
  | nil => simp [joined] at member
  | cons first rest ih =>
      cases rest with
      | nil =>
          have whole : joined [first] = hexadecimal first := by simp [joined]
          rw [whole] at member
          exact .inr (Digit.exists_of_mem_toDigits (by decide) member)
      | cons second rest =>
          rw [joined_cons_cons, List.mem_append, List.mem_cons] at member
          rcases member with digit | colon | later
          · exact .inr (Digit.exists_of_mem_toDigits (by decide) digit)
          · exact .inl colon
          · exact ih later

theorem of_mem_text (member : char ∈ Address.text groups) :
    char = ':' ∨ ∃ digit < 16, char = digit.digitChar := by
  rcases text_cases groups with whole | ⟨front, zeros, back, -, -, written⟩
  · rw [whole] at member
    exact of_mem_joined member
  · rw [written] at member
    simp only [List.mem_append, List.mem_cons] at member
    rcases member with before | colon | colon | after
    · exact of_mem_joined before
    · exact .inl colon
    · exact .inl colon
    · exact of_mem_joined after

end Writing

end QueryShell.Url.Address
