import QueryShell.Proofs.Sampling.Statements

/-!
The names of sample tables. A name has the columns and the keys of a line in turn, each after an
underscore and as it is, so two keys may meet in one name: what an earlier key ends with, a later one
may begin with. They cannot where each column after the first has a character that no key has, or
where all keys but the last have no underscore.
-/

namespace QueryShell

open Text

theorem Text.eq_of_append_marked {marks : Char → Bool} {first second separator after later : List Char}
    (first_free : ∀ char ∈ first, marks char = false)
    (second_free : ∀ char ∈ second, marks char = false)
    (marked : ∃ char ∈ separator, marks char = true)
    (same : first ++ (separator ++ after) = second ++ (separator ++ later)) : first = second := by
  have front {text : List Char} (free : ∀ char ∈ text, marks char = false) (rest : List Char) :
      (text ++ (separator ++ rest)).takeWhile (fun char => !marks char) =
        text ++ separator.takeWhile fun char => !marks char := by
    have passed : ∀ char ∈ text, (!marks char) = true := by
      intro char member
      rw [free char member]
      rfl
    rw [List.takeWhile_append_of_pos passed, List.takeWhile_append, if_neg]
    intro full
    have all := (List.takeWhile_prefix _).eq_of_length full
    obtain ⟨char, member, mark⟩ := marked
    have spared := List.takeWhile_eq_self_iff.mp all char member
    simp [mark] at spared
  have fronts := congrArg (List.takeWhile fun char => !marks char) same
  rw [front first_free, front second_free] at fronts
  exact List.append_cancel_right fronts

theorem Text.trim_between {first last : Char} (visible : isBlank first = false)
    (visible_last : isBlank last = false) (middle : List Char) :
    trim (first :: (middle ++ [last])) = first :: (middle ++ [last]) := by
  have ending : trimEnd [last] = [last] := by simp [trimEnd, visible_last]
  have kept : trimEnd (middle ++ [last]) = middle ++ [last] := by
    rw [trimEnd_append (by rw [ending]; exact List.cons_ne_nil _ _), ending]
  have whole := trim_append_cons visible [] (middle ++ [last])
  rwa [List.nil_append, kept] at whole

namespace Sample

variable {sample : Sample} {columns keys others : List (List Char)}

def fields (line : String) : List (List Char) := pieces (· = '\t') line.toList

def keysOf (sample : Sample) (line : String) : List (List Char) :=
  ((fields line).map trim).take sample.columns.length

def tableOf (sample : Sample) (line : String) : List Char := sample.sampleTable (fields line)

def weave : (columns keys : List (List Char)) → List Char
  | column :: columns, key :: keys => '_' :: column ++ '_' :: key ++ weave columns keys
  | _, _ => []

theorem flatMap_zip_eq_weave (columns keys : List (List Char)) :
    ((columns.zip keys).flatMap fun (column, key) => ['_'] ++ column ++ ['_'] ++ key) =
      weave columns (keys.take columns.length) := by
  induction columns generalizing keys with
  | nil => rfl
  | cons column rest ih =>
      cases keys with
      | nil => rfl
      | cons key others =>
          rw [List.zip_cons_cons, List.flatMap_cons, ih, List.length_cons, List.take_succ_cons, weave]
          simp

def stem (sample : Sample) : List Char :=
  sanitize ("qsh_sample_".toList ++ sample.table ++ ['_'] ++
    (toString sample.limit.toInt64).toList)

theorem tableOf_eq (sample : Sample) (line : String) :
    sample.tableOf line = sample.stem ++ weave sample.columns (sample.keysOf line) := by
  rw [tableOf, sampleTable, keyed, flatMap_zip_eq_weave, keysOf, stem]

theorem tableOf_eq_iff {left right : String} :
    sample.tableOf left = sample.tableOf right ↔
      weave sample.columns (sample.keysOf left) = weave sample.columns (sample.keysOf right) := by
  rw [tableOf_eq, tableOf_eq, List.append_cancel_left_eq]

theorem weave_append (count : columns.length = keys.length)
    (moreColumns moreKeys : List (List Char)) :
    weave (columns ++ moreColumns) (keys ++ moreKeys) =
      weave columns keys ++ weave moreColumns moreKeys := by
  induction columns generalizing keys with
  | nil =>
      obtain rfl := List.eq_nil_of_length_eq_zero count.symm
      rfl
  | cons column rest ih =>
      cases keys with
      | nil => cases count
      | cons key others => simp [weave, ih (Nat.succ.inj count)]

/-- The keys can be read back from a name if a mark tells where a column begins: each column after the
first has a mark, with the underscores at its sides, and no key before the last has one. -/
theorem weave_injective {marks : Char → Bool} (count : keys.length = columns.length)
    (other_count : others.length = columns.length)
    (marked : ∀ column ∈ columns.tail, ∃ char ∈ '_' :: column, marks char = true)
    (free : ∀ key ∈ keys.dropLast, ∀ char ∈ key, marks char = false)
    (other_free : ∀ key ∈ others.dropLast, ∀ char ∈ key, marks char = false)
    (same : weave columns keys = weave columns others) : keys = others := by
  induction columns generalizing keys others with
  | nil =>
      rw [List.eq_nil_of_length_eq_zero count, List.eq_nil_of_length_eq_zero other_count]
  | cons column rest ih =>
      obtain ⟨key, keys, rfl⟩ := List.exists_cons_of_length_eq_add_one count
      obtain ⟨other, others, rfl⟩ := List.exists_cons_of_length_eq_add_one other_count
      simp only [weave, List.cons_append, List.append_assoc, List.cons.injEq, true_and,
        List.append_cancel_left_eq] at same
      cases rest with
      | nil =>
          obtain rfl := List.eq_nil_of_length_eq_zero (Nat.succ.inj count)
          obtain rfl := List.eq_nil_of_length_eq_zero (Nat.succ.inj other_count)
          simpa [weave] using same
      | cons next rest =>
          obtain ⟨second, keys, rfl⟩ := List.exists_cons_of_length_eq_add_one (Nat.succ.inj count)
          obtain ⟨another, others, rfl⟩ :=
            List.exists_cons_of_length_eq_add_one (Nat.succ.inj other_count)
          rw [List.dropLast_cons_cons, List.forall_mem_cons] at free other_free
          rw [List.tail_cons, List.forall_mem_cons] at marked
          -- Both texts go on with the next column, so its mark ends both keys at one place.
          have joined : key ++ ('_' :: next ++ ('_' :: second ++ weave rest keys)) =
              other ++ ('_' :: next ++ ('_' :: another ++ weave rest others)) := by
            simpa [weave] using same
          obtain rfl : key = other :=
            eq_of_append_marked free.1 other_free.1 marked.1 joined
          have later := List.append_cancel_left same
          rw [ih (Nat.succ.inj count) (Nat.succ.inj other_count) marked.2 free.2 other_free.2 later]

section Lines

theorem length_keysOf {line : String} (accepted : sample.accepts line = true) :
    (sample.keysOf line).length = sample.columns.length := by
  have long : sample.columns.length < (fields line).length := by
    by_contra short
    have missing : (fields line)[sample.columns.length]? = none :=
      List.getElem?_eq_none (Nat.le_of_not_lt short)
    rw [fields] at missing
    simp [accepts, statements?, statementsFor, missing, Except.toOption] at accepted
  rw [keysOf, List.length_take, List.length_map]
  omega

theorem tables_apart {marks : Char → Bool} {left right : String}
    (marked : ∀ column ∈ sample.columns.tail, ∃ char ∈ '_' :: column, marks char = true)
    (accepted : sample.accepts left = true) (also : sample.accepts right = true)
    (free : ∀ key ∈ (sample.keysOf left).dropLast, ∀ char ∈ key, marks char = false)
    (also_free : ∀ key ∈ (sample.keysOf right).dropLast, ∀ char ∈ key, marks char = false)
    (different : sample.keysOf left ≠ sample.keysOf right) :
    sample.tableOf left ≠ sample.tableOf right := by
  rw [ne_eq, tableOf_eq_iff]
  intro same
  exact different (weave_injective (length_keysOf accepted) (length_keysOf also) marked free
    also_free same)

theorem of_mem_keysOf {line : String} {key : List Char} {char : Char}
    (member : key ∈ sample.keysOf line) (within : char ∈ key) :
    char ∈ line.toList ∧ char ≠ '\t' := by
  obtain ⟨field, among, rfl⟩ := List.mem_map.mp (List.mem_of_mem_take member)
  obtain ⟨occurs, spared⟩ := of_mem_pieces among (mem_of_mem_trim within)
  exact ⟨occurs, of_decide_eq_false spared⟩

def IsKey (key : List Char) : Prop := trim key = key ∧ '\t' ∉ key ∧ '\n' ∉ key

def lineOf (keys : List (List Char)) : String :=
  String.ofList (['\t'].intercalate (keys ++ [['1']]))

theorem fields_lineOf (proper : ∀ key ∈ keys, IsKey key) :
    fields (lineOf keys) = keys ++ [['1']] := by
  rw [fields, lineOf, String.toList_ofList]
  refine pieces_intercalate '\t' (by simp) ?_
  rw [List.forall_mem_append, List.forall_mem_singleton]
  exact ⟨fun key member => (proper key member).2.1, by decide⟩

theorem newline_not_mem_lineOf (proper : ∀ key ∈ keys, IsKey key) :
    '\n' ∉ (lineOf keys).toList := by
  rw [lineOf, String.toList_ofList]
  refine not_mem_intercalate (by decide) ?_
  rw [List.forall_mem_append, List.forall_mem_singleton]
  exact ⟨fun key member => (proper key member).2.2, by decide⟩

theorem keysOf_lineOf (count : keys.length = sample.columns.length)
    (proper : ∀ key ∈ keys, IsKey key) : sample.keysOf (lineOf keys) = keys := by
  have trimmed : keys.map trim = keys :=
    (List.map_congr_left fun key member => (proper key member).1).trans (List.map_id' keys)
  rw [keysOf, fields_lineOf proper, List.map_append, trimmed, ← count, List.take_left]

theorem accepts_lineOf (count : keys.length = sample.columns.length)
    (proper : ∀ key ∈ keys, IsKey key) : sample.accepts (lineOf keys) = true := by
  have number : (fields (lineOf keys))[sample.columns.length]? = some ['1'] := by
    rw [fields_lineOf proper, ← count]
    exact List.getElem?_concat_length
  have numeric : (Decimal.binary64OfText? (trim ['1'])).isSome = true := by decide +kernel
  obtain ⟨frequency, read⟩ := Option.isSome_iff_exists.mp numeric
  rw [fields] at number
  simp [accepts, statements?, statementsFor, number, read, Except.toOption]

end Lines

section Meeting

variable {before after : List (List Char)} {last column first second : List Char}

def around (column : List Char) : List Char := '1' :: ('_' :: column ++ ['_'] ++ ['1'])

theorem isKey_around (no_tab : '\t' ∉ column) (no_newline : '\n' ∉ column) :
    IsKey (around column) := by
  refine ⟨trim_between (by decide) (by decide) ('_' :: column ++ ['_']), ?_, ?_⟩
  · simp [around, no_tab]
  · simp [around, no_newline]

def keysWith (before after : List (List Char)) (first second : List Char) : List (List Char) :=
  before.map (fun _ => ['1']) ++ first :: second :: after.map fun _ => ['1']

theorem isKey_of_mem_keysWith (proper : IsKey first) (also : IsKey second) :
    ∀ key ∈ keysWith before after first second, IsKey key := by
  have one : IsKey ['1'] := ⟨by decide, by decide, by decide⟩
  intro key member
  simp only [keysWith, List.mem_append, List.mem_cons, List.mem_map] at member
  rcases member with ⟨_, _, rfl⟩ | rfl | rfl | ⟨_, _, rfl⟩
  · exact one
  · exact proper
  · exact also
  · exact one

/-- Two keys that a column parts may change places if one of them is `1` and the other one holds that
column. -/
theorem weave_keysWith (before after : List (List Char)) (last column : List Char) :
    weave (before ++ last :: column :: after) (keysWith before after (around column) ['1']) =
      weave (before ++ last :: column :: after) (keysWith before after ['1'] (around column)) := by
  have count : before.length = (before.map fun _ => ['1']).length := by simp
  rw [keysWith, keysWith, weave_append count, weave_append count]
  simp [weave, around]

theorem exists_before_of_mem_tail {columns : List (List Char)} (member : column ∈ columns.tail) :
    ∃ before last after, columns = before ++ last :: column :: after := by
  cases columns with
  | nil => cases member
  | cons head rest =>
      obtain ⟨between, after, rfl⟩ := List.append_of_mem member
      rcases List.eq_nil_or_concat (head :: between) with nothing | ⟨before, last, parts⟩
      · cases nothing
      · refine ⟨before, last, after, ?_⟩
        rw [← List.cons_append, parts]
        simp

/-- A column after the first that has no tab and no line end can stand in a key, and then two lines
meet in one name. -/
theorem exists_meeting (member : column ∈ sample.columns.tail) (no_tab : '\t' ∉ column)
    (no_newline : '\n' ∉ column) :
    ∃ left right, sample.accepts left = true ∧ sample.accepts right = true ∧
      '\n' ∉ left.toList ∧ '\n' ∉ right.toList ∧ sample.keysOf left ≠ sample.keysOf right ∧
      sample.tableOf left = sample.tableOf right := by
  obtain ⟨before, last, after, parts⟩ := exists_before_of_mem_tail member
  have one : IsKey ['1'] := ⟨by decide, by decide, by decide⟩
  have held := isKey_around no_tab no_newline
  have count (first second : List Char) :
      (keysWith before after first second).length = sample.columns.length := by
    simp [keysWith, parts]
  have proper : ∀ key ∈ keysWith before after (around column) ['1'], IsKey key :=
    isKey_of_mem_keysWith held one
  have also : ∀ key ∈ keysWith before after ['1'] (around column), IsKey key :=
    isKey_of_mem_keysWith one held
  refine ⟨_, _, accepts_lineOf (count _ _) proper, accepts_lineOf (count _ _) also,
    newline_not_mem_lineOf proper, newline_not_mem_lineOf also, ?_, ?_⟩
  · rw [keysOf_lineOf (count _ _) proper, keysOf_lineOf (count _ _) also]
    simp [keysWith, around]
  · rw [tableOf_eq_iff, keysOf_lineOf (count _ _) proper, keysOf_lineOf (count _ _) also, parts]
    exact weave_keysWith before after last column

end Meeting

theorem derived_on_table {line : String} (accepted : sample.accepts line = true) :
    ∃ query, sample.derived line =
      [String.ofList ("DROP TABLE ".toList ++ sample.tableOf line),
        String.ofList ("CREATE TABLE ".toList ++ sample.tableOf line ++ " AS ".toList ++ query)] := by
  rw [accepts] at accepted
  obtain ⟨pair, made⟩ := Option.isSome_iff_exists.mp accepted
  have given := statementsFor_of_some made
  rw [derived, made]
  rw [statementsFor] at given
  split at given
  · cases given
  · cases given
    exact ⟨_, rfl⟩

/-- The names of all lines with different keys differ exactly if each column after the first has a
tab or a line end, which no key can have. Whatever the columns are, the names of two lines differ if
their keys differ and no key but the last has an underscore. -/
theorem tables_apart_iff (sample : Sample) :
    ((∀ left right, sample.accepts left = true → sample.accepts right = true →
        '\n' ∉ left.toList → '\n' ∉ right.toList → sample.keysOf left ≠ sample.keysOf right →
        sample.tableOf left ≠ sample.tableOf right) ↔
      ∀ column ∈ sample.columns.tail, '\t' ∈ column ∨ '\n' ∈ column) ∧
    (∀ left right, sample.accepts left = true → sample.accepts right = true →
      (∀ key ∈ (sample.keysOf left).dropLast, '_' ∉ key) →
      (∀ key ∈ (sample.keysOf right).dropLast, '_' ∉ key) →
      sample.keysOf left ≠ sample.keysOf right → sample.tableOf left ≠ sample.tableOf right) ∧
    ∀ line, sample.accepts line = true → ∃ query, sample.derived line =
      [String.ofList ("DROP TABLE ".toList ++ sample.tableOf line),
        String.ofList ("CREATE TABLE ".toList ++ sample.tableOf line ++ " AS ".toList ++ query)] := by
  refine ⟨⟨?_, ?_⟩, ?_, ?_⟩
  · intro apart column member
    by_contra plain
    obtain ⟨no_tab, no_newline⟩ := not_or.mp plain
    obtain ⟨left, right, accepted, also, whole, whole', different, same⟩ :=
      exists_meeting member no_tab no_newline
    exact apart left right accepted also whole whole' different same
  · intro barred left right accepted also whole whole'
    let marks (char : Char) : Bool := char = '\t' || char = '\n'
    have marked : ∀ column ∈ sample.columns.tail, ∃ char ∈ '_' :: column, marks char = true := by
      intro column member
      rcases barred column member with tab | newline
      · exact ⟨'\t', List.mem_cons_of_mem _ tab, rfl⟩
      · exact ⟨'\n', List.mem_cons_of_mem _ newline, rfl⟩
    have free {line : String} (single : '\n' ∉ line.toList) :
        ∀ key ∈ (sample.keysOf line).dropLast, ∀ char ∈ key, marks char = false := by
      intro key member char within
      obtain ⟨occurs, no_tab⟩ := of_mem_keysOf (List.dropLast_subset _ member) within
      have no_newline : char ≠ '\n' := fun same => single (same ▸ occurs)
      simp [marks, no_tab, no_newline]
    exact tables_apart marked accepted also (free whole) (free whole')
  · intro left right accepted also plain plain'
    have free {keys : List (List Char)} (none : ∀ key ∈ keys, '_' ∉ key) :
        ∀ key ∈ keys, ∀ char ∈ key, decide (char = '_') = false := by
      intro key member char within
      exact decide_eq_false fun same => none key member (same ▸ within)
    exact tables_apart (fun column _ => ⟨'_', List.mem_cons_self, rfl⟩) accepted also (free plain)
      (free plain')
  · intro line
    exact derived_on_table

theorem tables_apart_iff_of_one_column :
    ∃ sample, ofStatement "select * from logs bias on city limit=10" = .ok sample ∧
      sample.accepts "a_city_b\t40" = true ∧ sample.accepts "a\t5" = true ∧
      sample.keysOf "a_city_b\t40" ≠ sample.keysOf "a\t5" ∧
      sample.tableOf "a_city_b\t40" ≠ sample.tableOf "a\t5" := by
  let sample : Sample :=
    { command := "select * from logs bias on city ".toList
      base := "select * from logs ".toList
      columnsText := " city ".toList
      columns := ["city".toList]
      limit := .finite false 5629499534213120 (-49) }
  have found : ofChars? "select * from logs bias on city limit=10".toList = some sample := by
    decide +kernel
  have parsed : ofStatement "select * from logs bias on city limit=10" = .ok sample := by
    rw [ofStatement, found]
  have accepted : sample.accepts "a_city_b\t40" = true := by decide +kernel
  have also : sample.accepts "a\t5" = true := by decide +kernel
  have different : sample.keysOf "a_city_b\t40" ≠ sample.keysOf "a\t5" := by decide +kernel
  have barred : ∀ column ∈ sample.columns.tail, '\t' ∈ column ∨ '\n' ∈ column := by decide
  have apart := (tables_apart_iff sample).1.mpr barred "a_city_b\t40" "a\t5" accepted also
    (by decide) (by decide) different
  exact ⟨sample, parsed, accepted, also, different, apart⟩

/-- With a second column the keys of two lines can meet in one name. -/
theorem tables_meet_on_two_columns :
    ∃ sample, ofStatement "select * from t bias on a,b limit=10" = .ok sample ∧
      sample.accepts "x_b_y\tz\t5" = true ∧ sample.accepts "x\ty_b_z\t5" = true ∧
      sample.keysOf "x_b_y\tz\t5" ≠ sample.keysOf "x\ty_b_z\t5" ∧
      sample.tableOf "x_b_y\tz\t5" = "qsh_sample_t_10_a_x_b_y_b_z".toList ∧
      sample.tableOf "x\ty_b_z\t5" = "qsh_sample_t_10_a_x_b_y_b_z".toList := by
  let sample : Sample :=
    { command := "select * from t bias on a,b ".toList
      base := "select * from t ".toList
      columnsText := " a,b ".toList
      columns := ["a".toList, "b".toList]
      limit := .finite false 5629499534213120 (-49) }
  have found : ofChars? "select * from t bias on a,b limit=10".toList = some sample := by
    decide +kernel
  have parsed : ofStatement "select * from t bias on a,b limit=10" = .ok sample := by
    rw [ofStatement, found]
  refine ⟨sample, parsed, ?_, ?_, ?_, ?_, ?_⟩
  · decide +kernel
  · decide +kernel
  · decide +kernel
  · decide +kernel
  · decide +kernel

end Sample

end QueryShell
