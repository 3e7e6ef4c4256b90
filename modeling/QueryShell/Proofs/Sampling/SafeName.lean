import QueryShell.Proofs.Sampling.TableName

/-!
Points and quotes in the names of sample tables. The beginning of a name, with the table and the limit,
is freed of them. The columns and the keys behind it go in as they are written, so that a name is
safe exactly if all of them are.
-/

namespace QueryShell.Sample

variable {sample : Sample} {first second : List Char} {columns keys : List (List Char)}

def Safe (name : List Char) : Prop := '.' ∉ name ∧ '"' ∉ name

instance : DecidablePred Safe := fun name =>
  inferInstanceAs (Decidable ('.' ∉ name ∧ '"' ∉ name))

theorem safe_append : Safe (first ++ second) ↔ Safe first ∧ Safe second := by
  simp only [Safe, List.mem_append, not_or]
  exact and_and_and_comm

theorem safe_underscore : Safe ['_'] := by decide

theorem safe_sanitize (name : List Char) : Safe (sanitize name) := by
  constructor
  · intro dotted
    obtain ⟨substituted, -⟩ := List.mem_filter.mp dotted
    obtain ⟨char, -, among⟩ := List.mem_flatMap.mp substituted
    split at among
    · exact absurd among (by decide)
    · rename_i other
      exact other (List.mem_singleton.mp among).symm
  · intro quoted
    obtain ⟨-, kept⟩ := List.mem_filter.mp quoted
    exact of_decide_eq_true kept rfl

theorem safe_weave_iff (count : columns.length = keys.length) :
    Safe (weave columns keys) ↔ (∀ column ∈ columns, Safe column) ∧ ∀ key ∈ keys, Safe key := by
  induction columns generalizing keys with
  | nil =>
      obtain rfl := List.eq_nil_of_length_eq_zero count.symm
      exact ⟨fun _ => ⟨by simp, by simp⟩, fun _ => by decide⟩
  | cons column columns ih =>
      obtain ⟨key, keys, rfl⟩ := List.exists_cons_of_length_eq_add_one count.symm
      have parts : weave (column :: columns) (key :: keys) =
          ['_'] ++ column ++ ['_'] ++ key ++ weave columns keys := by
        simp [weave]
      rw [parts, List.forall_mem_cons, List.forall_mem_cons]
      simp only [safe_append, safe_underscore, true_and, and_true, ih (Nat.succ.inj count)]
      exact and_and_and_comm

/-- The name that both statements of a line are on is safe exactly if the columns of the sample and the
keys of the line are, whatever the table and the limit are. -/
theorem table_safe_iff (sample : Sample) (line : String) (accepted : sample.accepts line = true) :
    (Safe (sample.tableOf line) ↔
      (∀ column ∈ sample.columns, Safe column) ∧ ∀ key ∈ sample.keysOf line, Safe key) ∧
    ∃ query, sample.derived line =
      [String.ofList ("DROP TABLE ".toList ++ sample.tableOf line),
        String.ofList ("CREATE TABLE ".toList ++ sample.tableOf line ++ " AS ".toList ++ query)] := by
  refine ⟨?_, derived_on_table accepted⟩
  have stem : Safe sample.stem := safe_sanitize _
  rw [tableOf_eq, safe_append, safe_weave_iff (length_keysOf accepted).symm]
  exact and_iff_right stem

theorem table_safe_iff_of_quoted_table :
    ∃ sample, ofStatement "select * from db.\"logs\" bias on city,day limit=2.5" = .ok sample ∧
      sample.accepts "7\tmon\t2" = true ∧ Safe (sample.tableOf "7\tmon\t2") ∧
      sample.tableOf "7\tmon\t2" = "qsh_sample_dbPOINTlogs_2_city_7_day_mon".toList := by
  let sample : Sample :=
    { command := "select * from db.\"logs\" bias on city,day ".toList
      base := "select * from db.\"logs\" ".toList
      columnsText := " city,day ".toList
      columns := ["city".toList, "day".toList]
      limit := .finite false 5629499534213120 (-51) }
  have found : ofChars? "select * from db.\"logs\" bias on city,day limit=2.5".toList =
      some sample := by decide +kernel
  have parsed : ofStatement "select * from db.\"logs\" bias on city,day limit=2.5" = .ok sample := by
    rw [ofStatement, found]
  have accepted : sample.accepts "7\tmon\t2" = true := by decide +kernel
  have safe : Safe (sample.tableOf "7\tmon\t2") :=
    (table_safe_iff sample "7\tmon\t2" accepted).1.mpr ⟨by decide +kernel, by decide +kernel⟩
  exact ⟨sample, parsed, accepted, safe, by decide +kernel⟩

/-- A key that is a decimal takes its point into the name. -/
theorem table_unsafe_on_decimal_key :
    ∃ sample, ofStatement "select * from logs bias on city limit=10" = .ok sample ∧
      sample.accepts "1.5\t3" = true ∧
      sample.derived "1.5\t3" =
        ["DROP TABLE qsh_sample_logs_10_city_1.5",
          "CREATE TABLE qsh_sample_logs_10_city_1.5 AS select * from logs  where city = 1.5"] ∧
      ¬Safe (sample.tableOf "1.5\t3") := by
  let sample : Sample :=
    { command := "select * from logs bias on city ".toList
      base := "select * from logs ".toList
      columnsText := " city ".toList
      columns := ["city".toList]
      limit := .finite false 5629499534213120 (-49) }
  have found : ofChars? "select * from logs bias on city limit=10".toList = some sample := by
    decide +kernel
  have parsed : ofStatement "select * from logs bias on city limit=10" = .ok sample := by
    rw [ofStatement, found]
  exact ⟨sample, parsed, by decide +kernel, by decide +kernel, by decide +kernel⟩

end QueryShell.Sample
