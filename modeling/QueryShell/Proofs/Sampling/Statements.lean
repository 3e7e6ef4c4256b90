import QueryShell.Proofs.Backend.Served
import QueryShell.Proofs.Text.Lines
import QueryShell.Proofs.Text.Search
import QueryShell.Sample

/-!
What a sample is made of. A statement that can be taken apart has its bias marker, and the lines of
its key summary give pairs of statements that only the engine can carry out.
-/

namespace QueryShell

open Text

section Markers

variable {text before after : List Char}

theorem Sample.cutMarker?_append (marked : (cutMarker? before).isSome = true)
    (after : List Char) : (cutMarker? (before ++ after)).isSome = true := by
  induction before with
  | nil => cases marked
  | cons char rest ih =>
      rw [List.cons_append]
      simp only [cutMarker?] at marked ⊢
      by_cases here : lowerAscii ((char :: rest).take biasMarker.length) = biasMarker
      · have long : biasMarker.length ≤ (char :: rest).length := by
          have length := congrArg List.length here
          rw [lowerAscii, List.length_map, List.length_take] at length
          omega
        have same : (char :: (rest ++ after)).take biasMarker.length =
            (char :: rest).take biasMarker.length :=
          List.take_append_of_le_length long
        rw [same, if_pos here]
        rfl
      · rw [if_neg here, Option.isSome_map] at marked
        split
        · rfl
        · rw [Option.isSome_map]
          exact ih marked

end Markers

namespace Sample

variable {sample : Sample}

/-- Only a statement with a bias marker can be taken apart. -/
theorem isBiased_of_ofStatement {statement : String}
    (parsed : ofStatement statement = .ok sample) : isBiased statement = true := by
  simp only [ofStatement] at parsed
  split at parsed
  · rename_i found
    simp only [ofChars?, Option.bind_eq_bind, Option.bind_eq_some_iff] at found
    obtain ⟨⟨command, afterLimit⟩, cut, _, _, ⟨base, fromMarker⟩, marked, _⟩ := found
    have parts := eq_append_of_cutAt? cut
    have biased : (cutMarker? command).isSome = true := Option.isSome_of_eq_some marked
    rw [isBiased, parts, List.append_assoc]
    exact cutMarker?_append biased _
  · cases parsed

theorem ofStatement_error {statement : String} {failure : Failure}
    (rejected : ofStatement statement = .error failure) : failure = usage := by
  simp only [ofStatement] at rejected
  split at rejected
  · cases rejected
  · exact (Except.error.inj rejected).symm

def statements? (sample : Sample) (line : String) : Option (String × String) :=
  (sample.statementsFor line).toOption

def accepts (sample : Sample) (line : String) : Bool := (sample.statements? line).isSome

def derived (sample : Sample) (line : String) : List String :=
  match sample.statements? line with
  | some (drop, create) => [drop, create]
  | none => []

theorem statementsFor_of_none {line : String} (rejected : sample.statements? line = none) :
    sample.statementsFor line = .error (.usage ("malformed key summary line: " ++ line)) := by
  simp only [statements?, statementsFor] at rejected ⊢
  split
  · rfl
  · rename_i number
    rw [number] at rejected
    cases rejected

theorem statementsFor_of_some {line : String} {pair : String × String}
    (accepted : sample.statements? line = some pair) : sample.statementsFor line = .ok pair := by
  rw [statements?] at accepted
  cases made : sample.statementsFor line with
  | error failure =>
      rw [made] at accepted
      cases accepted
  | ok other =>
      rw [made] at accepted
      cases accepted
      rfl

theorem undirected_of_word {word : List Char} (rest : List Char)
    (solid : ∀ char ∈ word, isBlank char = false) (named : word ≠ [])
    (other : ∀ directive : Directive, lower word ≠ directive.word.toList) :
    Directive.ofStatement? (String.ofList (word ++ ' ' :: rest)) = none := by
  have first : (firstWord (word ++ ' ' :: rest)).1 = word := firstWord_append solid named rfl rest
  have unclaimed (arguments : List Char) : Directive.ofWords? word arguments = none := by
    cases claimed : Directive.ofWords? word arguments with
    | none => rfl
    | some directive => exact (other directive (Directive.lower_of_ofWords? claimed)).elim
  simp only [Directive.ofStatement?, String.toList_ofList, first, unclaimed, Option.map_none]

/-- No statement that a line gives is one for the shell itself. -/
theorem undirected_of_derived {line statement : String}
    (member : statement ∈ sample.derived line) : Directive.ofStatement? statement = none := by
  have drop (rest : List Char) :
      Directive.ofStatement? (String.ofList ("DROP".toList ++ ' ' :: rest)) = none := by
    refine undirected_of_word rest (by simp [isBlank]) (by decide) fun directive => ?_
    cases directive with
    | set | reset | add | delete => decide
  have create (rest : List Char) :
      Directive.ofStatement? (String.ofList ("CREATE".toList ++ ' ' :: rest)) = none := by
    refine undirected_of_word rest (by simp [isBlank]) (by decide) fun directive => ?_
    cases directive with
    | set | reset | add | delete => decide
  rw [derived] at member
  cases made : sample.statements? line with
  | none =>
      rw [made] at member
      cases member
  | some pair =>
      have accepted := statementsFor_of_some made
      rw [made] at member
      simp only [statementsFor] at accepted
      split at accepted
      · cases accepted
      · cases accepted
        rcases List.mem_pair.mp member with rfl | rfl
        · exact drop _
        · exact create _

section Fields

variable {fields other : List (List Char)}

theorem keyed_congr (same : fields.map trim = other.map trim) :
    sample.keyed fields = sample.keyed other := by
  rw [keyed, keyed, same]

theorem frequency_congr (same : fields.map trim = other.map trim) (index : Nat) :
    (fields[index]?.bind fun field => Decimal.binary64OfText? (trim field)) =
      other[index]?.bind fun field => Decimal.binary64OfText? (trim field) := by
  have through (each : List (List Char)) :
      (each[index]?.bind fun field => Decimal.binary64OfText? (trim field)) =
        (each.map trim)[index]?.bind Decimal.binary64OfText? := by
    rw [List.getElem?_map, Option.bind_map]
    rfl
  rw [through, through, same]

theorem statements?_congr {first second : String}
    (same : (pieces (· = '\t') first.toList).map trim = (pieces (· = '\t') second.toList).map trim) :
    sample.statements? first = sample.statements? second := by
  simp only [statements?, statementsFor, sampleTable, sampleQuery, keyed_congr same,
    frequency_congr same]
  split
  · rfl
  · rfl

theorem statements?_withoutReturn (sample : Sample) (row : String) :
    sample.statements? (String.ofList (withoutReturn row.toList)) = sample.statements? row := by
  refine statements?_congr ?_
  rw [String.toList_ofList]
  exact map_trim_pieces_withoutReturn rfl row.toList

end Fields

def share (sample : Sample) (frequency : Binary64) : List Char :=
  if sample.limit.less frequency then
    " samplewith ".toList ++ (Shortest.text (sample.limit.divide frequency)).toList
  else []

/-- A row of keys and a number gives two statements on one table. The second one restricts the base
to the rows in which each column has its key. -/
theorem statementsFor_keys (sample : Sample) {keys : List (List Char)} {number : List Char}
    {frequency : Binary64} (count : keys.length = sample.columns.length)
    (neat : ∀ key ∈ keys, trim key = key) (free : ∀ key ∈ keys, '\t' ∉ key)
    (number_free : '\t' ∉ number) (numeric : Decimal.binary64OfText? (trim number) = some frequency) :
    ∃ table, sample.statementsFor (String.ofList (['\t'].intercalate (keys ++ [number]))) =
      .ok (String.ofList ("DROP TABLE ".toList ++ table),
        String.ofList ("CREATE TABLE ".toList ++ table ++ " AS ".toList ++
          (sample.base ++ " where ".toList ++
            (" AND ".toList).intercalate
              (sample.columns.zipWith (fun column key => column ++ " = ".toList ++ key) keys) ++
            sample.share frequency))) := by
  have whole : ∀ field ∈ keys ++ [number], '\t' ∉ field := by
    rw [List.forall_mem_append, List.forall_mem_singleton]
    exact ⟨free, number_free⟩
  have fields : pieces (· = '\t') (['\t'].intercalate (keys ++ [number])) = keys ++ [number] :=
    pieces_intercalate '\t' (by simp) whole
  have trimmed : keys.map trim = keys :=
    (List.map_congr_left neat).trans (List.map_id' keys)
  have zipped : sample.keyed (keys ++ [number]) = sample.columns.zip keys := by
    have beside : (sample.columns ++ []).zip (keys ++ [trim number]) =
        sample.columns.zip keys ++ [].zip [trim number] := List.zip_append count.symm
    rw [List.append_nil, List.zip_nil_left, List.append_nil] at beside
    rw [keyed, List.map_append, trimmed, List.map_singleton]
    exact beside
  have last : (keys ++ [number])[sample.columns.length]? = some number := by
    rw [← count]
    exact List.getElem?_concat_length
  refine ⟨sample.sampleTable (keys ++ [number]), ?_⟩
  simp only [statementsFor, String.toList_ofList, fields, last, Option.bind_some, numeric,
    sampleQuery, zipped, share, List.map_zip_eq_zipWith]
  rfl

end Sample

end QueryShell
