import QueryShell.Proofs.Number.Literal
import QueryShell.Proofs.Text.Bytes
import QueryShell.Proofs.Text.Lines
import QueryShell.Sample

/-!
How a statement is written that a sample can be taken from. Its parts are found by their markers and
give the statement back when they are put together, and a marker is found in the bytes of a text
where it is found in its characters.
-/

namespace QueryShell.Sample

open Text

variable {text base marker columns rest : List Char} {statement limit : List Char}

structure Marked (text base marker columns : List Char) : Prop where
  parts : text = base ++ marker ++ columns
  cased : lowerAscii marker = biasMarker
  first : FirstAt biasMarker (lowerAscii text) base.length

theorem cutMarker?_eq (text : List Char) :
    cutMarker? text = (cutAt? biasMarker (lowerAscii text)).map fun cut =>
      (text.take cut.1.length, text.drop cut.1.length) := by
  induction text with
  | nil => rfl
  | cons char rest ih =>
      have here : lowerAscii ((char :: rest).take biasMarker.length) = biasMarker ↔
          biasMarker.isPrefixOf (lowerAscii (char :: rest)) = true := by
        rw [List.isPrefixOf_iff_prefix, List.prefix_iff_eq_take, lowerAscii, List.map_take, eq_comm]
        rfl
      have later : lowerAscii (char :: rest) = char.toLower :: lowerAscii rest := rfl
      simp only [cutMarker?, here]
      rw [later] at here ⊢
      simp only [cutAt?]
      split
      · simp
      · rw [ih, Option.map_map, Option.map_map]
        rfl

theorem lowerAscii_append (first second : List Char) :
    lowerAscii (first ++ second) = lowerAscii first ++ lowerAscii second := List.map_append

theorem length_lowerAscii (text : List Char) : (lowerAscii text).length = text.length :=
  List.length_map _

theorem Marked.cutMarker? (marked : Marked text base marker columns) :
    cutMarker? text = some (base, marker ++ columns) := by
  obtain ⟨rfl, cased, first⟩ := marked
  have lowered : lowerAscii (base ++ marker ++ columns) =
      lowerAscii base ++ biasMarker ++ lowerAscii columns := by
    rw [lowerAscii_append, lowerAscii_append, cased]
  have cut : cutAt? biasMarker (lowerAscii (base ++ marker ++ columns)) =
      some (lowerAscii base, lowerAscii columns) := by
    refine cutAt?_eq_some_iff.mpr ⟨lowered, ?_⟩
    rwa [length_lowerAscii]
  rw [cutMarker?_eq, cut, Option.map_some, length_lowerAscii, List.append_assoc, List.take_left,
    List.drop_left]

/-- The first marker of a text in lower case is one of the text itself. -/
theorem exists_marked {before after : List Char}
    (parts : lowerAscii text = before ++ biasMarker ++ after)
    (first : FirstAt biasMarker (lowerAscii text) before.length) :
    ∃ base marker columns, before = lowerAscii base ∧ Marked text base marker columns := by
  obtain ⟨front, columns, rfl, lowered, -⟩ := List.map_eq_append_iff.mp parts
  obtain ⟨base, marker, rfl, rfl, cased⟩ := List.map_eq_append_iff.mp lowered
  rw [List.length_map] at first
  exact ⟨base, marker, columns, rfl, rfl, cased, first⟩

theorem cutMarker?_eq_some_iff : cutMarker? text = some (base, rest) ↔
    ∃ marker columns, rest = marker ++ columns ∧ Marked text base marker columns := by
  constructor
  · intro cut
    have found := cut
    rw [cutMarker?_eq] at found
    obtain ⟨⟨before, after⟩, found, -⟩ := Option.map_eq_some_iff.mp found
    obtain ⟨parts, first⟩ := cutAt?_eq_some_iff.mp found
    obtain ⟨front, marker, columns, -, marked⟩ := exists_marked parts first
    cases marked.cutMarker?.symm.trans cut
    exact ⟨marker, columns, rfl, marked⟩
  · rintro ⟨marker, columns, rfl, marked⟩
    exact marked.cutMarker?

theorem isSome_cutMarker? : (cutMarker? text).isSome = true ↔ biasMarker <:+: lowerAscii text := by
  rw [cutMarker?_eq, Option.isSome_map, isSome_cutAt?]

theorem isSome_cutMarker?_iff_marked : (cutMarker? text).isSome = true ↔
    ∃ base marker columns, Marked text base marker columns := by
  constructor
  · intro found
    obtain ⟨⟨base, rest⟩, cut⟩ := Option.isSome_iff_exists.mp found
    obtain ⟨marker, columns, -, marked⟩ := cutMarker?_eq_some_iff.mp cut
    exact ⟨base, marker, columns, marked⟩
  · rintro ⟨base, marker, columns, marked⟩
    rw [marked.cutMarker?]
    rfl

/-- The text in front of a marker that comes first has none itself. -/
theorem Marked.absent (marked : Marked text base marker columns) :
    ¬biasMarker <:+: lowerAscii base := by
  rintro ⟨front, back, parts⟩
  obtain ⟨rfl, -, first⟩ := marked
  have length := congrArg List.length parts
  rw [length_lowerAscii, List.length_append, List.length_append] at length
  have size : 0 < biasMarker.length := by decide
  refine first.first front.length (by omega) ?_
  rw [List.append_assoc, lowerAscii_append, ← parts, List.append_assoc, List.append_assoc,
    List.drop_left]
  exact List.prefix_append _ _

inductive UpToLimit (text : List Char) : List Char → Prop
  | marked {limit after : List Char} (parts : text = limit ++ limitMarker ++ after)
      (first : FirstAt limitMarker text limit.length) : UpToLimit text limit
  | whole (absent : ¬limitMarker <:+: text) : UpToLimit text text

theorem upToLimit_iff : UpToLimit text limit ↔
    limit = match cutAt? limitMarker text with
      | some (before, _) => before
      | none => text := by
  constructor
  · rintro (⟨parts, first⟩ | absent)
    · rw [cutAt?_eq_some_iff.mpr ⟨parts, first⟩]
    · rw [cutAt?_eq_none_iff.mpr absent]
  · rintro rfl
    split
    · rename_i cut
      obtain ⟨parts, first⟩ := cutAt?_eq_some_iff.mp cut
      exact .marked parts first
    · rename_i none
      exact .whole (cutAt?_eq_none_iff.mp none)

/-- How a statement is written that can be taken apart: a base, the first bias marker in front of the
first limit marker, the columns between the two, and a limit up to the next limit marker. -/
structure Written (statement base marker columns rest limit : List Char) : Prop where
  parts : statement = base ++ marker ++ columns ++ limitMarker ++ rest
  limited : FirstAt limitMarker statement (base ++ marker ++ columns).length
  marked : Marked (base ++ marker ++ columns) base marker columns
  upTo : UpToLimit rest limit
  numeric : Decimal.Literal (trim limit)
  named : ∀ column ∈ columns.splitOn ',', ∃ char ∈ column, isBlank char = false

theorem any_isEmpty_map_trim {parts : List (List Char)} :
    (parts.map trim).any List.isEmpty = false ↔
      ∀ part ∈ parts, ∃ char ∈ part, isBlank char = false := by
  simp only [List.any_eq_false, List.mem_map, List.isEmpty_iff, forall_exists_index, and_imp,
    forall_apply_eq_imp_iff₂, trim_eq_nil_iff]
  simp

theorem Marked.drop_marker (marked : Marked text base marker columns) :
    (marker ++ columns).drop biasMarker.length = columns := by
  rw [← marked.cased, length_lowerAscii, List.drop_left]

theorem ofChars?_eq_some_iff {sample : Sample} : ofChars? statement = some sample ↔
    ∃ marker rest limit,
      Written statement sample.base marker sample.columnsText rest limit ∧
      sample.command = sample.base ++ marker ++ sample.columnsText ∧
      sample.columns = (sample.columnsText.splitOn ',').map trim ∧
      Decimal.binary64OfText? (trim limit) = some sample.limit := by
  constructor
  · intro taken
    simp only [ofChars?, Option.bind_eq_bind, Option.bind_eq_some_iff] at taken
    obtain ⟨⟨command, rest⟩, cut, value, read, ⟨base, fromMarker⟩, cutMarker, named⟩ := taken
    obtain ⟨marker, columns, rfl, marked⟩ := cutMarker?_eq_some_iff.mp cutMarker
    obtain ⟨parts, limited⟩ := cutAt?_eq_some_iff.mp cut
    simp only [marked.drop_marker, pieces_eq_splitOn] at named
    split at named
    · cases named
    · rename_i filled
      obtain rfl := Option.some.inj named
      obtain rfl := marked.parts
      have literal := Decimal.isSome_binary64OfText?.mp (Option.isSome_of_eq_some read)
      have pieces := any_isEmpty_map_trim.mp (Bool.not_eq_true _ ▸ filled)
      exact ⟨marker, rest, _, ⟨parts, limited, marked, upToLimit_iff.mpr rfl, literal, pieces⟩,
        rfl, rfl, read⟩
  · rintro ⟨marker, rest, limit, ⟨parts, limited, marked, upTo, -, named⟩, command, listed, read⟩
    have cut : cutAt? limitMarker statement = some (sample.command, rest) := by
      rw [command]
      exact cutAt?_eq_some_iff.mpr ⟨parts, limited⟩
    have cutMarker : Sample.cutMarker? sample.command =
        some (sample.base, marker ++ sample.columnsText) := by
      rw [command]
      exact marked.cutMarker?
    obtain rfl := upToLimit_iff.mp upTo
    have filled := any_isEmpty_map_trim.mpr named
    rw [← listed] at filled
    simp only [ofChars?, cut, Option.bind_eq_bind, Option.bind_some, cutMarker,
      marked.drop_marker, pieces_eq_splitOn, ← listed, filled]
    exact Option.bind_eq_some_iff.mpr ⟨sample.limit, read, rfl⟩

theorem ofStatement_eq_ok_iff {statement : String} {sample : Sample} :
    ofStatement statement = .ok sample ↔ ofChars? statement.toList = some sample := by
  rw [ofStatement]
  cases ofChars? statement.toList with
  | none => simp
  | some other => simp

section Bytes

theorem ascii_biasMarker : Ascii biasMarker := by decide +kernel

theorem ascii_limitMarker : Ascii limitMarker := by decide +kernel

theorem Marked.length_bytes (marked : Marked text base marker columns) :
    (bytes marker).length = biasMarker.length := by
  rw [← length_bytes_lowerAscii, marked.cased]
  decide

/-- A search of the bytes in lower case stops where the characters have their marker. -/
theorem firstAt_lowered_iff {place : Nat} :
    FirstAt (bytes biasMarker) ((bytes text).map lowerByte) place ↔
      ∃ base marker columns, Marked text base marker columns ∧ place = (bytes base).length := by
  rw [map_lowerByte_bytes, firstAt_bytes_iff ascii_biasMarker (by decide)]
  constructor
  · rintro ⟨before, after, parts, first, rfl⟩
    obtain ⟨base, marker, columns, rfl, marked⟩ := exists_marked parts first
    exact ⟨base, marker, columns, marked, length_bytes_lowerAscii base⟩
  · rintro ⟨base, marker, columns, ⟨rfl, cased, first⟩, rfl⟩
    refine ⟨lowerAscii base, lowerAscii columns, ?_, ?_, (length_bytes_lowerAscii base).symm⟩
    · rw [lowerAscii_append, lowerAscii_append, cased]
    · rwa [length_lowerAscii]

end Bytes

/-- A statement can be taken apart exactly if it is written as the grammar says. Its parts give it
back byte for byte, the base has no marker, and the columns are the trimmed pieces in their order.
Whatever a text is, the search of its bytes for a marker agrees with that of its characters, so
that no part of it begins or ends inside a character. -/
theorem taken_apart_iff_written (statement : String) :
    ((∃ sample, ofStatement statement = .ok sample) ↔
      ∃ base marker columns rest limit,
        Written statement.toList base marker columns rest limit) ∧
    (∀ sample, ofStatement statement = .ok sample → ∃ marker rest limit,
      Written statement.toList sample.base marker sample.columnsText rest limit ∧
      statement.toUTF8 = (bytes sample.base ++ bytes marker ++ bytes sample.columnsText ++
        bytes limitMarker ++ bytes rest).toByteArray ∧
      ¬biasMarker <:+: lowerAscii sample.base ∧
      sample.columns = (sample.columnsText.splitOn ',').map trim ∧
      Decimal.binary64OfText? (trim limit) = some sample.limit) ∧
    ∀ text : String,
      (∀ place, FirstAt (bytes limitMarker) (bytes text.toList) place →
        String.Pos.Raw.IsValid text ⟨place⟩ ∧
        String.Pos.Raw.IsValid text ⟨place + limitMarker.length⟩) ∧
      ((cutMarker? text.toList).isSome = true ↔
        ∃ place, FirstAt (bytes biasMarker) ((bytes text.toList).map lowerByte) place) ∧
      ∀ place, FirstAt (bytes biasMarker) ((bytes text.toList).map lowerByte) place →
        String.Pos.Raw.IsValid text ⟨place⟩ ∧
        String.Pos.Raw.IsValid text ⟨place + biasMarker.length⟩ ∧
        ∃ base marker columns, cutMarker? text.toList = some (base, marker ++ columns) ∧
          bytes base = (bytes text.toList).take place ∧
          bytes columns = (bytes text.toList).drop (place + biasMarker.length) := by
  refine ⟨⟨?_, ?_⟩, ?_, fun text => ⟨?_, ?_, ?_⟩⟩
  · rintro ⟨sample, taken⟩
    obtain ⟨marker, rest, limit, written, -⟩ :=
      ofChars?_eq_some_iff.mp (ofStatement_eq_ok_iff.mp taken)
    exact ⟨sample.base, marker, sample.columnsText, rest, limit, written⟩
  · rintro ⟨base, marker, columns, rest, limit, written⟩
    obtain ⟨value, read⟩ :=
      Option.isSome_iff_exists.mp (Decimal.isSome_binary64OfText?.mpr written.numeric)
    let sample : Sample :=
      ⟨base ++ marker ++ columns, base, columns, (columns.splitOn ',').map trim, value⟩
    have taken : ofChars? statement.toList = some sample :=
      ofChars?_eq_some_iff.mpr ⟨marker, rest, limit, written, rfl, rfl, read⟩
    exact ⟨sample, ofStatement_eq_ok_iff.mpr taken⟩
  · intro sample taken
    obtain ⟨marker, rest, limit, written, -, listed, read⟩ :=
      ofChars?_eq_some_iff.mp (ofStatement_eq_ok_iff.mp taken)
    refine ⟨marker, rest, limit, written, ?_, written.marked.absent, listed, read⟩
    rw [toUTF8_eq, written.parts]
    simp only [bytes_append]
  · intro place found
    obtain ⟨before, after, parts, -, rfl⟩ :=
      (firstAt_bytes_iff ascii_limitMarker (by decide)).mp found
    have start := isValid_of_append (parts.trans (List.append_assoc _ _ _))
    have stop := isValid_of_append parts
    rw [bytes_append, List.length_append] at stop
    exact ⟨start, stop⟩
  · rw [isSome_cutMarker?_iff_marked]
    constructor
    · rintro ⟨base, marker, columns, marked⟩
      exact ⟨_, firstAt_lowered_iff.mpr ⟨base, marker, columns, marked, rfl⟩⟩
    · rintro ⟨place, found⟩
      obtain ⟨base, marker, columns, marked, -⟩ := firstAt_lowered_iff.mp found
      exact ⟨base, marker, columns, marked⟩
  · intro place found
    obtain ⟨base, marker, columns, marked, rfl⟩ := firstAt_lowered_iff.mp found
    have stop := isValid_of_append marked.parts
    rw [bytes_append, List.length_append, marked.length_bytes] at stop
    refine ⟨isValid_of_append (marked.parts.trans (List.append_assoc _ _ _)), stop, base, marker,
      columns, marked.cutMarker?, ?_, ?_⟩
    · rw [marked.parts, List.append_assoc, bytes_append, List.take_left]
    · rw [← marked.length_bytes, ← List.length_append, marked.parts, ← bytes_append,
        bytes_append (base ++ marker), List.drop_left]

theorem taken_apart_iff_written_beside_later_markers :
    let text := "select \u212A from ſ BiAs ON é*, b bias on c limit= +2.5E1 limit=x"
    ∃ sample, ofStatement text = .ok sample ∧
      sample.columns = ["é*".toList, "b bias on c".toList] ∧
      (∃ base marker columns rest limit, Written text.toList base marker columns rest limit) ∧
      ¬biasMarker <:+: lowerAscii sample.base ∧
      FirstAt (bytes biasMarker) ((bytes text.toList).map lowerByte) 19 ∧
      String.Pos.Raw.IsValid text ⟨19⟩ ∧ String.Pos.Raw.IsValid text ⟨26⟩ ∧
      FirstAt (bytes limitMarker) (bytes text.toList) 44 ∧ String.Pos.Raw.IsValid text ⟨44⟩ := by
  intro text
  let sample : Sample :=
    { command := "select \u212A from ſ BiAs ON é*, b bias on c ".toList
      base := "select \u212A from ſ ".toList
      columnsText := " é*, b bias on c ".toList
      columns := ["é*".toList, "b bias on c".toList]
      limit := .finite false 7036874417766400 (-48) }
  have found : ofChars? text.toList = some sample := by decide +kernel
  have taken : ofStatement text = .ok sample := ofStatement_eq_ok_iff.mpr found
  have marked : FirstAt (bytes biasMarker) ((bytes text.toList).map lowerByte) 19 :=
    ⟨by decide +kernel, by decide +kernel⟩
  have limited : FirstAt (bytes limitMarker) (bytes text.toList) 44 :=
    ⟨by decide +kernel, by decide +kernel⟩
  obtain ⟨accepted, parts, places⟩ := taken_apart_iff_written text
  obtain ⟨marker, rest, limit, -, -, absent, -⟩ := parts sample taken
  obtain ⟨at_limit, -, at_marker⟩ := places text
  obtain ⟨start, stop, -⟩ := at_marker 19 marked
  exact ⟨sample, taken, rfl, accepted.mp ⟨sample, taken⟩, absent, marked, start, stop, limited,
    (at_limit 44 limited).1⟩

end QueryShell.Sample
