import QueryShell.Failure
import QueryShell.Number.Decimal
import QueryShell.Number.Shortest
import QueryShell.Text.Case
import QueryShell.Text.Search

/-!
Biased samples. A statement

  select * from <table> bias on <column>[,<column>]* limit=<n>

is not run as written. A grouped count gives one line per distinct key, and each line gives a pair
of statements that drop and create the sample table of its key. A key that is more frequent than `n`
is sampled with the ratio of `n` to its frequency. The statement is taken apart by its markers only.
-/

namespace QueryShell

open Text

structure Sample where
  command : List Char
  base : List Char
  columnsText : List Char
  columns : List (List Char)
  limit : Binary64
deriving DecidableEq, Repr

namespace Sample

def biasMarker : List Char := "bias on".toList

def limitMarker : List Char := "limit=".toList

def cutMarker? : List Char → Option (List Char × List Char)
  | [] => none
  | char :: rest =>
      if lowerAscii ((char :: rest).take biasMarker.length) = biasMarker then some ([], char :: rest)
      else (cutMarker? rest).map fun (before, after) => (char :: before, after)

def isBiased (statement : String) : Bool := (cutMarker? statement.toList).isSome

def usage : Failure :=
  .usage "select * from <table> bias on <column>[,<column>]* limit=<n>"

def ofChars? (statement : List Char) : Option Sample := do
  let (command, afterLimit) ← cutAt? limitMarker statement
  let limitText := match cutAt? limitMarker afterLimit with
    | some (before, _) => before
    | none => afterLimit
  let limit ← Decimal.binary64OfText? (trim limitText)
  let (base, fromMarker) ← cutMarker? command
  let columnsText := fromMarker.drop biasMarker.length
  let columns := (pieces (· = ',') columnsText).map trim
  if columns.any List.isEmpty then none
  else some { command, base, columnsText, columns, limit }

def ofStatement (statement : String) : Except Failure Sample :=
  match ofChars? statement.toList with
  | some sample => .ok sample
  | none => .error usage

def summaryQuery (sample : Sample) : String :=
  let counted := substitute '*' (sample.columnsText ++ ",count(*)".toList) sample.command
  let head := match cutMarker? counted with
    | some (before, _) => before
    | none => counted
  String.ofList (head ++ " group by ".toList ++ sample.columnsText)

def table (sample : Sample) : List Char := (words sample.base).getLast?.getD []

def sanitize (name : List Char) : List Char :=
  (substitute '.' "POINT".toList name).filter (· ≠ '"')

def keyed (sample : Sample) (fields : List (List Char)) : List (List Char × List Char) :=
  sample.columns.zip (fields.map trim)

def sampleTable (sample : Sample) (fields : List (List Char)) : List Char :=
  sanitize ("qsh_sample_".toList ++ sample.table ++ ['_'] ++
      (toString sample.limit.toInt64).toList) ++
    (sample.keyed fields).flatMap fun (column, key) => ['_'] ++ column ++ ['_'] ++ key

def sampleQuery (sample : Sample) (fields : List (List Char)) (frequency : Binary64) : List Char :=
  let conditions := (sample.keyed fields).map fun (column, key) => column ++ " = ".toList ++ key
  let share :=
    if sample.limit.less frequency then
      " samplewith ".toList ++ (Shortest.text (sample.limit.divide frequency)).toList
    else []
  sample.base ++ " where ".toList ++ (" AND ".toList).intercalate conditions ++ share

def statementsFor (sample : Sample) (line : String) : Except Failure (String × String) :=
  let fields := pieces (· = '\t') line.toList
  match fields[sample.columns.length]?.bind fun field => Decimal.binary64OfText? (trim field) with
  | none => .error (.usage ("malformed key summary line: " ++ line))
  | some frequency =>
      let table := sample.sampleTable fields
      .ok (String.ofList ("DROP TABLE ".toList ++ table),
        String.ofList ("CREATE TABLE ".toList ++ table ++ " AS ".toList ++
          sample.sampleQuery fields frequency))

end Sample

end QueryShell
