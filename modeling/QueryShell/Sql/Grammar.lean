import QueryShell.Sql.Token

/-!
The queries of SQL. Each reader takes a construct off the front of some tokens and gives the tokens
after it, or nothing if they do not begin with the construct. Every nesting and every item of a list
uses up one unit of fuel.
-/

namespace QueryShell.Sql.Grammar

abbrev Reader := List Token → Option (List Token)

def keyword (word : String) : Reader
  | .word upper :: rest => if upper = word then some rest else none
  | _ => none

def keywords (words : List String) : Reader := fun tokens =>
  words.foldlM (fun tokens word => keyword word tokens) tokens

def symbol (text : String) : Reader
  | .symbol found :: rest => if found = text then some rest else none
  | _ => none

def oneOf (words : List String) : Reader
  | .word upper :: rest => if upper ∈ words then some rest else none
  | _ => none

def maybe (reader : Reader) (tokens : List Token) : List Token := (reader tokens).getD tokens

def maybeThen (first second : Reader) : Reader := fun tokens =>
  match first tokens with
  | some rest => second rest
  | none => some tokens

def identifier : Reader
  | .word _ :: rest => some rest
  | .name :: rest => some rest
  | .quoted :: rest => some rest
  | _ => none

def list (item : Reader) : Nat → Reader
  | 0, _ => none
  | fuel + 1, tokens => do
      let rest ← item tokens
      match symbol "," rest with
      | some rest => list item fuel rest
      | none => return rest

def listOf (item : Reader) : Reader := fun tokens => list item (tokens.length + 1) tokens

def dotted : Nat → Reader
  | 0, _ => none
  | fuel + 1, tokens => do
      let rest ← identifier tokens
      match symbol "." rest with
      | some rest => dotted fuel rest
      | none => return rest

def objectName : Reader := fun tokens => dotted (tokens.length + 1) tokens

def parenthesized (inside : Reader) : Reader := fun tokens => do
  symbol ")" (← inside (← symbol "(" tokens))

def noTableAlias : List String :=
  ["WITH", "EXPLAIN", "ANALYZE", "SELECT", "WHERE", "GROUP", "SORT", "HAVING", "ORDER", "PIVOT",
   "UNPIVOT", "TOP", "LATERAL", "VIEW", "LIMIT", "OFFSET", "FETCH", "UNION", "EXCEPT",
   "INTERSECT", "ON", "JOIN", "INNER", "CROSS", "FULL", "LEFT", "RIGHT", "NATURAL", "USING",
   "CLUSTER", "DISTRIBUTE", "GLOBAL", "ANTI", "SEMI", "RETURNING", "OUTER", "SET", "QUALIFY",
   "WINDOW", "END", "FOR", "PARTITION", "PREWHERE", "SETTINGS", "FORMAT", "START", "CONNECT",
   "MATCH_RECOGNIZE"]

def noColumnAlias : List String :=
  ["WITH", "EXPLAIN", "ANALYZE", "SELECT", "WHERE", "GROUP", "SORT", "HAVING", "ORDER", "TOP",
   "LATERAL", "VIEW", "LIMIT", "OFFSET", "FETCH", "UNION", "EXCEPT", "INTERSECT", "CLUSTER",
   "DISTRIBUTE", "RETURNING", "FROM", "INTO", "END"]

def aliasUnless (reserved : List String) : Reader := fun tokens =>
  match keyword "AS" tokens with
  | some rest => identifier rest
  | none =>
      match tokens with
      | .word upper :: rest => if upper ∈ reserved then some tokens else some rest
      | .name :: rest => some rest
      | .quoted :: rest => some rest
      | _ => some tokens

def aliasColumns : Reader := fun tokens =>
  match tokens with
  | .symbol "(" :: _ => parenthesized (listOf identifier) tokens
  | _ => some tokens

def tableAlias : Reader := fun tokens => do
  let rest ← aliasUnless noTableAlias tokens
  if rest.length < tokens.length then aliasColumns rest else return rest

def typeWords : List String :=
  ["BOOLEAN", "BOOL", "FLOAT", "REAL", "FLOAT4", "FLOAT8", "TINYINT", "SMALLINT", "INT2", "INT",
   "INT4", "INTEGER", "BIGINT", "INT8", "VARCHAR", "NVARCHAR", "CHARACTER", "CHAR", "CLOB",
   "BINARY", "VARBINARY", "BLOB", "BYTES", "UUID", "DATE", "DATETIME", "TIMESTAMP", "TIMESTAMPTZ",
   "TIME", "TIMETZ", "JSON", "JSONB", "REGCLASS", "STRING", "TEXT", "BYTEA", "NUMERIC", "DECIMAL",
   "DEC"]

def scaleItem : Reader
  | .number :: rest => some rest
  | .word _ :: rest => some rest
  | .quoted :: rest => some rest
  | _ => none

def precision : Reader := fun tokens =>
  match tokens with
  | .symbol "(" :: _ => parenthesized (listOf scaleItem) tokens
  | _ => some tokens

def timeZone : Reader := fun tokens =>
  maybeThen (oneOf ["WITH", "WITHOUT"]) (keywords ["TIME", "ZONE"]) tokens

def arrays : Nat → Reader
  | 0, tokens => some tokens
  | fuel + 1, tokens =>
      match tokens with
      | .symbol "[" :: .symbol "]" :: rest => arrays fuel rest
      | .symbol "[" :: .number :: .symbol "]" :: rest => arrays fuel rest
      | _ => some tokens

def scalarType : Reader
  | .word upper :: rest =>
      if upper = "DOUBLE" then some (maybe (keyword "PRECISION") rest)
      else if upper = "CHARACTER" || upper = "CHAR" then
        precision (maybe (oneOf ["VARYING", "LARGE"]) rest)
      else if upper = "TIMESTAMP" || upper = "TIME" then do timeZone (← precision rest)
      else if upper ∈ typeWords then precision rest
      else do precision (← objectName (.word upper :: rest))
  | tokens => do precision (← objectName tokens)

def dataType : Reader := fun tokens => do arrays tokens.length (← scalarType tokens)

def typedLiteral : Reader := fun tokens =>
  match tokens with
  | .word upper :: _ =>
      if upper ∈ typeWords || upper = "DOUBLE" then
        match scalarType tokens with
        | some (.quoted :: rest) => some rest
        | some (.literal :: rest) => some rest
        | _ => none
      else none
  | _ => none

def unitWords : List String :=
  ["YEAR", "MONTH", "WEEK", "DAY", "DATE", "HOUR", "MINUTE", "SECOND", "CENTURY", "DECADE", "DOW",
   "DOY", "EPOCH", "ISODOW", "ISOWEEK", "ISOYEAR", "JULIAN", "MICROSECOND", "MICROSECONDS",
   "MILLENIUM", "MILLENNIUM", "MILLISECOND", "MILLISECONDS", "NANOSECOND", "NANOSECONDS",
   "QUARTER", "TIMEZONE", "TIMEZONE_HOUR", "TIMEZONE_MINUTE"]

def intervalUnit : Reader := fun tokens =>
  match oneOf unitWords tokens with
  | none => some tokens
  | some rest => do
      let rest ← precision rest
      match keyword "TO" rest with
      | some rest => do precision (← oneOf unitWords rest)
      | none => return rest

def strength : List Token → Nat
  | .word "OR" :: _ => 10
  | .word "XOR" :: _ => 75
  | .word "AND" :: _ => 20
  | .word "AT" :: .word "TIME" :: .word "ZONE" :: _ => 110
  | .word "NOT" :: .word next :: _ =>
      if next ∈ ["IN", "BETWEEN", "LIKE", "ILIKE", "SIMILAR", "REGEXP", "RLIKE"] then 60 else 0
  | .word "IS" :: _ => 40
  | .word "DIV" :: _ => 90
  | .word "COLLATE" :: _ => 120
  | .word upper :: _ =>
      if upper ∈ ["IN", "BETWEEN", "OVERLAPS", "LIKE", "ILIKE", "SIMILAR", "REGEXP", "RLIKE",
        "OPERATOR"] then 60 else 0
  | .symbol "::" :: _ => 140
  | .symbol "[" :: _ => 130
  | .symbol "^" :: _ => 100
  | .symbol text :: _ =>
      if text ∈ ["*", "/", "%"] then 90
      else if text ∈ ["+", "-"] then 80
      else if text ∈ ["=", "<", "<=", "<>", "!=", ">", ">=", "<=>"] then 50
      else if text ∈ ["~", "~*", "!~", "!~*", "~~", "~~*", "!~~", "!~~*", "^@", "->", "->>", "#>",
        "#>>", "#-", "@>", "<@", "@?", "@@", "?", "?|", "?&", "||", "&&", "|", "&", "#", "<<",
        ">>", "!"] then 70
      else 0
  | _ => 0

def comparisons : List String := ["=", "<", "<=", "<>", "!=", ">", ">="]

def wildcard : Reader := fun tokens =>
  let rec after : Nat → Reader
    | 0, _ => none
    | fuel + 1, .symbol "." :: .symbol "*" :: rest => if fuel = 0 then none else some rest
    | fuel + 1, .symbol "." :: rest => do after fuel (← identifier rest)
    | _, _ => none
  match tokens with
  | .symbol "*" :: rest => some rest
  | _ => do after (tokens.length + 1) (← identifier tokens)

def nullsOrder : Reader := fun tokens =>
  maybeThen (keyword "NULLS") (oneOf ["FIRST", "LAST"]) (maybe (oneOf ["ASC", "DESC"]) tokens)

def members : Nat → Reader
  | 0, tokens => some tokens
  | fuel + 1, tokens =>
      match tokens with
      | .symbol "." :: .symbol "*" :: rest => some rest
      | .symbol "." :: rest => do members fuel (← identifier rest)
      | _ => some tokens

def fetchClause : Reader := fun tokens =>
  match keyword "FETCH" tokens with
  | none => some tokens
  | some rest => do
      let rest ← oneOf ["FIRST", "NEXT"] rest
      let rest ← match oneOf ["ROW", "ROWS"] rest with
        | some rest => some rest
        | none =>
            match rest with
            | .number :: rest => oneOf ["ROW", "ROWS"] (maybe (keyword "PERCENT") rest)
            | .placeholder :: rest => oneOf ["ROW", "ROWS"] (maybe (keyword "PERCENT") rest)
            | _ => none
      (keyword "ONLY" rest).or (keywords ["WITH", "TIES"] rest)

def locks : Nat → Reader
  | 0, _ => none
  | fuel + 1, tokens =>
      match keyword "FOR" tokens with
      | none => some tokens
      | some rest => do
          let rest ← oneOf ["UPDATE", "SHARE"] rest
          let rest ← maybeThen (keyword "OF") objectName rest
          locks fuel (maybe (fun tokens =>
            (keyword "NOWAIT" tokens).or (keywords ["SKIP", "LOCKED"] tokens)) rest)

inductive Join where
  | none
  | malformed
  | found (constrained : Bool) (rest : List Token)

def joinWords (tokens : List Token) : Join :=
  let sided (constrained : Bool) (rest : List Token) : Join :=
    match keyword "JOIN" (maybe (oneOf ["OUTER", "SEMI", "ANTI"]) rest) with
    | some rest => .found constrained rest
    | .none => .malformed
  let plain (constrained : Bool) (rest : List Token) : Join :=
    match keyword "JOIN" rest with
    | some rest => .found constrained rest
    | .none => .malformed
  match tokens with
  | .word "CROSS" :: rest => plain false rest
  | .word "NATURAL" :: rest =>
      match rest with
      | .word "JOIN" :: rest => .found false rest
      | .word "INNER" :: rest => plain false rest
      | .word "LEFT" :: rest => sided false rest
      | .word "RIGHT" :: rest => sided false rest
      | .word "FULL" :: rest => plain false (maybe (keyword "OUTER") rest)
      | _ => .malformed
  | .word "JOIN" :: rest => .found true rest
  | .word "INNER" :: rest => plain true rest
  | .word "LEFT" :: rest => sided true rest
  | .word "RIGHT" :: rest => sided true rest
  | .word "ANTI" :: rest => plain true rest
  | .word "SEMI" :: rest => plain true rest
  | .word "FULL" :: rest => plain true (maybe (keyword "OUTER") rest)
  | .word "OUTER" :: _ => .malformed
  | _ => .none

mutual

def expression : Nat → Nat → Reader
  | 0, _, _ => none
  | fuel + 1, level, tokens => do
      let rest ← operand fuel tokens
      operators fuel level (← maybeThen (keyword "COLLATE") objectName rest)

def operators : Nat → Nat → Reader
  | 0, _, _ => none
  | fuel + 1, level, tokens =>
      if strength tokens ≤ level then some tokens
      else do operators fuel level (← infixed fuel (strength tokens) tokens)

def infixed : Nat → Nat → Reader
  | 0, _, _ => none
  | fuel + 1, level, tokens =>
      match tokens with
      | .symbol "::" :: rest => dataType rest
      | .symbol "[" :: rest => subscript fuel rest
      | .symbol "!" :: rest => some rest
      | .symbol text :: rest =>
          if text ∈ comparisons then
            match oneOf ["ANY", "ALL", "SOME"] rest with
            | some rest =>
                parenthesized (fun inside => (query fuel inside).or (expression fuel 0 inside)) rest
            | none => expression fuel level rest
          else expression fuel level rest
      | .word "IS" :: rest =>
          let rest := maybe (keyword "NOT") rest
          match oneOf ["NULL", "TRUE", "FALSE", "UNKNOWN"] rest with
          | some rest => some rest
          | none => do expression fuel level (← keywords ["DISTINCT", "FROM"] rest)
      | .word "AT" :: rest => do expression fuel level (← keywords ["TIME", "ZONE"] rest)
      | .word "COLLATE" :: rest => objectName rest
      | .word "NOT" :: rest => matching fuel rest
      | .word "OPERATOR" :: rest => do
          let rest ← parenthesized (operatorName fuel) rest
          expression fuel level rest
      | .word upper :: rest =>
          if upper ∈ ["AND", "OR", "XOR", "DIV", "OVERLAPS"] then expression fuel level rest
          else matching fuel (.word upper :: rest)
      | _ => none

def operatorName : Nat → Reader
  | 0, _ => none
  | fuel + 1, tokens =>
      match tokens with
      | .symbol ")" :: _ => some tokens
      | _ :: rest => operatorName fuel rest
      | [] => none

def matching : Nat → Reader
  | 0, _ => none
  | fuel + 1, tokens =>
      match tokens with
      | .word "IN" :: rest =>
          parenthesized (fun inside =>
            (query fuel inside).or (list (expression fuel 0) fuel inside)) rest
      | .word "BETWEEN" :: rest => do
          expression fuel 60 (← keyword "AND" (← expression fuel 60 rest))
      | .word upper :: rest => do
          let rest ← if upper = "SIMILAR" then keyword "TO" rest
            else if upper ∈ ["LIKE", "ILIKE", "REGEXP", "RLIKE"] then some rest else none
          let rest ← expression fuel 60 (maybe (keyword "ANY") rest)
          match keyword "ESCAPE" rest with
          | some (.quoted :: rest) => return rest
          | some (.literal :: rest) => return rest
          | some _ => none
          | none => return rest
      | _ => none

def subscript : Nat → Reader
  | 0, _ => none
  | fuel + 1, tokens => do
      let rest ← match tokens with
        | .symbol ":" :: _ => some tokens
        | _ => expression fuel 0 tokens
      let rest ← match rest with
        | .symbol ":" :: .symbol "]" :: _ => some (rest.drop 1)
        | .symbol ":" :: rest => expression fuel 0 rest
        | _ => some rest
      symbol "]" rest

def operand : Nat → Reader
  | 0, _ => none
  | fuel + 1, tokens =>
      match typedLiteral tokens with
      | some rest => some rest
      | none =>
          match tokens with
          | .word upper :: rest => wordOperand fuel upper rest
          | .name :: rest => named fuel rest
          | .number :: rest => some rest
          | .quoted :: rest => some rest
          | .literal :: rest => some rest
          | .placeholder :: rest => some rest
          | .symbol "-" :: rest => expression fuel 90 rest
          | .symbol "+" :: rest => expression fuel 90 rest
          | .symbol "(" :: rest => do
              let rest ← ((query fuel rest).bind (symbol ")")).or
                (do symbol ")" (← list (expression fuel 0) fuel rest))
              match rest with
              | .symbol "." :: rest => identifier rest
              | _ => return rest
          | .symbol "[" :: rest => arrayItems fuel rest
          | .symbol ":" :: .word _ :: rest => some rest
          | .symbol ":" :: .number :: rest => some rest
          | .symbol text :: rest =>
              if text ∈ ["!!", "|/", "||/", "@", "~"] then expression fuel 80 rest else none
          | [] => none

def arrayItems : Nat → Reader
  | 0, _ => none
  | fuel + 1, tokens =>
      match tokens with
      | .symbol "]" :: rest => some rest
      | _ => do symbol "]" (← list (expression fuel 0) fuel tokens)

def wordOperand : Nat → String → Reader
  | 0, _, _ => none
  | fuel + 1, upper, tokens =>
      match upper with
      | "NULL" => some tokens
      | "TRUE" => some tokens
      | "FALSE" => some tokens
      | "CURRENT_CATALOG" => some tokens
      | "CURRENT_USER" => some tokens
      | "SESSION_USER" => some tokens
      | "USER" => some tokens
      | "CASE" => caseForm fuel tokens
      | "CAST" => castForm fuel tokens
      | "TRY_CAST" => castForm fuel tokens
      | "SAFE_CAST" => castForm fuel tokens
      | "EXISTS" => parenthesized (query fuel) tokens
      | "NOT" =>
          match keyword "EXISTS" tokens with
          | some rest => parenthesized (query fuel) rest
          | none => expression fuel 30 tokens
      | "EXTRACT" =>
          parenthesized (fun inside => do
            let rest ← identifier inside
            expression fuel 0 (← (keyword "FROM" rest).or (symbol "," rest))) tokens
      | "CEIL" => roundForm fuel tokens
      | "FLOOR" => roundForm fuel tokens
      | "SUBSTRING" =>
          parenthesized (fun inside => do
            let rest ← expression fuel 0 inside
            let part (word : String) : Reader := fun tokens =>
              maybeThen (fun tokens => (keyword word tokens).or (symbol "," tokens))
                (expression fuel 0) tokens
            part "FOR" (← part "FROM" rest)) tokens
      | "OVERLAY" =>
          parenthesized (fun inside => do
            let rest ← keyword "PLACING" (← expression fuel 0 inside)
            let rest ← keyword "FROM" (← expression fuel 0 rest)
            maybeThen (keyword "FOR") (expression fuel 0) (← expression fuel 0 rest)) tokens
      | "TRIM" =>
          parenthesized (fun inside => do
            let rest ← expression fuel 0 (maybe (oneOf ["BOTH", "LEADING", "TRAILING"]) inside)
            maybeThen (fun tokens => (keyword "FROM" tokens).or (symbol "," tokens))
              (expression fuel 0) rest) tokens
      | "INTERVAL" => do intervalUnit (← operand fuel tokens)
      | "POSITION" =>
          match tokens with
          | .symbol "(" :: _ =>
              parenthesized (fun inside => do
                expression fuel 0 (← keyword "IN" (← expression fuel 60 inside))) tokens
          | _ => named fuel tokens
      | "ARRAY" =>
          match tokens with
          | .symbol "[" :: rest => arrayItems fuel rest
          | .symbol "(" :: _ => parenthesized (query fuel) tokens
          | _ => named fuel tokens
      | _ =>
          if upper ∈ ["CURRENT_TIMESTAMP", "CURRENT_TIME", "CURRENT_DATE", "LOCALTIME",
            "LOCALTIMESTAMP"] then
            match tokens with
            | .symbol "(" :: rest => arguments fuel rest
            | _ => some tokens
          else named fuel tokens

def caseForm : Nat → Reader
  | 0, _ => none
  | fuel + 1, tokens => do
      let rest ← match keyword "WHEN" tokens with
        | some _ => some tokens
        | none => expression fuel 0 tokens
      let rest ← branches fuel rest
      keyword "END" (← maybeThen (keyword "ELSE") (expression fuel 0) rest)

def branches : Nat → Reader
  | 0, _ => none
  | fuel + 1, tokens => do
      let rest ← expression fuel 0 (← keyword "WHEN" tokens)
      let rest ← expression fuel 0 (← keyword "THEN" rest)
      match keyword "WHEN" rest with
      | some _ => branches fuel rest
      | none => return rest

def castForm : Nat → Reader
  | 0, _ => none
  | fuel + 1, tokens =>
      parenthesized (fun inside => do
        dataType (← keyword "AS" (← expression fuel 0 inside))) tokens

def roundForm : Nat → Reader
  | 0, _ => none
  | fuel + 1, tokens =>
      parenthesized (fun inside => do
        let rest ← expression fuel 0 inside
        match keyword "TO" rest with
        | some rest => identifier rest
        | none => maybeThen (symbol ",") (expression fuel 0) rest) tokens

def named : Nat → Reader
  | 0, _ => none
  | fuel + 1, tokens => do
      let rest ← members tokens.length tokens
      match rest with
      | .symbol "(" :: rest => callEnd fuel (← arguments fuel rest)
      | _ => return rest

def arguments : Nat → Reader
  | 0, _ => none
  | fuel + 1, tokens =>
      match tokens with
      | .symbol ")" :: rest => some rest
      | _ => do
          let tokens := maybe (oneOf ["DISTINCT", "ALL"]) tokens
          let rest ← list (fun tokens => argument fuel tokens) fuel tokens
          let rest ← ordering fuel rest
          let rest ← maybeThen (keyword "LIMIT") (expression fuel 0) rest
          symbol ")" rest

def argument : Nat → Reader
  | 0, _ => none
  | fuel + 1, tokens =>
      match tokens with
      | .word _ :: .symbol "=>" :: rest => (wildcard rest).or (expression fuel 0 rest)
      | .name :: .symbol "=>" :: rest => (wildcard rest).or (expression fuel 0 rest)
      | _ => (wildcard tokens).or (expression fuel 0 tokens)

def callEnd : Nat → Reader
  | 0, _ => none
  | fuel + 1, tokens => do
      let rest ← maybeThen (keywords ["WITHIN", "GROUP"]) (parenthesized (ordering fuel)) tokens
      let rest ← match rest with
        | .word "FILTER" :: .symbol "(" :: .word "WHERE" :: rest => do
            symbol ")" (← expression fuel 0 rest)
        | _ => some rest
      let rest := maybe (fun tokens => do
        keyword "NULLS" (← oneOf ["IGNORE", "RESPECT"] tokens)) rest
      match keyword "OVER" rest with
      | some (.symbol "(" :: rest) => do symbol ")" (← windowSpec fuel rest)
      | some rest => identifier rest
      | none => return rest

def windowSpec : Nat → Reader
  | 0, _ => none
  | fuel + 1, tokens => do
      let tokens := match tokens with
        | .word upper :: rest =>
            if upper ∈ ["PARTITION", "ORDER", "ROWS", "RANGE", "GROUPS"] then tokens else rest
        | .name :: rest => rest
        | _ => tokens
      let rest ← maybeThen (keywords ["PARTITION", "BY"]) (list (expression fuel 0) fuel) tokens
      let rest ← ordering fuel rest
      match oneOf ["ROWS", "RANGE", "GROUPS"] rest with
      | none => return rest
      | some rest =>
          match keyword "BETWEEN" rest with
          | some rest => do frameBound fuel (← keyword "AND" (← frameBound fuel rest))
          | none => frameBound fuel rest

def frameBound : Nat → Reader
  | 0, _ => none
  | fuel + 1, tokens =>
      match keywords ["CURRENT", "ROW"] tokens with
      | some rest => some rest
      | none => do
          let rest ← (keyword "UNBOUNDED" tokens).or (expression fuel 0 tokens)
          oneOf ["PRECEDING", "FOLLOWING"] rest

def ordering : Nat → Reader
  | 0, _ => none
  | fuel + 1, tokens =>
      match keywords ["ORDER", "BY"] tokens with
      | some rest => list (fun tokens => do nullsOrder (← expression fuel 0 tokens)) fuel rest
      | none => some tokens

def query : Nat → Reader
  | 0, _ => none
  | fuel + 1, tokens => do
      let tokens ← match keyword "WITH" tokens with
        | some rest => list (commonTable fuel) fuel (maybe (keyword "RECURSIVE") rest)
        | none => some tokens
      match tokens with
      | .word "INSERT" :: rest => insertion fuel rest
      | .word "UPDATE" :: rest => update fuel rest
      | _ => do
          let rest ← ordering fuel (← body fuel 0 tokens)
          let limit : Reader := maybeThen (keyword "LIMIT") fun tokens =>
            (keyword "ALL" tokens).or (expression fuel 0 tokens)
          let offset : Reader := maybeThen (keyword "OFFSET") fun tokens => do
            return maybe (oneOf ["ROW", "ROWS"]) (← expression fuel 0 tokens)
          let rest ← match keyword "OFFSET" rest with
            | some _ => do limit (← offset rest)
            | none => do offset (← limit rest)
          locks fuel (← fetchClause rest)

def commonTable : Nat → Reader
  | 0, _ => none
  | fuel + 1, tokens => do
      let rest ← aliasColumns (← identifier tokens)
      let rest ← keyword "AS" rest
      let rest := maybe (fun tokens => keyword "MATERIALIZED" (maybe (keyword "NOT") tokens)) rest
      let rest ← parenthesized (query fuel) rest
      maybeThen (keyword "FROM") identifier rest

def body : Nat → Nat → Reader
  | 0, _, _ => none
  | fuel + 1, level, tokens => do
      let rest ← match tokens with
        | .word "SELECT" :: rest => selection fuel rest
        | .symbol "(" :: _ => parenthesized (query fuel) tokens
        | .word "VALUES" :: rest =>
            list (fun tokens => parenthesized (list (expression fuel 0) fuel)
              (maybe (keyword "ROW") tokens)) fuel rest
        | .word "TABLE" :: rest => do
            let rest ← identifier rest
            maybeThen (symbol ".") identifier rest
        | _ => none
      setOperations fuel level rest

def setOperations : Nat → Nat → Reader
  | 0, _, _ => none
  | fuel + 1, level, tokens =>
      match tokens with
      | .word upper :: rest =>
          let next := if upper = "UNION" || upper = "EXCEPT" then 10
            else if upper = "INTERSECT" then 20 else 0
          if next ≤ level then some tokens
          else do
            let rest := maybe (keywords ["BY", "NAME"]) (maybe (oneOf ["ALL", "DISTINCT"]) rest)
            setOperations fuel level (← body fuel next rest)
      | _ => some tokens

def selection : Nat → Reader
  | 0, _ => none
  | fuel + 1, tokens => do
      let all := (keyword "ALL" tokens).isSome
      let rest := maybe (keyword "ALL") tokens
      let rest ← match keyword "DISTINCT" rest with
        | none => some rest
        | some rest =>
            if all then none
            else match keyword "ON" rest with
              | none => some rest
              | some (.symbol "(" :: .symbol ")" :: rest) => some rest
              | some rest => parenthesized (list (expression fuel 0) fuel) rest
      let rest ← match rest with
        | .word "TOP" :: .number :: rest => some rest
        | .word "TOP" :: rest => parenthesized (expression fuel 0) rest
        | _ => some rest
      let rest ← list (selectItem fuel) fuel rest
      let rest ← match keyword "INTO" rest with
        | none => some rest
        | some rest =>
            objectName (maybe (keyword "TABLE") (maybe (keyword "UNLOGGED")
              (maybe (oneOf ["TEMP", "TEMPORARY"]) rest)))
      let rest ← maybeThen (keyword "FROM") (list (joinedTables fuel) fuel) rest
      let rest ← maybeThen (keyword "WHERE") (expression fuel 0) rest
      let rest ← match keywords ["GROUP", "BY"] rest with
        | none => some rest
        | some (.word "ALL" :: rest) => some rest
        | some rest => list (grouping fuel) fuel rest
      let rest ← [["CLUSTER", "BY"], ["DISTRIBUTE", "BY"], ["SORT", "BY"]].foldlM
        (fun rest words => maybeThen (keywords words) (list (expression fuel 0) fuel) rest) rest
      let rest ← maybeThen (keyword "HAVING") (expression fuel 0) rest
      let windows : Reader := maybeThen (keyword "WINDOW") (list (namedWindow fuel) fuel)
      let qualify : Reader := maybeThen (keyword "QUALIFY") (expression fuel 0)
      match keyword "WINDOW" rest with
      | some _ => do qualify (← windows rest)
      | none => do windows (← qualify rest)

def selectItem : Nat → Reader
  | 0, _ => none
  | fuel + 1, tokens =>
      match wildcard tokens with
      | some rest => some rest
      | none => do
          let rest ← expression fuel 0 tokens
          if tokens.head? = some (.word "FROM") && rest.length + 1 = tokens.length then none
          else aliasUnless noColumnAlias rest

def grouping : Nat → Reader
  | 0, _ => none
  | fuel + 1, tokens =>
      let group : Reader := fun tokens =>
        match tokens with
        | .symbol "(" :: .symbol ")" :: rest => some rest
        | .symbol "(" :: _ => parenthesized (list (expression fuel 0) fuel) tokens
        | _ => expression fuel 0 tokens
      match tokens with
      | .word "GROUPING" :: .word "SETS" :: rest => parenthesized (list group fuel) rest
      | .word "CUBE" :: rest => parenthesized (list group fuel) rest
      | .word "ROLLUP" :: rest => parenthesized (list group fuel) rest
      | .symbol "(" :: .symbol ")" :: rest => some rest
      | _ => expression fuel 0 tokens

def namedWindow : Nat → Reader
  | 0, _ => none
  | fuel + 1, tokens => do
      parenthesized (windowSpec fuel) (← keyword "AS" (← identifier tokens))

def joinedTables : Nat → Reader
  | 0, _ => none
  | fuel + 1, tokens => do joins fuel (← table fuel tokens)

def joins : Nat → Reader
  | 0, _ => none
  | fuel + 1, tokens =>
      match joinWords (maybe (keyword "GLOBAL") tokens) with
      | .none => if (keyword "GLOBAL" tokens).isSome then none else some tokens
      | .malformed => none
      | .found constrained rest => do
          let rest ← table fuel rest
          let rest ← if !constrained then some rest
            else match keyword "ON" rest with
              | some rest => expression fuel 0 rest
              | none => maybeThen (keyword "USING") (parenthesized (listOf identifier)) rest
          joins fuel rest

def table : Nat → Reader
  | 0, _ => none
  | fuel + 1, tokens =>
      match tokens with
      | .word "LATERAL" :: .symbol "(" :: rest => do
          tableAlias (← symbol ")" (← query fuel rest))
      | .word "LATERAL" :: rest => do
          match ← objectName rest with
          | .symbol "(" :: rest => do tableAlias (← arguments fuel rest)
          | _ => none
      | .word "TABLE" :: .symbol "(" :: rest => do
          tableAlias (← symbol ")" (← expression fuel 0 rest))
      | .symbol "(" :: rest =>
          match (query fuel rest).bind (symbol ")") with
          | some rest => tableAlias rest
          | none => do
              let first ← table fuel rest
              let after ← joins fuel first
              if after.length < first.length || rest.head? = some (.symbol "(") then
                tableAlias (← symbol ")" after)
              else none
      | .word "UNNEST" :: rest => do
          let rest ← parenthesized (list (expression fuel 0) fuel) rest
          tableAlias (maybe (keywords ["WITH", "ORDINALITY"]) rest)
      | _ => do
          let rest ← objectName tokens
          let rest ← match rest with
            | .symbol "(" :: rest => arguments fuel rest
            | _ => some rest
          let rest ← tableAlias (maybe (keywords ["WITH", "ORDINALITY"]) rest)
          match rest with
          | .word "WITH" :: .symbol "(" :: inside => do
              symbol ")" (← list (expression fuel 0) fuel inside)
          | _ => return rest

def insertion : Nat → Reader
  | 0, _ => none
  | fuel + 1, tokens => do
      let rest := maybe (keyword "TABLE") (maybe (keyword "INTO") tokens)
      let rest ← objectName rest
      let rest ← maybeThen (keyword "AS") identifier rest
      let rest ← match keywords ["DEFAULT", "VALUES"] rest with
        | some rest => some rest
        | none => do query fuel (← aliasColumns rest)
      let rest ← match keyword "ON" rest with
        | none => some rest
        | some rest => conflict fuel rest
      returning fuel rest

def conflict : Nat → Reader
  | 0, _ => none
  | fuel + 1, tokens => do
      let rest ← keyword "CONFLICT" tokens
      let rest ← match keywords ["ON", "CONSTRAINT"] rest with
        | some rest => objectName rest
        | none => aliasColumns rest
      let rest ← keyword "DO" rest
      match keyword "NOTHING" rest with
      | some rest => return rest
      | none => do
          let rest ← keywords ["UPDATE", "SET"] rest
          let rest ← list (assignment fuel) fuel rest
          maybeThen (keyword "WHERE") (expression fuel 0) rest

def assignment : Nat → Reader
  | 0, _ => none
  | fuel + 1, tokens => do
      let rest ← match tokens with
        | .symbol "(" :: _ => parenthesized (listOf objectName) tokens
        | _ => objectName tokens
      expression fuel 0 (← symbol "=" rest)

def returning : Nat → Reader
  | 0, _ => none
  | fuel + 1, tokens => maybeThen (keyword "RETURNING") (list (selectItem fuel) fuel) tokens

def update : Nat → Reader
  | 0, _ => none
  | fuel + 1, tokens => do
      let rest ← joinedTables fuel tokens
      let rest ← list (assignment fuel) fuel (← keyword "SET" rest)
      let rest ← maybeThen (keyword "FROM") (joinedTables fuel) rest
      let rest ← maybeThen (keyword "WHERE") (expression fuel 0) rest
      returning fuel rest

end

end QueryShell.Sql.Grammar
