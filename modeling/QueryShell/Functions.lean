/-!
Names of the functions and operators that are offered for completion.
-/

namespace QueryShell.Functions

def scalar : List String :=
  ["abs", "char", "coalesce", "concat", "concat_ws", "format", "glob", "hex", "ifnull", "iif",
   "instr", "last_insert_rowid", "length", "like", "likelihood", "lower", "ltrim", "max", "min",
   "nullif", "printf", "quote", "random", "randomblob", "replace", "round", "rtrim", "sign",
   "soundex", "substr", "substring", "total_changes", "trim", "typeof", "unhex", "unicode", "upper",
   "zeroblob"]

def aggregate : List String := ["avg", "count", "group_concat", "string_agg", "sum", "total"]

def window : List String :=
  ["row_number", "rank", "dense_rank", "percent_rank", "cume_dist", "ntile", "lag", "lead",
   "first_value", "last_value", "nth_value"]

def dateAndTime : List String :=
  ["date", "time", "datetime", "julianday", "unixepoch", "strftime", "timediff"]

def math : List String :=
  ["acos", "asin", "atan", "atan2", "ceil", "ceiling", "cos", "exp", "floor", "ln", "log", "log10",
   "log2", "mod", "pi", "pow", "power", "sin", "sqrt", "tan", "trunc"]

def operators : List String :=
  ["+", "-", "*", "/", "%", "=", "==", "<>", "!=", "<", "<=", ">", ">=", "||", "&", "|", "<<", ">>"]

def names : List String := scalar ++ aggregate ++ window ++ dateAndTime ++ math ++ operators

end QueryShell.Functions
