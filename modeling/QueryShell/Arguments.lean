import QueryShell.Connection
import QueryShell.Startup
import QueryShell.Text.Search

/-!
The arguments of the command line. They are read from left to right; the value of an option is
checked when the next option or the connection string comes, or at the end.
-/

namespace QueryShell

structure Arguments where
  connectionString : Option String := none
  host : Option String := none
  port : Option Nat := none
  database : Option String := none
  user : Option String := none
  connection : Option String := none
  execute : Option String := none
  file : Option String := none
  init : List String := []
  silent : Bool := false
  verbose : Bool := false
  set : List (String × String) := []
  config : Option String := none
  localDatabase : Option String := none
  logsToStderr : Bool := false
deriving DecidableEq, Repr

namespace Arguments

inductive Stop where
  | help
  | version
  | unknownArgument
  | missingValue
  | invalidValue
  | conflict
  | surplusValue
deriving DecidableEq, Repr

def Stop.exitCode : Stop → Nat
  | help => 0
  | version => 0
  | _ => 2

inductive Switch where
  | silent
  | verbose
  | logsToStderr
  | help
  | version
deriving DecidableEq, Repr

inductive Setting where
  | host
  | port
  | database
  | user
  | connection
  | execute
  | file
  | init
  | set
  | config
  | localDatabase
deriving DecidableEq, Repr

inductive Item where
  | switch (switch : Switch)
  | setting (setting : Setting)
deriving DecidableEq, Repr

def itemOfLetter? : Char → Option Item
  | 'H' => some (.setting .host)
  | 'p' => some (.setting .port)
  | 'd' => some (.setting .database)
  | 'U' => some (.setting .user)
  | 'c' => some (.setting .connection)
  | 'e' => some (.setting .execute)
  | 'f' => some (.setting .file)
  | 'i' => some (.setting .init)
  | 'S' => some (.switch .silent)
  | 'v' => some (.switch .verbose)
  | 'h' => some (.switch .help)
  | 'V' => some (.switch .version)
  | _ => none

def itemOfWord? : String → Option Item
  | "host" => some (.setting .host)
  | "port" => some (.setting .port)
  | "database" => some (.setting .database)
  | "user" => some (.setting .user)
  | "connection" => some (.setting .connection)
  | "set" => some (.setting .set)
  | "config" => some (.setting .config)
  | "local-db" => some (.setting .localDatabase)
  | "silent" => some (.switch .silent)
  | "verbose" => some (.switch .verbose)
  | "log-stderr" => some (.switch .logsToStderr)
  | "help" => some (.switch .help)
  | "version" => some (.switch .version)
  | _ => none

def portOfText? (text : List Char) : Option Nat :=
  match text with
  | '-' :: digits => (Decimal.natOfText? digits).filter (· = 0)
  | _ => Decimal.boundedOfText? 65536 text

def pairOfText? (text : List Char) : Option (String × String) :=
  match Text.cutAt? ['='] text with
  | none => none
  | some (name, value) =>
      if (Text.trim name).isEmpty then none
      else some (String.ofList (Text.trim name), String.ofList (Text.trim value))

structure Reading where
  arguments : Arguments := {}
  switches : List Switch := []
  pending : Option (Setting × Option String) := none
deriving DecidableEq, Repr

namespace Reading

def isGiven (setting : Setting) (arguments : Arguments) : Bool :=
  match setting with
  | .host => arguments.host.isSome
  | .port => arguments.port.isSome
  | .database => arguments.database.isSome
  | .user => arguments.user.isSome
  | .connection => arguments.connection.isSome
  | .execute => arguments.execute.isSome
  | .file => arguments.file.isSome
  | .config => arguments.config.isSome
  | .localDatabase => arguments.localDatabase.isSome
  | .init => false
  | .set => false

def pathOfText (text : String) : Except Stop String :=
  if text.isEmpty then .error .missingValue else .ok text

def assign (setting : Setting) (value : String) (arguments : Arguments) : Except Stop Arguments :=
  match setting with
  | .host => .ok { arguments with host := some value }
  | .port =>
      match portOfText? value.toList with
      | some port => .ok { arguments with port := some port }
      | none => .error .invalidValue
  | .database => .ok { arguments with database := some value }
  | .user => .ok { arguments with user := some value }
  | .connection => .ok { arguments with connection := some value }
  | .execute => .ok { arguments with execute := some value }
  | .file => (pathOfText value).map fun path => { arguments with file := some path }
  | .init => (pathOfText value).map fun path => { arguments with init := arguments.init ++ [path] }
  | .set =>
      match pairOfText? value.toList with
      | some pair => .ok { arguments with set := arguments.set ++ [pair] }
      | none => .error .invalidValue
  | .config => (pathOfText value).map fun path => { arguments with config := some path }
  | .localDatabase => .ok { arguments with localDatabase := some value }

def settle (setting : Setting) (value : Option String) (arguments : Arguments) :
    Except Stop Arguments :=
  match value with
  | none => .error .missingValue
  | some value =>
      if isGiven setting arguments then .error .conflict else assign setting value arguments

def settlePending (reading : Reading) : Except Stop Reading :=
  match reading.pending with
  | none => .ok reading
  | some (setting, value) =>
      (settle setting value reading.arguments).map fun arguments =>
        { reading with arguments, pending := none }

def turnOn (switch : Switch) (reading : Reading) : Except Stop Reading := do
  let reading ← reading.settlePending
  if switch ∈ reading.switches then throw .conflict
  let reading := { reading with switches := switch :: reading.switches }
  match switch with
  | .silent => return { reading with arguments := { reading.arguments with silent := true } }
  | .verbose => return { reading with arguments := { reading.arguments with verbose := true } }
  | .logsToStderr =>
      return { reading with arguments := { reading.arguments with logsToStderr := true } }
  | .help => throw .help
  | .version => throw .version

def start (setting : Setting) (attached : Option String) (reading : Reading) :
    Except Stop Reading := do
  let reading ← reading.settlePending
  match attached with
  | none => return { reading with pending := some (setting, none) }
  | some value =>
      return { reading with arguments := ← settle setting (some value) reading.arguments }

def readWord (text : List Char) (reading : Reading) : Except Stop Reading :=
  let (name, value) := match Text.cutAt? ['='] text with
    | some (name, value) => (name, some (String.ofList value))
    | none => (text, none)
  match itemOfWord? (String.ofList name) with
  | none => .error .unknownArgument
  | some (.setting setting) => reading.start setting value
  | some (.switch switch) =>
      if value.isSome then .error .surplusValue else reading.turnOn switch

def readLetters : List Char → Reading → Except Stop Reading
  | [], reading => .ok reading
  | letter :: rest, reading =>
      match itemOfLetter? letter with
      | none => .error .unknownArgument
      | some (.switch switch) => do readLetters rest (← reading.turnOn switch)
      | some (.setting setting) =>
          match rest with
          | [] => reading.start setting none
          | '=' :: value => reading.start setting (some (String.ofList value))
          | value => reading.start setting (some (String.ofList value))

def readPlain (text : String) (reading : Reading) : Except Stop Reading :=
  if reading.arguments.connectionString.isSome then .error .unknownArgument
  else do
    let reading ← reading.settlePending
    return { reading with
      arguments := { reading.arguments with connectionString := some text } }

def readValue (text : String) (reading : Reading) : Except Stop Reading :=
  match reading.pending with
  | some (setting, none) => .ok { reading with pending := some (setting, some text) }
  | _ => reading.readPlain text

/-- Reads arguments; after two hyphens alone, none of them is an option. -/
def readAll : List String → Reading → Except Stop Reading
  | [], reading => reading.settlePending
  | text :: rest, reading =>
      match text.toList with
      | '-' :: '-' :: [] => do
          let reading ← rest.foldlM (fun reading text => reading.readPlain text) reading
          reading.settlePending
      | '-' :: '-' :: word => do readAll rest (← reading.readWord word)
      | '-' :: letter :: letters => do readAll rest (← reading.readLetters (letter :: letters))
      | _ => do readAll rest (← reading.readValue text)

end Reading

def ofList (environment : Environment) (texts : List String) : Except Stop Arguments := do
  let arguments := (← Reading.readAll texts {}).arguments
  if arguments.execute.isSome && arguments.file.isSome then throw .conflict
  return { arguments with
    localDatabase := arguments.localDatabase.or (environment.get? "QSH_LOCAL_DB") }

def validate (arguments : Arguments) : Except Failure Unit :=
  match arguments.execute with
  | some query =>
      if Text.isBlankText query then .error (.config "-e needs a non-empty query string")
      else .ok ()
  | none => .ok ()

def portOrDefault (arguments : Arguments) : Nat := arguments.port.getD Connection.defaultPort

def toConnection (arguments : Arguments)
    (readUrl : String → Except Url.Fault Url := Url.ofText) :
    Except Failure (Option Connection) :=
  match arguments.connectionString with
  | some text => (Connection.ofText text readUrl).map some
  | none =>
      if arguments.host.isSome || arguments.database.isSome || arguments.user.isSome then
        .ok (some {
          host := arguments.host
          port := arguments.portOrDefault
          database := arguments.database
          user := arguments.user })
      else .ok none

def configPath (environment : Environment) (arguments : Arguments) : String :=
  arguments.config.getD (Startup.configPath environment)

end Arguments

end QueryShell
