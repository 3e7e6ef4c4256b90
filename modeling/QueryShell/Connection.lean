import QueryShell.Environment
import QueryShell.Failure
import QueryShell.Url

/-!
The description of a remote database. Parts that are left open are filled in from other
descriptions, from the environment and, last of all, from fixed defaults.
-/

namespace QueryShell

structure Connection where
  host : Option String := none
  port : Nat := 5432
  database : Option String := none
  user : Option String := none
  password : Option String := none
deriving DecidableEq, Repr

namespace Connection

def defaultPort : Nat := 5432

def defaultHost : String := "localhost"

def ofUrl (url : Url) : Connection :=
  { host := url.host
    port := url.port.getD defaultPort
    database := match url.path.toList with
      | '/' :: name => if name.isEmpty then none else some (String.ofList name)
      | _ => none
    user := if url.user.isEmpty then none else some url.user
    password := url.password }

def ofText (text : String) (readUrl : String → Except Url.Fault Url := Url.ofText) :
    Except Failure Connection :=
  match readUrl text with
  | .error fault => .error (.config ("Invalid connection string: " ++ fault.message))
  | .ok url =>
      if url.scheme = "postgres" || url.scheme = "postgresql" then .ok (ofUrl url)
      else .error (.config ("Invalid scheme '" ++ url.scheme ++
        "'. Expected 'postgres' or 'postgresql'"))

def hostName (connection : Connection) : String := connection.host.getD defaultHost

def credentials (connection : Connection) : String :=
  match connection.user, connection.password with
  | none, _ => ""
  | some user, none => user ++ "@"
  | some user, some password => user ++ ":" ++ password ++ "@"

def text (connection : Connection) : Except Failure String :=
  match connection.database with
  | none => .error (.config "Database name is required")
  | some database =>
      .ok ("postgres://" ++ connection.credentials ++ connection.hostName ++ ":" ++
        toString connection.port ++ "/" ++ database)

def merge (connection other : Connection) : Connection :=
  { host := other.host.or connection.host
    port := if other.port = defaultPort then connection.port else other.port
    database := other.database.or connection.database
    user := other.user.or connection.user
    password := other.password.or connection.password }

def withDefaults (environment : Environment) (connection : Connection) : Connection :=
  let port := (environment.get? "PGPORT").bind fun text =>
    Decimal.boundedOfText? 65536 text.toList
  { host := connection.host.or (environment.get? "PGHOST")
    port := if connection.port = defaultPort then port.getD connection.port else connection.port
    database := connection.database.or (environment.get? "PGDATABASE")
    user := connection.user.or (environment.get? "PGUSER")
    password := connection.password.or (environment.get? "PGPASSWORD") }

def display (connection : Connection) : String :=
  connection.database.getD "unknown" ++ " @ " ++ connection.hostName ++ ":" ++
    toString connection.port

end Connection

end QueryShell
