import QueryShell.Connection
import QueryShell.Path

/-!
What a client logs in with. Connection strings keep their parts encoded; here they are plain.
-/

namespace QueryShell.Postgres

structure Login where
  host : String
  port : Nat
  user : Option String
  database : Option String
deriving DecidableEq, Repr

namespace Login

def unusable (reason : String) : Failure :=
  .config ("Invalid connection string: error with configuration: " ++ reason)

def decoded (text : List Char) : Except Failure String :=
  match Url.Percent.decode? text with
  | some text => .ok text
  | none => .error (unusable "invalid utf-8 sequence")

def part (text : List Char) (inherited : Option String) : Except Failure (Option String) :=
  if text.isEmpty then .ok inherited else (decoded text).map some

def hostName (text : String) : Except Failure String :=
  match decoded text.toList with
  | .ok path => .ok (if Path.isAbsolute path then path else text)
  | .error failure => if "%2F".toList.isPrefixOf text.toList then .error failure else .ok text

def ofText (environment : Environment) (text : String) : Except Failure Login := do
  match Url.ofText text with
  | .error fault => throw (unusable fault.message)
  | .ok url =>
      return {
        host := ← hostName (url.host.getD Connection.defaultHost)
        port := url.port.getD Connection.defaultPort
        user := ← part url.user.toList (environment.get? "PGUSER")
        database := ← part (url.path.toList.dropWhile (· = '/')) (environment.get? "PGDATABASE") }

end Login

end QueryShell.Postgres
