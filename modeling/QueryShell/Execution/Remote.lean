import QueryShell.Shell

/-!
Statements in remote mode. The lines of a result are fetched page by page until a page is not full,
and the server is always told to clean up.
-/

namespace QueryShell.Remote

variable {World Store : Type}

def pageSize : Nat := 40

def printLines (lines : List String) (session : Session) : Bool × Session :=
  match lines with
  | [] => (true, session)
  | line :: rest =>
      match session.printLine line with
      | (.ok (), session) => printLines rest session
      | (.error _, session) => (false, session)

def printPages (remote : Remote Store) (session : Session) (store : Store) :
    Except Failure Unit × Session × Store :=
  match _fetched : remote.fetch pageSize store with
  | (.error failure, store) => (.error failure, session, store)
  | (.ok lines, after) =>
      match printLines lines session with
      | (false, session) => (.ok (), session, after)
      | (true, session) =>
          if _full : pageSize ≤ lines.length then printPages remote session after
          else (.ok (), session, after)
termination_by remote.backlog store
decreasing_by exact remote.backlog_fetch _fetched (by decide) _full

def run (remote : Remote Store) (statement : String) (session : Session) (store : Store) :
    Except Failure Unit × Session × Store :=
  match remote.execute statement store with
  | (.error failure, store) => (.error failure, session, store)
  | (.ok (), store) => printPages remote session store

/-- The code of a statement. A server error with code 0 marks the end of the results. -/
def settle (result : Except Failure Unit) (session : Session) : Int × Session :=
  match result with
  | .ok () => (0, session)
  | .error (.server 0 _) => (0, session)
  | .error failure => (failure.code, session.report failure)

/-- Executes a statement. A failure of the cleanup is reported but does not change the code. -/
def executeOn (remote : Remote Store) (statement : String) (shell : Shell World Store) :
    Int × Shell World Store :=
  let (result, session, store) := run remote statement shell.session shell.store
  let (code, session) := settle result session
  match remote.clean store with
  | (.ok (), store) => (code, { shell with session := session, store := store })
  | (.error failure, store) =>
      (code, { shell with session := session.report failure, store := store })

end QueryShell.Remote
