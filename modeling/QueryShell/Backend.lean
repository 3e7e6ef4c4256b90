import QueryShell.Failure

/-!
The two kinds of backend that execute statements. A local engine hands out the rows of a statement
in batches; a remote server is asked for one page of lines after the other. Both keep their state in
a store.
-/

namespace QueryShell

structure Response where
  code : Int := 0
  message : Option String := none
deriving DecidableEq, Repr

namespace Response

def failed (code : Int) (message : String) : Response := ⟨code, some message⟩

def isOk (response : Response) : Bool := response.code = 0

end Response

/-- The rows of a statement, batch by batch up to their end or to a failure; they are finite. -/
inductive Results where
  | done
  | broken (failure : Failure)
  | batch (rows : List String) (next : Results)
deriving Repr

structure Execution where
  response : Response := {}
  schema : List String := []
  results : Results := .done
  closeCode : Int := 0

/-- A local query engine. Every execution that it starts is released with `close`. -/
structure Engine (Store : Type) where
  start : String → Store → Execution × Store
  close : Execution → Store → Store

def Engine.absent : Engine Unit where
  start _ store := ({ response := .failed 1 "No local SQL engine is available" }, store)
  close _ store := store

/-- A session on a remote server. Its results are finite: a full page leaves less to fetch. -/
structure Remote (Store : Type) where
  execute : String → Store → Except Failure Unit × Store
  fetch : Nat → Store → Except Failure (List String) × Store
  clean : Store → Except Failure Unit × Store
  backlog : Store → Nat
  backlog_fetch : ∀ {count : Nat} {store after : Store} {lines : List String},
    fetch count store = (.ok lines, after) → 0 < count → count ≤ lines.length →
      backlog after < backlog store

def memoryDatabase : String := ":memory:"

inductive Backend (Store : Type) where
  | local (engine : Engine Store)
  | remote (server : Remote Store)

end QueryShell
