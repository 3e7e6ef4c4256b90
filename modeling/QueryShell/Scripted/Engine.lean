import QueryShell.Backend

/-!
A local engine that answers from a script. Statements without a script succeed with no rows.
-/

namespace QueryShell.Scripted

structure EngineScript where
  schema : List String := []
  rows : List String := []
  rejection : Option (Int × String) := none
  closeCode : Int := 0
  failAfter : Option (Nat × String) := none
deriving DecidableEq, Repr

structure EngineState where
  scripts : List (String × EngineScript) := []
  executed : List String := []
  closed : Nat := 0
deriving DecidableEq, Repr

def EngineState.scriptOf (state : EngineState) (statement : String) : EngineScript :=
  (state.scripts.lookup statement).getD {}

namespace EngineScript

def response (script : EngineScript) : Response :=
  match script.rejection with
  | some (code, message) => .failed code message
  | none => {}

def available (script : EngineScript) : List String :=
  match script.failAfter with
  | some (count, _) => script.rows.take count
  | none => script.rows

def ending (script : EngineScript) : Results :=
  match script.failAfter with
  | some (count, message) =>
      if count ≤ script.rows.length then .broken (.query message) else .done
  | none => .done

def results (script : EngineScript) : Results :=
  if script.rejection.isSome then .done
  else if script.available.isEmpty then script.ending
  else .batch script.available script.ending

end EngineScript

structure Handle where
  script : EngineScript := {}
  handedOut : Nat := 0
  done : Bool := true
deriving DecidableEq, Repr

namespace Handle

def start (statement : String) (state : EngineState) : Response × Handle × EngineState :=
  let script := state.scriptOf statement
  (script.response, { script, done := script.rejection.isSome },
    { state with executed := state.executed ++ [statement] })

def fetch (handle : Handle) : Except Failure (Option (List String)) × Handle :=
  if handle.done then (.ok none, handle)
  else
    let rows := handle.script.available.drop handle.handedOut
    let handedOut := handle.script.available.length
    let answer := if rows.isEmpty then none else some rows
    match handle.script.failAfter with
    | some (count, message) =>
        if count ≤ handle.handedOut then
          (.error (.query message), { handle with done := true })
        else (.ok answer, { handle with handedOut })
    | none => (.ok answer, { handle with handedOut, done := true })

def close (handle : Handle) (state : EngineState) : Int × Handle × EngineState :=
  (handle.script.closeCode, { handle with done := true }, { state with closed := state.closed + 1 })

end Handle

def engine : Engine EngineState where
  start statement state :=
    let script := state.scriptOf statement
    ({ response := script.response, schema := script.schema, results := script.results,
       closeCode := script.closeCode },
      { state with executed := state.executed ++ [statement] })
  close _ state := { state with closed := state.closed + 1 }

end QueryShell.Scripted
