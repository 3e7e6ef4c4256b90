import QueryShell.Backend

/-!
A remote session that answers from a script. Statements without a script succeed with no lines.
-/

namespace QueryShell.Scripted

structure RemoteScript where
  lines : List String := []
  rejection : Option Failure := none
  afterLines : Option Failure := none
deriving DecidableEq, Repr

structure RemoteState where
  scripts : List (String × RemoteScript) := []
  failsClean : Bool := false
  executed : List String := []
  fetchCalls : Nat := 0
  cleanCalls : Nat := 0
  lines : List String := []
  afterLines : Option Failure := none
deriving DecidableEq, Repr

namespace RemoteState

def execute (statement : String) (state : RemoteState) : Except Failure Unit × RemoteState :=
  let script := (state.scripts.lookup statement).getD {}
  let state := { state with executed := state.executed ++ [statement] }
  match script.rejection with
  | some failure => (.error failure, state)
  | none => (.ok (), { state with lines := script.lines, afterLines := script.afterLines })

def fetch (count : Nat) (state : RemoteState) : Except Failure (List String) × RemoteState :=
  let state := { state with fetchCalls := state.fetchCalls + 1 }
  match state.lines, state.afterLines with
  | [], some failure => (.error failure, { state with afterLines := none })
  | lines, _ => (.ok (lines.take count), { state with lines := lines.drop count })

def clean (state : RemoteState) : Except Failure Unit × RemoteState :=
  let state :=
    { state with cleanCalls := state.cleanCalls + 1, lines := [], afterLines := none }
  (if state.failsClean then .error (.transport "clean failed") else .ok (), state)

theorem lines_fetch {count : Nat} {state after : RemoteState} {lines : List String}
    (fetched : fetch count state = (.ok lines, after)) :
    lines = state.lines.take count ∧ after.lines = state.lines.drop count := by
  simp only [fetch] at fetched
  split at fetched
  · simp at fetched
  · obtain ⟨answer, rfl⟩ := Prod.mk.inj fetched
    exact ⟨(Except.ok.inj answer).symm, rfl⟩

end RemoteState

def remote : Remote RemoteState where
  execute := RemoteState.execute
  fetch := RemoteState.fetch
  clean := RemoteState.clean
  backlog state := state.lines.length
  backlog_fetch := by
    intro count store after lines fetched positive full
    obtain ⟨rfl, rest⟩ := RemoteState.lines_fetch fetched
    rw [rest, List.length_drop]
    rw [List.length_take] at full
    omega

end QueryShell.Scripted
