import QueryShell.Run

/-!
One iteration of a run, case by case. Settling a code either keeps the innermost frame or gives up
every frame, so that an iteration has four shapes only.
-/

namespace QueryShell.Run

variable {World Store : Type} {platform : Platform World Store} {shell after : Shell World Store}

def Passes (code : Int) (ignoresErrors : Bool) : Prop := code = 0 ∨ ignoresErrors = true

instance (code : Int) (ignoresErrors : Bool) : Decidable (Passes code ignoresErrors) :=
  inferInstanceAs (Decidable (_ ∨ _))

theorem not_passes_iff {code : Int} {ignoresErrors : Bool} :
    ¬Passes code ignoresErrors ↔ code ≠ 0 ∧ ignoresErrors = false := by
  simp [Passes]

theorem settle_of_not_passes {code : Int} {ignoresErrors : Bool}
    (failed : ¬Passes code ignoresErrors) (frames : List Frame) :
    settle code ignoresErrors frames = [] := by
  obtain ⟨nonzero, unforgiven⟩ := not_passes_iff.mp failed
  induction frames with
  | nil => rfl
  | cons frame outer ih => simpa [settle, nonzero, unforgiven] using ih

theorem settled_of_not_passes {code : Int} {ignoresErrors : Bool}
    (failed : ¬Passes code ignoresErrors) (frames : List Frame) :
    settled code ignoresErrors frames = .ended (.code code) := by
  simp [settled, settle_of_not_passes failed]

theorem settled_nil (code : Int) (ignoresErrors : Bool) :
    settled code ignoresErrors [] = .ended (.code code) := rfl

theorem settled_of_passes {code : Int} {ignoresErrors : Bool} (passed : Passes code ignoresErrors)
    (frame : Frame) (outer : List Frame) :
    settled code ignoresErrors (frame :: outer) =
      .running ({ frame with last := code } :: outer) := by
  have kept :
      settle code ignoresErrors (frame :: outer) = { frame with last := code } :: outer := by
    rcases passed with zero | ignored
    · simp [settle, zero]
    · simp [settle, ignored]
  simp [settled, kept]

theorem settled_eq_running {code : Int} {ignoresErrors : Bool} {frames next : List Frame}
    (running : settled code ignoresErrors frames = .running next) :
    Passes code ignoresErrors ∧
      ∃ frame outer, frames = frame :: outer ∧ next = { frame with last := code } :: outer := by
  by_cases passed : Passes code ignoresErrors
  · cases frames with
    | nil => simp [settled_nil] at running
    | cons frame outer =>
        rw [settled_of_passes passed, Progress.running.injEq] at running
        exact ⟨passed, frame, outer, rfl, running.symm⟩
  · simp [settled_of_not_passes passed] at running

theorem settled_eq_ended {code : Int} {ignoresErrors : Bool} {frames : List Frame}
    {outcome : Outcome} (ended : settled code ignoresErrors frames = .ended outcome) :
    outcome = .code code ∧ (frames = [] ∨ ¬Passes code ignoresErrors) := by
  by_cases passed : Passes code ignoresErrors
  · cases frames with
    | nil => exact ⟨(Progress.ended.inj ended).symm, .inl rfl⟩
    | cons frame outer => simp [settled_of_passes passed] at ended
  · rw [settled_of_not_passes passed] at ended
    exact ⟨(Progress.ended.inj ended).symm, .inr passed⟩

inductive Iteration (platform : Platform World Store) (frame : Frame) (outer : List Frame)
    (shell : Shell World Store) : Prop
  | finished (found : Statement.next? frame.unread = none)
      (result : advance platform (frame :: outer) shell =
        (settled frame.last shell.session.ignoresErrors outer, shell))
  | done {statement : List Char} {unread : List (List Char)} {code : Int}
      {after : Shell World Store}
      (found : Statement.next? frame.unread = some (statement, unread))
      (asked : dispatch platform (String.ofList statement) (outer.length + 1) shell =
        (.done code, after))
      (result : advance platform (frame :: outer) shell =
        (settled code after.session.ignoresErrors ({ frame with unread } :: outer), after))
  | exit {statement : List Char} {unread : List (List Char)} {code : Int}
      {after : Shell World Store}
      (found : Statement.next? frame.unread = some (statement, unread))
      (asked : dispatch platform (String.ofList statement) (outer.length + 1) shell =
        (.exit code, after))
      (result : advance platform (frame :: outer) shell = (.ended (.exit code), after))
  | enter {statement : List Char} {unread : List (List Char)} {text : String}
      {after : Shell World Store}
      (found : Statement.next? frame.unread = some (statement, unread))
      (asked : dispatch platform (String.ofList statement) (outer.length + 1) shell =
        (.enter text, after))
      (result : advance platform (frame :: outer) shell =
        (.running (Frame.ofText text :: { frame with unread } :: outer), after))

theorem iteration (platform : Platform World Store) (frame : Frame) (outer : List Frame)
    (shell : Shell World Store) : Iteration platform frame outer shell := by
  cases found : Statement.next? frame.unread with
  | none =>
      refine .finished found ?_
      simp only [advance, found]
      cases outer with
      | nil => rfl
      | cons below rest => rfl
  | some next =>
      obtain ⟨statement, unread⟩ := next
      rcases asked : dispatch platform (String.ofList statement) (outer.length + 1) shell with
        ⟨code | code | text, after⟩
      · exact .done found asked (by simp [advance, found, asked])
      · exact .exit found asked (by simp [advance, found, asked])
      · exact .enter found asked (by simp [advance, found, asked])

theorem frames_of_ended {stack : List Frame} {outcome : Outcome}
    (ended : advance platform stack shell = (.ended outcome, after)) :
    frames platform stack shell = (outcome, after) := by
  rw [frames]
  split
  · rename_i step
    rw [ended] at step
    cases step
    rfl
  · rename_i step
    rw [ended] at step
    cases step

theorem frames_of_running {stack next : List Frame}
    (running : advance platform stack shell = (.running next, after)) :
    frames platform stack shell = frames platform next after := by
  rw [frames]
  split
  · rename_i step
    rw [running] at step
    cases step
  · rename_i step
    rw [running] at step
    cases step
    rfl

end QueryShell.Run
