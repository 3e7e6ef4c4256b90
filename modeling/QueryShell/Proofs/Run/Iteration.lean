import QueryShell.Proofs.Run.Advance

/-!
The loop of a run, iteration by iteration. It ends after finitely many, whatever the sourced files
hold when they are read: every single statement ends, as what hosts and backends answer is finite.
Until then the loop stands on at least one frame and on no more than the most that a stack may hold.
-/

namespace QueryShell.Run

variable {World Store : Type} {platform : Platform World Store}

def iterate (platform : Platform World Store) :
    Nat → Progress × Shell World Store → Progress × Shell World Store
  | 0, state => state
  | _ + 1, (.ended outcome, shell) => (.ended outcome, shell)
  | count + 1, (.running stack, shell) => iterate platform count (advance platform stack shell)

structure Admissible (stack : List Frame) : Prop where
  nonempty : stack ≠ []
  bounded : stack.length ≤ maxDepth

theorem admissible_of_settled {code : Int} {ignoresErrors : Bool} {frames next : List Frame}
    (bounded : frames.length ≤ maxDepth)
    (running : settled code ignoresErrors frames = .running next) : Admissible next := by
  obtain ⟨_, frame, outer, rfl, rfl⟩ := settled_eq_running running
  exact ⟨List.cons_ne_nil _ _, bounded⟩

theorem admissible_of_advance {stack next : List Frame} {shell after : Shell World Store}
    (admissible : Admissible stack)
    (running : advance platform stack shell = (.running next, after)) : Admissible next := by
  cases stack with
  | nil => exact (admissible.nonempty rfl).elim
  | cons frame outer =>
      have bounded : outer.length + 1 ≤ maxDepth := admissible.bounded
      cases iteration platform frame outer shell with
      | finished _ result =>
          rw [result] at running
          exact admissible_of_settled (by omega) (Prod.mk.inj running).1
      | done _ _ result =>
          rw [result] at running
          exact admissible_of_settled (by simpa using bounded) (Prod.mk.inj running).1
      | exit _ _ result =>
          rw [result] at running
          cases running
      | enter _ asked result =>
          rw [result] at running
          cases running
          have room := dispatch_depth asked
          exact ⟨List.cons_ne_nil _ _, Nat.succ_le_of_lt room⟩

theorem iterate_ends (platform : Platform World Store) (stack : List Frame)
    (shell : Shell World Store) (admissible : Admissible stack) :
    ∃ count,
      iterate platform count (.running stack, shell) =
        (.ended (frames platform stack shell).1, (frames platform stack shell).2) ∧
      ∀ earlier < count, ∃ middle between,
        iterate platform earlier (.running stack, shell) = (.running middle, between) ∧
          Admissible middle := by
  induction stack, shell using frames.induct platform with
  | case1 stack shell outcome after ended =>
      refine ⟨1, ?_, ?_⟩
      · rw [frames_of_ended ended]
        exact ended
      · intro earlier before
        obtain rfl : earlier = 0 := by omega
        exact ⟨stack, shell, rfl, admissible⟩
  | case2 stack shell next after running ih =>
      obtain ⟨count, last, stands⟩ := ih (admissible_of_advance admissible running)
      refine ⟨count + 1, ?_, ?_⟩
      · rw [frames_of_running running, iterate, running]
        exact last
      · intro earlier before
        cases earlier with
        | zero => exact ⟨stack, shell, rfl, admissible⟩
        | succ earlier =>
            obtain ⟨middle, between, reached, inside⟩ := stands earlier (by omega)
            refine ⟨middle, between, ?_, inside⟩
            rw [iterate, running]
            exact reached

theorem iterate_ended (platform : Platform World Store) (count : Nat) (outcome : Outcome)
    (shell : Shell World Store) :
    iterate platform count (.ended outcome, shell) = (.ended outcome, shell) := by
  cases count with
  | zero | succ => rfl

/-- A run that has ended after so many iterations is that of the loop. -/
theorem frames_of_iterate (count : Nat) {stack : List Frame} {shell : Shell World Store}
    {outcome : Outcome}
    (reached : (iterate platform count (.running stack, shell)).1 = .ended outcome) :
    frames platform stack shell =
      (outcome, (iterate platform count (.running stack, shell)).2) := by
  induction count generalizing stack shell with
  | zero => cases reached
  | succ count ih =>
      rw [iterate] at reached ⊢
      rcases step : advance platform stack shell with ⟨next | own, between⟩
      · rw [step] at reached
        rw [frames_of_running step]
        exact ih reached
      · rw [step, iterate_ended] at reached
        cases reached
        rw [iterate_ended]
        exact frames_of_ended step

/-- The loop over a text ends after finitely many iterations with the outcome of the text. At the
start of each of them the stack has a frame, and no more than the most that it may hold. That a
single statement ends is taken for granted: hosts, engines and servers answer, and what they answer
is finite, as the inductive `Results` of an engine and the `backlog` of a server have it. -/
theorem text_ends (platform : Platform World Store) (text : String) (shell : Shell World Store) :
    ∃ count,
      iterate platform count (.running [Frame.ofText text], shell) =
        (.ended (Run.text platform text shell).1, (Run.text platform text shell).2) ∧
      ∀ earlier < count, ∃ stack between,
        iterate platform earlier (.running [Frame.ofText text], shell) =
          (.running stack, between) ∧
        stack ≠ [] ∧ stack.length ≤ maxDepth := by
  have start : Admissible [Frame.ofText text] :=
    ⟨List.cons_ne_nil _ _, by simp [maxDepth]⟩
  obtain ⟨count, last, stands⟩ := iterate_ends platform _ shell start
  refine ⟨count, last, ?_⟩
  intro earlier before
  obtain ⟨stack, between, reached, admissible⟩ := stands earlier before
  exact ⟨stack, between, reached, admissible.nonempty, admissible.bounded⟩

end QueryShell.Run
