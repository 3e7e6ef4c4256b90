import QueryShell.Run.Step

/-!
Every step of a run makes its stack of frames smaller. Stacks are compared from the outermost frame
inwards by what is unread: a step reads a statement of some frame or gives that frame up, and a new
frame lies above one that has just become smaller.
-/

namespace QueryShell.Run

variable {World Store : Type}

def Levels : Nat → Type
  | 0 => Unit
  | count + 1 => Nat × Levels count

@[reducible] def levelsOrder : (count : Nat) → WellFoundedRelation (Levels count)
  | 0 => ⟨emptyRelation, emptyWf.wf⟩
  | count + 1 => Prod.lex Nat.lt_wfRel (levelsOrder count)

def heights : (count : Nat) → List Nat → Levels count
  | 0, _ => ()
  | count + 1, [] => (0, heights count [])
  | count + 1, size :: rest => (size + 1, heights count rest)

theorem heights_smaller {count : Nat} {outer left right : List Nat} {small large : Nat}
    (bound : outer.length < count) (smaller : small < large) :
    (levelsOrder count).rel (heights count (outer ++ small :: left))
      (heights count (outer ++ large :: right)) := by
  induction outer generalizing count with
  | nil =>
      cases count with
      | zero => simp at bound
      | succ count => exact Prod.Lex.left _ _ (Nat.succ_lt_succ smaller)
  | cons size outer ih =>
      cases count with
      | zero => simp at bound
      | succ count => exact Prod.Lex.right _ (ih (by simpa using bound))

theorem heights_shorter {count : Nat} {outer right : List Nat} {size : Nat}
    (bound : outer.length < count) :
    (levelsOrder count).rel (heights count outer) (heights count (outer ++ size :: right)) := by
  induction outer generalizing count with
  | nil =>
      cases count with
      | zero => simp at bound
      | succ count => exact Prod.Lex.left _ _ (Nat.succ_pos size)
  | cons first outer ih =>
      cases count with
      | zero => simp at bound
      | succ count => exact Prod.Lex.right _ (ih (by simpa using bound))

def sizes (frames : List Frame) : List Nat :=
  (frames.map fun frame => frame.unread.length).reverse

def reach (frames : List Frame) : Nat := max maxDepth frames.length

def Weight : Type := PSigma Levels

/-- Weights are compared by what can be reached, then by the sizes. -/
instance : WellFoundedRelation Weight := PSigma.lex Nat.lt_wfRel levelsOrder

def weight (frames : List Frame) : Weight := ⟨reach frames, heights (reach frames) (sizes frames)⟩

def Smaller (next frames : List Frame) : Prop :=
  WellFoundedRelation.rel (weight next) (weight frames)

theorem smaller_of_levels {next frames : List Frame} (length : next.length ≤ reach frames)
    (levels : (levelsOrder (reach frames)).rel (heights (reach frames) (sizes next))
      (heights (reach frames) (sizes frames))) : Smaller next frames := by
  have upper : reach next ≤ reach frames := by
    simp only [reach] at length ⊢
    omega
  change PSigma.Lex _ _ (weight next) (weight frames)
  by_cases equal : reach next = reach frames
  · simp only [weight]
    rw [equal]
    exact PSigma.Lex.right _ levels
  · exact PSigma.Lex.left _ _ (show reach next < reach frames by omega)

theorem settle_suffix (code : Int) (ignoresErrors : Bool) (frames : List Frame) :
    settle code ignoresErrors frames = [] ∨
      ∃ given frame outer, frames = given ++ frame :: outer ∧
        settle code ignoresErrors frames = { frame with last := code } :: outer := by
  induction frames with
  | nil => exact .inl rfl
  | cons frame outer ih =>
      simp only [settle]
      split
      · exact .inr ⟨[], frame, outer, rfl, rfl⟩
      · rcases ih with empty | ⟨given, kept, rest, split, settled⟩
        · exact .inl empty
        · exact .inr ⟨frame :: given, kept, rest, by simp [split], settled⟩

/-- The sizes of a settled stack are those of its outermost frames. -/
theorem sizes_settled {code : Int} {ignoresErrors : Bool} {frames next : List Frame}
    (running : settled code ignoresErrors frames = .running next) :
    ∃ given, sizes frames = sizes next ++ given ∧ next ≠ [] := by
  rcases settle_suffix code ignoresErrors frames with empty | ⟨given, frame, outer, split, kept⟩
  · simp [settled, empty] at running
  · simp only [settled, kept, Progress.running.injEq] at running
    subst running split
    exact ⟨(given.map fun frame => frame.unread.length).reverse, by simp [sizes], by simp⟩

theorem length_sizes (frames : List Frame) : (sizes frames).length = frames.length := by
  simp [sizes]

theorem sizes_cons (frame : Frame) (outer : List Frame) :
    sizes (frame :: outer) = sizes outer ++ [frame.unread.length] := by
  simp [sizes]

theorem settled_smaller {code : Int} {ignoresErrors : Bool} {frames next before : List Frame}
    {size : Nat} {rest : List Nat} (shrunk : sizes before = sizes frames ++ size :: rest)
    (running : settled code ignoresErrors frames = .running next) :
    Smaller next before := by
  obtain ⟨given, split, _⟩ := sizes_settled running
  have total := congrArg List.length shrunk
  have inner := congrArg List.length split
  simp only [length_sizes, List.length_append, List.length_cons] at total inner
  refine smaller_of_levels (by simp only [reach]; omega) ?_
  rw [shrunk, split, List.append_assoc]
  cases given with
  | nil => exact heights_shorter (by simp only [length_sizes, reach]; omega)
  | cons first given =>
      have bound : (sizes next).length < reach before := by simp only [length_sizes, reach]; omega
      simpa using @heights_shorter _ _ (given ++ size :: rest) first bound

theorem settled_smaller_of_read {code : Int} {ignoresErrors : Bool}
    {frames next before : List Frame} {outer : List Nat} {small large : Nat}
    (smaller : small < large) (after : sizes frames = outer ++ [small])
    (shrunk : sizes before = outer ++ [large])
    (running : settled code ignoresErrors frames = .running next) :
    Smaller next before := by
  obtain ⟨given, split, _⟩ := sizes_settled running
  have total := congrArg List.length shrunk
  have inner := congrArg List.length split
  have parts := congrArg List.length after
  simp only [length_sizes, List.length_append, List.length_singleton] at total inner parts
  refine smaller_of_levels (by simp only [reach]; omega) ?_
  rcases List.eq_nil_or_concat given with empty | ⟨front, last, given_eq⟩
  · have same : sizes next = outer ++ [small] := by rw [← after, split, empty, List.append_nil]
    rw [same, shrunk]
    exact heights_smaller (by simp only [reach]; omega) smaller
  · have front_eq : sizes next ++ front = outer := by
      have joined : sizes next ++ front ++ [last] = outer ++ [small] := by
        rw [← after, split, given_eq, List.concat_eq_append, List.append_assoc]
      exact (List.append_inj' joined rfl).1
    have length := congrArg List.length given_eq
    simp only [List.length_concat] at length
    rw [shrunk, ← front_eq, List.append_assoc]
    cases front with
    | nil => exact heights_shorter (by simp only [length_sizes, reach]; omega)
    | cons first front => exact heights_shorter (by simp only [length_sizes, reach]; omega)

theorem loadSource_depth {host : Host World} {path text : String} {depth : Nat}
    {shell after : Shell World Store}
    (loaded : loadSource host path depth shell = (.ok text, after)) : depth < maxDepth := by
  simp only [loadSource] at loaded
  split at loaded
  · simp at loaded
  · omega

theorem dispatch_depth {platform : Platform World Store} {statement text : String} {depth : Nat}
    {shell after : Shell World Store}
    (entered : dispatch platform statement depth shell = (.enter text, after)) :
    depth < maxDepth := by
  simp only [dispatch] at entered
  split at entered
  · simp at entered
  · split at entered
    · rename_i loaded
      exact loadSource_depth loaded
    · simp [finished] at entered
  · simp [finished] at entered
  · simp [finished] at entered
  · simp [finished] at entered

/-- A step that does not end the run leaves a smaller stack. -/
theorem advance_smaller {platform : Platform World Store} {frames next : List Frame}
    {shell after : Shell World Store}
    (running : advance platform frames shell = (.running next, after)) :
    Smaller next frames := by
  cases frames with
  | nil => simp [advance] at running
  | cons frame outer =>
      simp only [advance] at running
      split at running
      · split at running
        · simp at running
        · exact settled_smaller (sizes_cons frame outer)
            (Prod.mk.inj running).1
      · rename_i statement unread found
        have shorter := Statement.next?_length found
        split at running
        · simp at running
        · rename_i text entered
          have depth := dispatch_depth entered
          obtain ⟨inner, -⟩ := Prod.mk.inj running
          obtain rfl := Progress.running.inj inner
          simp only [List.length_cons] at depth
          refine smaller_of_levels (by simp only [reach, List.length_cons]; omega) ?_
          simp only [sizes, List.map_cons, List.reverse_cons, List.append_assoc, List.cons_append]
          exact heights_smaller (by simp only [reach, List.length_reverse, List.length_map]; omega) shorter
        · exact settled_smaller_of_read shorter (sizes_cons _ _) (sizes_cons _ _)
            (Prod.mk.inj running).1

end QueryShell.Run
