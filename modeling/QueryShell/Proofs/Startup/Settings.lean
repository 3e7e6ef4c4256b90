import QueryShell.Proofs.Backend.Frame
import QueryShell.Proofs.Session.Evolution

/-!
What was chosen when a session was started. No statement changes more of a session than its sinks,
its log, its variables and its resources, so the other settings last through every run.
-/

namespace QueryShell

variable {World Store : Type}

def Session.Keeps (before after : Session) : Prop :=
  after = { before with
    out := after.out, err := after.err, reported := after.reported
    resources := after.resources, «variables» := after.variables }

namespace Session.Keeps

variable {before middle after : Session}

theorem refl (session : Session) : Keeps session session := rfl

theorem trans (first : Keeps before middle) (second : Keeps middle after) : Keeps before after :=
  calc
    after = { middle with
      out := after.out, err := after.err, reported := after.reported
      resources := after.resources, «variables» := after.variables } := second
    _ = { before with
      out := after.out, err := after.err, reported := after.reported
      resources := after.resources, «variables» := after.variables } :=
        congrArg (fun session : Session => { session with
          out := after.out, err := after.err, reported := after.reported
          resources := after.resources, «variables» := after.variables }) first

theorem of_steady (steady : before.Steady after) : Keeps before after :=
  calc
    after = { before with out := after.out, err := after.err, reported := after.reported } := steady
    _ = { before with
      out := after.out, err := after.err, reported := after.reported
      resources := after.resources, «variables» := after.variables } := by
        rw [steady]

theorem silent (keeps : Keeps before after) : after.silent = before.silent := by rw [keeps]

theorem of_change (change : Change before after) : Keeps before after := by
  cases change with
  | info text => exact of_steady (.printInfo text before)
  | piece stream bytes =>
      cases stream with
      | out | err => rfl
  | line | failure | assigned | restored | resources => rfl

theorem of_evolves (evolves : before.Evolves after) : Keeps before after := by
  induction evolves with
  | refl => exact refl before
  | tail _ change ih => exact ih.trans (of_change change)

end Session.Keeps

open Session (Keeps)

namespace Run

variable {platform : Platform World Store} {shell final : Shell World Store}

theorem Linked.keeps {events : List (Event World Store)}
    (linked : Linked platform shell events final) :
    Keeps shell.session final.session ∧ ∀ event ∈ events,
      Keeps shell.session event.before.session ∧ Keeps shell.session event.after.session := by
  induction linked with
  | nil => exact ⟨.refl _, by simp⟩
  | cons event asked _ ih =>
      have first : Keeps event.before.session event.after.session := by
        have evolved := dispatch_evolves platform event.statement event.depth event.before
        rw [asked] at evolved
        exact .of_evolves evolved
      refine ⟨first.trans ih.1, List.forall_mem_cons.mpr ⟨⟨.refl _, first⟩, ?_⟩⟩
      intro later member
      obtain ⟨before, after⟩ := ih.2 later member
      exact ⟨first.trans before, first.trans after⟩

end Run

end QueryShell
