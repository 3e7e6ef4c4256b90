import Mathlib.Logic.Relation
import QueryShell.Proofs.Output.Open
import QueryShell.Proofs.Report.Backend

/-!
The pages of a result, as a server hands them out. They are read up to the first that is not full,
and an open sink receives them one after the other.
-/

namespace QueryShell.Remote

open Relation (ReflTransGen)

variable {World Store : Type} {server : Remote Store}

theorem executeOn_store (server : Remote Store) (statement : String) (shell : Shell World Store) :
    (executeOn server statement shell).2.store =
      (server.clean (run server statement shell.session shell.store).2.2).2 := by
  simp only [executeOn]
  split
  · rename_i cleaned
    rw [cleaned]
  · rename_i cleaned
    rw [cleaned]

theorem out_settle (result : Except Failure Unit) (session : Session) :
    (settle result session).2.out = session.out := by
  simp only [settle]
  split
  · rfl
  · rfl
  · rfl

/-- The cleanup prints nothing. -/
theorem executeOn_out (server : Remote Store) (statement : String) (shell : Shell World Store) :
    (executeOn server statement shell).2.session.out =
      (run server statement shell.session shell.store).2.1.out := by
  have settled := out_settle (run server statement shell.session shell.store).1
    (run server statement shell.session shell.store).2.1
  simp only [executeOn]
  split
  · exact settled
  · exact settled

def executeAll (server : Remote Store) (statements : List String) (shell : Shell World Store) :
    Shell World Store :=
  statements.foldl (fun shell statement => (executeOn server statement shell).2) shell

def Fetch (server : Remote Store) (before after : Store) : Prop :=
  ∃ count, after = (server.fetch count before).2

theorem printPages_fetched (server : Remote Store) (session : Session) (store : Store) :
    ReflTransGen server.Fetch store (printPages server session store).2.2 := by
  induction session, store using printPages.induct server with
  | case1 session store failure left fetched =>
      rw [printPages_eq, fetched]
      exact .single ⟨pageSize, by rw [fetched]⟩
  | case2 session store lines after fetched printed refused =>
      rw [printPages_eq, fetched]
      simp only [refused]
      exact .single ⟨pageSize, by rw [fetched]⟩
  | case3 session store lines after fetched printed accepted full ih =>
      have page : server.Fetch store after := ⟨pageSize, by rw [fetched]⟩
      rw [printPages_eq, fetched]
      simp only [accepted, full, if_true]
      exact .head page ih
  | case4 session store lines after fetched printed accepted short =>
      rw [printPages_eq, fetched]
      simp only [accepted, short, if_false]
      exact .single ⟨pageSize, by rw [fetched]⟩

inductive Pages (server : Remote Store) :
    Store → List (List String) → Except Failure Unit → Store → Prop
  | failed {store last : Store} {failure : Failure}
      (fetched : server.fetch pageSize store = (.error failure, last)) :
      Pages server store [] (.error failure) last
  | short {store last : Store} {lines : List String}
      (fetched : server.fetch pageSize store = (.ok lines, last))
      (short : lines.length < pageSize) : Pages server store [lines] (.ok ()) last
  | full {store middle last : Store} {lines : List String} {pages : List (List String)}
      {result : Except Failure Unit}
      (fetched : server.fetch pageSize store = (.ok lines, middle))
      (full : pageSize ≤ lines.length) (later : Pages server middle pages result last) :
      Pages server store (lines :: pages) result last

theorem Pages.printPages {store last : Store} {pages : List (List String)}
    {result : Except Failure Unit} (paged : Pages server store pages result last)
    {session : Session} (takes : session.out.Open) :
    printPages server session store = (result, session.withOutput pages.flatten, last) := by
  induction paged generalizing session with
  | failed fetched => simp [printPages_eq, fetched]
  | short fetched short =>
      have rest : ¬pageSize ≤ List.length _ := Nat.not_le.mpr short
      simp [printPages_eq, fetched, printLines_of_open _ takes, rest]
  | @full _ _ _ lines _ _ fetched full _ ih =>
      have printed := @ih (session.withOutput lines) (takes.extend _)
      rw [printPages_eq, fetched]
      simp only [printLines_of_open _ takes, if_pos full, printed,
        Session.withOutput_withOutput, List.flatten_cons]

/-- A server that holds lines as `Held` tells gives them as pages, one more than there are full
ones. -/
theorem exists_pages {Held : List String → Store → Prop}
    (hands : ∀ lines store, Held lines store → ∃ after,
      server.fetch pageSize store = (.ok (lines.take pageSize), after) ∧
        (pageSize ≤ lines.length → Held (lines.drop pageSize) after))
    {lines : List String} {store : Store} (held : Held lines store) :
    ∃ pages last, Pages server store pages (.ok ()) last ∧ pages.flatten = lines ∧
      pages.length = lines.length / pageSize + 1 := by
  generalize count : lines.length = length
  induction length using Nat.strongRecOn generalizing lines store with
  | ind length ih =>
      subst count
      obtain ⟨after, fetched, rest⟩ := hands lines store held
      by_cases full : pageSize ≤ lines.length
      · have dropped : (lines.drop pageSize).length = lines.length - pageSize := List.length_drop
        have positive : 0 < pageSize := by decide
        obtain ⟨pages, last, paged, joined, number⟩ :=
          ih (lines.drop pageSize).length (by omega) (rest full) rfl
        have taken : pageSize ≤ (lines.take pageSize).length := by
          rw [List.length_take]
          omega
        refine ⟨lines.take pageSize :: pages, last, .full fetched taken paged, ?_, ?_⟩
        · rw [List.flatten_cons, joined, List.take_append_drop]
        · rw [List.length_cons, number, dropped, Nat.div_eq_sub_div positive full]
      · have all : lines.take pageSize = lines := List.take_of_length_le (by omega)
        rw [all] at fetched
        refine ⟨[lines], after, .short fetched (by omega), by simp, ?_⟩
        rw [Nat.div_eq_of_lt (by omega)]
        rfl

end QueryShell.Remote
