import Mathlib.Data.List.Basic
import QueryShell.Proofs.Modes.Twin
import QueryShell.Proofs.Number.Literal
import QueryShell.Proofs.Postgres.Exchange
import QueryShell.Proofs.Remote.Answers
import QueryShell.Proofs.Text.Bytes
import QueryShell.Scripted.Server

/-!
No failure of a server passes as success. Every answer to what a statement sends is good, or one is
an error: then the statement has a code of its own for it, and it is reported once. The code comes
from the number that the SQL state begins with, whatever text that is.
-/

namespace QueryShell

namespace Session

structure Tells (before after : Session) (failures : List Failure) : Prop where
  log : after.reported = before.reported ++ failures
  lines : before.err.Open →
    after.err = before.err.extend (Sink.bytesOf (failures.map Failure.message))

variable {before middle after : Session} {first second : List Failure}

theorem Tells.trans (sooner : before.Tells middle first) (later : middle.Tells after second) :
    before.Tells after (first ++ second) := by
  constructor
  · rw [later.log, sooner.log, List.append_assoc]
  · intro takes
    have written := sooner.lines takes
    have still : middle.err.Open := by
      rw [written]
      exact takes.extend _
    rw [later.lines still, written, Sink.extend_extend, List.map_append, Sink.bytesOf_append]

theorem tells_report (failure : Failure) (session : Session) :
    session.Tells (session.report failure) [failure] := by
  constructor
  · rfl
  · intro takes
    rw [report_of_open takes]
    rfl

theorem tells_reportAll (failures : List Failure) (session : Session) :
    session.Tells (Remote.reportAll failures session) failures := by
  induction failures generalizing session with
  | nil =>
      constructor
      · simp [Remote.reportAll]
      · simp [Remote.reportAll, Sink.bytesOf]
  | cons failure rest ih => exact (tells_report failure session).trans (ih _)

end Session

namespace Remote

variable {World Store : Type}

theorem err_printLines (lines : List String) (session : Session) :
    (printLines lines session).2.err = session.err := by
  induction lines generalizing session with
  | nil => rfl
  | cons line rest ih =>
      have same : (session.printLine line).2.err = session.err := rfl
      simp only [printLines]
      split
      · rename_i printed
        rw [printed] at same
        rw [ih, same]
      · rename_i printed
        rw [printed] at same
        exact same

theorem err_printPages (server : Remote Store) (session : Session) (store : Store) :
    (printPages server session store).2.1.err = session.err := by
  induction session, store using printPages.induct server with
  | case1 session store failure left fetched => rw [printPages_eq, fetched]
  | case2 session store lines after fetched printed refused =>
      have same := err_printLines lines session
      rw [refused] at same
      rw [printPages_eq, fetched]
      simpa only [refused] using same
  | case3 session store lines after fetched printed accepted full ih =>
      have same := err_printLines lines session
      rw [accepted] at same
      rw [printPages_eq, fetched]
      simpa only [accepted, if_pos full] using ih.trans same
  | case4 session store lines after fetched printed accepted short =>
      have same := err_printLines lines session
      rw [accepted] at same
      rw [printPages_eq, fetched]
      simpa only [accepted, if_neg short] using same

theorem run_tells (server : Remote Store) (statement : String) (session : Session) (store : Store) :
    session.Tells (run server statement session store).2.1 [] := by
  have same : (run server statement session store).2.1.err = session.err := by
    simp only [run]
    split
    · rfl
    · exact err_printPages server session _
  constructor
  · rw [reported_run, List.append_nil]
  · intro takes
    rw [same]
    exact Sink.extend_empty.symm

/-- The code and the reports of a statement, from its result and from that of the cleanup. -/
theorem executeOn_tells (server : Remote Store) (statement : String) (shell : Shell World Store) :
    let asked := run server statement shell.session shell.store
    let ran := executeOn server statement shell
    ran.1 = codeOf (failure? asked.1) ∧
      shell.session.Tells ran.2.session
        (reportsOf (failure? asked.1) ++ (failure? (server.clean asked.2.2).1).toList) := by
  intro asked ran
  have printed := run_tells server statement shell.session shell.store
  have settled : ran = (codeOf (failure? asked.1), { shell with
      session := reportAll
        (reportsOf (failure? asked.1) ++ (failure? (server.clean asked.2.2).1).toList) asked.2.1
      store := (server.clean asked.2.2).2 }) := executeOn_settled rfl
  rw [settled]
  exact ⟨rfl, printed.trans (Session.tells_reportAll _ asked.2.1)⟩

theorem codeOf_of_nonzero {failure : Failure} (nonzero : failure.code ≠ 0) :
    codeOf (some failure) = failure.code ∧ reportsOf (some failure) = [failure] := by
  cases failure with
  | server code text =>
      have other : code ≠ 0 := nonzero
      simp [codeOf, reportsOf, other]
  | _ => exact ⟨rfl, rfl⟩

end Remote

namespace Postgres

variable {World Store : Type} {wire : Wire Store}

section Codes

open Decimal (Digits Sign)

/-- The number that a SQL state begins with: digits, with or without a sign, that take its first two
bytes. -/
inductive ClassNumber : List Char → Int → Prop
  | read {sign digits : List Char} (rest : List Char) (signed : Sign sign)
      (numeric : Digits digits) (some_digit : digits ≠ [])
      (two_bytes : (Text.bytes (sign ++ digits)).length = 2) :
      ClassNumber (sign ++ digits ++ rest)
        (if sign = ['-'] then -(Decimal.digitsValue digits : Int) else Decimal.digitsValue digits)

inductive Fault.Due : Fault → Int → Prop
  | numbered {sqlState message : String} {number : Int}
      (read : ClassNumber sqlState.toList number) (nonzero : number ≠ 0) :
      Due (.refused sqlState message) number
  | unnumbered {sqlState message : String}
      (zero : ∀ number, ClassNumber sqlState.toList number → number = 0) :
      Due (.refused sqlState message) 1
  | lost {reason : String} : Due (.lost reason) (-10002)

variable {sqlState : String} {sign digits : List Char} {number : Int} {fault : Fault} {code : Int}

theorem ascii_of_digits (signed : Sign sign) (numeric : Digits digits) :
    Text.Ascii (sign ++ digits) := by
  intro char member
  rcases List.mem_append.mp member with marked | digit
  · cases signed with
    | none => cases marked
    | plus => rw [List.mem_singleton.mp marked]; decide
    | minus => rw [List.mem_singleton.mp marked]; decide
  · have bounds := numeric char digit
    simp only [Decimal.isDigit, Bool.and_eq_true, decide_eq_true_eq] at bounds
    have below : char.toNat ≤ '9'.toNat := bounds.2
    exact Nat.lt_of_le_of_lt below (by decide)

theorem digitValue_of_isDigit {char : Char} (digit : Decimal.isDigit char = true) :
    ((Decimal.digitValue char : Nat) : Int) = (char.toNat : Int) - 48 := by
  simp only [Decimal.isDigit, Bool.and_eq_true, decide_eq_true_eq] at digit
  have large : 48 ≤ char.toNat := digit.1
  exact Int.ofNat_sub large

/-- The one digit behind a sign, and its value as the code computes it. -/
theorem exists_units (numeric : Digits digits) (one : digits.length = 1) :
    ∃ units : Char, digits = [units] ∧ units.isDigit = true ∧
      (Decimal.digitsValue digits : Int) = (units.toNat : Int) - 48 := by
  obtain ⟨units, rfl⟩ := List.length_eq_one_iff.mp one
  have digit : units.isDigit = true := numeric units List.mem_cons_self
  have value := digitValue_of_isDigit digit
  exact ⟨units, rfl, digit, by simpa [Decimal.digitsValue] using value⟩

theorem sqlStateCode_of_number (read : ClassNumber sqlState.toList number) :
    sqlStateCode sqlState = if number = 0 then 1 else number := by
  generalize chars : sqlState.toList = text at read
  cases read with
  | @read sign digits rest signed numeric some_digit two_bytes =>
      rw [Text.length_bytes_of_ascii (ascii_of_digits signed numeric)] at two_bytes
      rw [sqlStateCode.eq_def, chars]
      cases signed with
      | none =>
          obtain ⟨tens, units, rfl⟩ := List.length_eq_two.mp two_bytes
          have tens_digit : tens.isDigit = true := numeric tens (by simp)
          have units_digit : units.isDigit = true := numeric units (by simp)
          have units_value := digitValue_of_isDigit units_digit
          have tens_value : 10 * ((Decimal.digitValue tens : Nat) : Int) =
              ((tens.toNat - 48 : Nat) : Int) * 10 := Int.mul_comm 10 _
          simp [tens_digit, units_digit, Decimal.digitsValue, units_value, tens_value]
      | plus =>
          obtain ⟨units, rfl, digit, value⟩ := exists_units numeric (Nat.succ.inj two_bytes)
          simp [digit, value]
      | minus =>
          obtain ⟨units, rfl, digit, value⟩ := exists_units numeric (Nat.succ.inj two_bytes)
          simp [digit, value]

theorem exists_number {first second : Char} (rest : List Char)
    (begins : first.isDigit = true ∨ first = '+' ∨ first = '-') (digit : second.isDigit = true) :
    ∃ number, ClassNumber (first :: second :: rest) number := by
  have numeric : Digits [second] := List.forall_mem_singleton.mpr digit
  have read {sign digits : List Char} (signed : Sign sign) (numeric : Digits digits)
      (some_digit : digits ≠ []) (length : (sign ++ digits).length = 2) :
      ∃ number, ClassNumber (sign ++ digits ++ rest) number := by
    rw [← Text.length_bytes_of_ascii (ascii_of_digits signed numeric)] at length
    exact ⟨_, .read rest signed numeric some_digit length⟩
  rcases begins with also_digit | rfl | rfl
  · have both : Digits [first, second] := by simpa [Digits] using ⟨also_digit, digit⟩
    exact read .none both (by simp) rfl
  · exact read .plus numeric (by simp) rfl
  · exact read .minus numeric (by simp) rfl

theorem sqlStateCode_of_no_number (none : ¬∃ number, ClassNumber sqlState.toList number) :
    sqlStateCode sqlState = 1 := by
  rw [sqlStateCode.eq_def]
  split
  · rename_i first second rest chars
    rw [chars] at none
    split
    · rename_i digit
      have other : ¬(first.isDigit = true ∨ first = '+' ∨ first = '-') :=
        fun begins => none (exists_number rest begins digit)
      simp only [not_or] at other
      simp [other]
    · rfl
  · rfl

theorem sqlStateCode_of_zero
    (zero : ∀ number, ClassNumber sqlState.toList number → number = 0) :
    sqlStateCode sqlState = 1 := by
  by_cases numbered : ∃ number, ClassNumber sqlState.toList number
  · obtain ⟨number, read⟩ := numbered
    rw [sqlStateCode_of_number read, if_pos (zero number read)]
  · exact sqlStateCode_of_no_number numbered

/-- The failure that a fault becomes has the code that is due, and no other is. -/
theorem Fault.due_iff : fault.Due code ↔ fault.failure.code = code := by
  constructor
  · intro due
    cases due with
    | numbered read nonzero =>
        rw [failure, Failure.code, sqlStateCode_of_number read, if_neg nonzero]
    | unnumbered zero => exact sqlStateCode_of_zero zero
    | lost => rfl
  · rintro rfl
    cases fault with
    | lost reason => exact .lost
    | refused sqlState message =>
        rw [failure, Failure.code]
        by_cases zero : ∀ number, ClassNumber sqlState.toList number → number = 0
        · rw [sqlStateCode_of_zero zero]
          exact .unnumbered zero
        · simp only [not_forall] at zero
          obtain ⟨number, read, nonzero⟩ := zero
          rw [sqlStateCode_of_number read, if_neg nonzero]
          exact .numbered read nonzero

example : (Fault.refused "42P01" "").Due 42 ∧ (Fault.refused "-7" "").Due (-7) ∧
    (Fault.refused "+0" "").Due 1 ∧ (Fault.refused "1é" "").Due 1 ∧ (Fault.refused "" "").Due 1 := by
  simp only [Fault.due_iff]
  decide

theorem Fault.Due.nonzero (due : fault.Due code) : code ≠ 0 := by
  cases due with
  | numbered read nonzero => exact nonzero
  | unnumbered zero => decide
  | lost => decide

end Codes

def faults (exchanges : List (Exchange Store)) : List Fault :=
  exchanges.filterMap fun exchange =>
    match exchange.reply with
    | .ok _ => none
    | .error fault => some fault

def Told (wire : Wire Store) (before after : Recorded Store) (failed : Option Failure) : Prop :=
  ∃ sent, before.Grew wire after sent ∧ (faults sent).map Fault.failure = failed.toList

namespace Told

variable {before middle after : Recorded Store} {failed : Option Failure}

theorem nothing (record : Recorded Store) : Told wire record record none :=
  ⟨[], ⟨(List.append_nil _).symm, .nil _⟩, rfl⟩

theorem given {request : Request} {rows : List Row}
    (given : (wire.send request before.server).1 = .ok rows) :
    Told wire before (before.after wire request) none := by
  refine ⟨[⟨request, .ok rows, before.server⟩], ?_, rfl⟩
  rw [← Wire.exchange_eq given]
  exact .single request before

theorem refused {request : Request} {fault : Fault}
    (refused : (wire.send request before.server).1 = .error fault) :
    Told wire before (before.after wire request) (some fault.failure) := by
  refine ⟨[⟨request, .error fault, before.server⟩], ?_, rfl⟩
  rw [← Wire.exchange_eq refused]
  exact .single request before

theorem trans (sooner : Told wire before middle none) (later : Told wire middle after failed) :
    Told wire before after failed := by
  obtain ⟨front, first, fine⟩ := sooner
  obtain ⟨back, second, told⟩ := later
  refine ⟨front ++ back, first.append second, ?_⟩
  rw [faults, List.filterMap_append, List.map_append]
  exact congrArg₂ (· ++ ·) fine told

end Told

namespace Client

variable {classify : String → Sql.Kind} {client : Client (Recorded Store)} {session : Session}
  {statement : String}

theorem order_told (wire : Wire Store) (request : Request) (client : Client (Recorded Store)) :
    Told wire client.store (client.order wire.recorded request).2.store
      (Remote.failure? (client.order wire.recorded request).1) := by
  cases reply : (wire.send request client.store.server).1 with
  | ok rows =>
      rw [order_of_ok reply]
      exact .given reply
  | error fault =>
      rw [order_of_error reply]
      exact .refused reply

theorem clean_told (wire : Wire Store) (client : Client (Recorded Store)) :
    Told wire client.store (client.clean wire.recorded).2.store
      (Remote.failure? (client.clean wire.recorded).1) := by
  obtain ⟨record, pending, inTransaction⟩ := client
  cases pending with
  | idle => exact .nothing record
  | kept lines => exact .nothing record
  | cursor owns =>
      cases owns with
      | true => exact order_told wire .closeTransaction ⟨record, .idle, inTransaction⟩
      | false => exact order_told wire .closeCursor ⟨record, .idle, inTransaction⟩

theorem openCursor_told (wire : Wire Store) (query : String) (client : Client (Recorded Store)) :
    Told wire client.store (client.openCursor wire.recorded query).2.store
      (Remote.failure? (client.openCursor wire.recorded query).1) := by
  rw [openCursor]
  split
  · exact order_told wire (.openCursor query) { client with pending := .cursor false }
  · have begun := order_told wire .openTransaction client
    split
    · rename_i opened granted
      rw [granted] at begun
      exact begun.trans (order_told wire (.openCursor query) { opened with pending := .cursor true })
    · rename_i failure left refused
      rw [refused] at begun
      exact begun

theorem perform_told (wire : Wire Store) (kind : Sql.Kind) (statement : String)
    (client : Client (Recorded Store)) :
    Told wire client.store (client.perform wire.recorded kind statement).2.store
      (Remote.failure? (client.perform wire.recorded kind statement).1) := by
  cases reply : (wire.send (.statement statement) client.store.server).1 with
  | ok rows =>
      rw [perform_of_ok reply]
      exact .given reply
  | error fault =>
      rw [perform_of_error reply]
      exact .refused reply

theorem execute_told (wire : Wire Store) (classify : String → Sql.Kind) (statement : String)
    (client : Client (Recorded Store)) :
    Told wire client.store (client.execute wire.recorded statement classify).2.store
      (Remote.failure? (client.execute wire.recorded statement classify).1) := by
  have cleaned := clean_told wire client
  rw [execute]
  split
  · rename_i failure left refused
    rw [refused] at cleaned
    exact cleaned
  · rename_i settled fine
    rw [fine] at cleaned
    split
    · exact cleaned.trans (openCursor_told wire statement settled)
    · exact cleaned.trans (perform_told wire (classify statement) statement settled)

theorem fetch_told (wire : Wire Store) (count : Nat) (client : Client (Recorded Store)) :
    Told wire client.store (client.fetch wire.recorded count).2.store
      (Remote.failure? (client.fetch wire.recorded count).1) := by
  cases pending : client.pending with
  | idle =>
      simp only [fetch, pending]
      exact .nothing client.store
  | kept lines =>
      simp only [fetch, pending]
      exact .nothing client.store
  | cursor owns =>
      cases reply : (wire.send (.fetch count) client.store.server).1 with
      | ok rows =>
          rw [fetch_of_ok pending reply]
          exact .given reply
      | error fault =>
          rw [fetch_of_error pending reply]
          exact .refused reply

theorem told_of_fetch {count : Nat} {answer : Except Failure (List String)}
    {after : Client (Recorded Store)}
    (fetched : (remote wire.recorded classify).fetch count client = (answer, after)) :
    Told wire client.store after.store (Remote.failure? answer) := by
  have page := fetch_told wire count client
  have same : client.fetch wire.recorded count = (answer, after) := fetched
  rwa [same] at page

theorem printPages_told (wire : Wire Store) (session : Session) (client : Client (Recorded Store)) :
    Told wire client.store
      (Remote.printPages (remote wire.recorded classify) session client).2.2.store
      (Remote.failure? (Remote.printPages (remote wire.recorded classify) session client).1) := by
  induction session, client using Remote.printPages.induct (remote wire.recorded classify) with
  | case1 session client failure after fetched =>
      rw [Remote.printPages_eq, fetched]
      exact told_of_fetch fetched
  | case2 session client lines after fetched printed refused =>
      rw [Remote.printPages_eq, fetched]
      simp only [refused]
      exact told_of_fetch fetched
  | case3 session client lines after fetched printed accepted full ih =>
      rw [Remote.printPages_eq, fetched]
      simp only [accepted, if_pos full]
      exact (told_of_fetch fetched).trans ih
  | case4 session client lines after fetched printed accepted short =>
      rw [Remote.printPages_eq, fetched]
      simp only [accepted, if_neg short]
      exact told_of_fetch fetched

/-- The first failure of a statement is that of its result; the rest of the answers are good. -/
theorem run_told (wire : Wire Store) (classify : String → Sql.Kind) (statement : String)
    (session : Session) (client : Client (Recorded Store)) :
    Told wire client.store
      (Remote.run (remote wire.recorded classify) statement session client).2.2.store
      (Remote.failure? (Remote.run (remote wire.recorded classify) statement session client).1) := by
  have executed := execute_told wire classify statement client
  rw [Remote.run]
  split
  · rename_i failure left refused
    have same : client.execute wire.recorded statement classify = (.error failure, left) := refused
    rw [same] at executed
    exact executed
  · rename_i begun taken
    have same : client.execute wire.recorded statement classify = (.ok (), begun) := taken
    rw [same] at executed
    exact executed.trans (printPages_told wire session begun)

end Client

theorem mem_faults {exchanges : List (Exchange Store)} {fault : Fault} :
    fault ∈ faults exchanges ↔ ∃ exchange ∈ exchanges, exchange.reply = .error fault := by
  rw [faults, List.mem_filterMap]
  refine exists_congr fun exchange => and_congr_right fun _ => ?_
  rcases exchange.reply with other | rows
  · simp
  · simp

/-- However a statement is classified and whatever the answers to it and to its pages are, an error
among them is the only one. It gives the code that is due for it, which is not 0, and it is reported
once. Besides it the failure of the cleanup is reported, if there is one. -/
theorem failures_told (wire : Wire Store) (classify : String → Sql.Kind) (statement : String)
    (shell : Shell World (Client (Recorded Store))) :
    let asked := Remote.run (Client.remote wire.recorded classify) statement shell.session shell.store
    let ran := Remote.executeOn (Client.remote wire.recorded classify) statement shell
    ∃ sent cleaning,
      shell.store.store.Grew wire asked.2.2.store sent ∧
      asked.2.2.store.Grew wire ran.2.store.store cleaning ∧
      (∀ exchange ∈ sent, ∀ fault, exchange.reply = .error fault →
        faults sent = [fault] ∧ ran.1 ≠ 0 ∧ fault.Due ran.1 ∧
          shell.session.Tells ran.2.session
            (fault.failure :: (faults cleaning).map Fault.failure)) ∧
      ((∀ exchange ∈ sent, ∃ rows, exchange.reply = .ok rows) →
        ran.1 = 0 ∧ shell.session.Tells ran.2.session ((faults cleaning).map Fault.failure)) := by
  intro asked ran
  obtain ⟨sent, grew, told⟩ : Told wire shell.store.store asked.2.2.store
      (Remote.failure? asked.1) := Client.run_told wire classify statement shell.session shell.store
  obtain ⟨cleaning, cleaned, also_told⟩ := Client.clean_told wire asked.2.2
  obtain ⟨code, tells⟩ : ran.1 = Remote.codeOf (Remote.failure? asked.1) ∧
      shell.session.Tells ran.2.session (Remote.reportsOf (Remote.failure? asked.1) ++
        (Remote.failure? (asked.2.2.clean wire.recorded).1).toList) :=
    Remote.executeOn_tells (Client.remote wire.recorded classify) statement shell
  have store := Remote.executeOn_store (Client.remote wire.recorded classify) statement shell
  refine ⟨sent, cleaning, grew, ?_, ?_, ?_⟩
  · rw [store]
    exact cleaned
  · intro exchange member fault refused
    have among : fault ∈ faults sent := mem_faults.mpr ⟨exchange, member, refused⟩
    have met : fault.failure ∈ (faults sent).map Fault.failure := List.mem_map_of_mem among
    rw [told, Option.mem_toList] at met
    have alone : (faults sent).length = 1 := by
      rw [← List.length_map Fault.failure, told, met]
      rfl
    obtain ⟨only, single⟩ := List.length_eq_one_iff.mp alone
    obtain rfl : fault = only := by simpa [single] using among
    have due : fault.Due fault.failure.code := Fault.due_iff.mpr rfl
    obtain ⟨own_code, one_report⟩ := Remote.codeOf_of_nonzero due.nonzero
    rw [met, own_code] at code
    rw [met, one_report, ← also_told] at tells
    rw [code]
    exact ⟨single, due.nonzero, due, tells⟩
  · intro fine
    have none_met : faults sent = [] := by
      refine List.eq_nil_iff_forall_not_mem.mpr fun fault member => ?_
      obtain ⟨exchange, among, refused⟩ := mem_faults.mp member
      obtain ⟨rows, given⟩ := fine exchange among
      rw [given] at refused
      cases refused
    rw [none_met] at told
    have succeeded : Remote.failure? asked.1 = none := Option.toList_eq_nil_iff.mp told.symm
    rw [succeeded] at code
    rw [succeeded, ← also_told] at tells
    exact ⟨code, tells⟩

theorem failures_told_of_class_zero :
    let fault : Fault := .refused "00000" "no such column"
    let server : Scripted.ServerState :=
      { scripts := [("SELECT a", { answer := .refused "00000" "no such column" })] }
    let shell : Shell Machine (Client (Recorded Scripted.ServerState)) :=
      ⟨{}, {}, { store := { server } }⟩
    let client := Client.remote Scripted.wire.recorded Sql.Kind.ofText
    let asked := Remote.run client "SELECT a" shell.session shell.store
    let ran := Remote.executeOn client "SELECT a" shell
    faults asked.2.2.store.exchanges = [fault] ∧ ran.1 ≠ 0 ∧ fault.Due ran.1 ∧
      fault.failure ∈ ran.2.session.reported := by
  intro fault server shell client asked ran
  have met : faults asked.2.2.store.exchanges = [fault] := by decide +kernel
  obtain ⟨sent, cleaning, grew, -, failing, -⟩ :=
    failures_told Scripted.wire Sql.Kind.ofText "SELECT a" shell
  have all : asked.2.2.store.exchanges = sent := grew.record
  have member : fault ∈ faults sent := by simp [← all, met]
  obtain ⟨exchange, among, refused⟩ := mem_faults.mp member
  obtain ⟨-, nonzero, due, tells⟩ := failing exchange among fault refused
  refine ⟨met, nonzero, due, ?_⟩
  rw [tells.log]
  simp

end Postgres

end QueryShell
