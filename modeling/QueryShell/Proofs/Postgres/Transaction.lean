import Mathlib.Tactic.ByContra
import QueryShell.Proofs.Postgres.Exchange

/-!
The transaction blocks of a server: what opens, keeps and ends them, who opened the one that is open
and which requests fit it. A cursor in a transaction of its own leaves no block open, and one in a
block of the user leaves that block open.
-/

namespace QueryShell.Sql

inductive Command where
  | begin
  | commit (chain : Bool)
  | rollback (chain : Bool)
  | rollbackTo (savepoint : String)
deriving DecidableEq, Repr

namespace Command

def ends : Command → Bool
  | begin => false
  | commit chain => !chain
  | rollback chain => !chain
  | rollbackTo _ => false

def goesOn : Command → Bool
  | begin => false
  | commit chain => chain
  | rollback chain => chain
  | rollbackTo _ => true

def kind : Command → Kind
  | begin => .opening
  | commit _ => .ending
  | rollback _ => .ending
  | rollbackTo _ => .ending

theorem kind_of_ends {command : Command} (ends : command.ends = true) :
    command.kind = .ending := by
  cases command with
  | begin => cases ends
  | commit | rollback | rollbackTo => rfl

theorem kind_of_goesOn {command : Command} (goesOn : command.goesOn = true) :
    command.kind = .ending := by
  cases command with
  | begin => cases goesOn
  | commit | rollback | rollbackTo => rfl

theorem cases_ends (command : Command) :
    command = .begin ∨ command.ends = true ∨ command.goesOn = true := by
  cases command with
  | begin => exact .inl rfl
  | commit chain | rollback chain =>
      cases chain with
      | false => exact .inr (.inl rfl)
      | true => exact .inr (.inr rfl)
  | rollbackTo savepoint => exact .inr (.inr rfl)

end Command

/-- A classifier that knows the commands of a server: it takes BEGIN and START TRANSACTION for the
opening of a transaction and COMMIT, END and ROLLBACK for its end, also with AND CHAIN or with TO
SAVEPOINT. -/
structure Knows (classify : String → Kind) (command? : String → Option Command) : Prop where
  begin : ∀ {text}, command? text = some .begin → classify text = .opening
  commit : ∀ {text chain}, command? text = some (.commit chain) → classify text = .ending
  rollback : ∀ {text chain}, command? text = some (.rollback chain) → classify text = .ending
  rollbackTo : ∀ {text savepoint},
    command? text = some (.rollbackTo savepoint) → classify text = .ending

theorem Knows.kind {classify : String → Kind} {command? : String → Option Command}
    (knows : Knows classify command?) {text : String} {command : Command}
    (read : command? text = some command) : classify text = command.kind := by
  cases command with
  | begin => exact knows.begin read
  | commit chain => exact knows.commit read
  | rollback chain => exact knows.rollback read
  | rollbackTo savepoint => exact knows.rollbackTo read

end QueryShell.Sql

namespace QueryShell.Postgres

variable {World Store : Type} {wire : Wire Store} {command? : String → Option Sql.Command}
  {inBlock : Store → Bool}

namespace Request

inductive OpensBlock (command? : String → Option Sql.Command) : Request → Prop
  | own : OpensBlock command? .openTransaction
  | user {text : String} (opens : command? text = some .begin) :
      OpensBlock command? (.statement text)

inductive EndsBlock (command? : String → Option Sql.Command) : Request → Prop
  | own : EndsBlock command? .closeTransaction
  | user {text : String} {command : Sql.Command} (read : command? text = some command)
      (ends : command.ends = true) : EndsBlock command? (.statement text)

inductive ForCursor : Request → Prop
  | open (query : String) : ForCursor (.openCursor query)
  | fetch (count : Nat) : ForCursor (.fetch count)
  | close : ForCursor .closeCursor

end Request

/-- A server with transaction blocks that answers every request. What opens a block opens none if it
is refused; what ends the block ends it also with an error; going back to a savepoint and chaining
leave the block open. Nothing is said of statements that are no such commands to it. -/
structure Wire.KeepsBlocks (wire : Wire Store) (command? : String → Option Sql.Command)
    (inBlock : Store → Bool) : Prop where
  answers : ∀ request server reason, (wire.send request server).1 ≠ .error (.lost reason)
  opened : ∀ {request server rows}, Request.OpensBlock command? request →
    (wire.send request server).1 = .ok rows → inBlock (wire.send request server).2 = true
  unopened : ∀ {request server fault}, Request.OpensBlock command? request →
    (wire.send request server).1 = .error fault →
      inBlock (wire.send request server).2 = inBlock server
  ended : ∀ {request} server, Request.EndsBlock command? request →
    inBlock (wire.send request server).2 = false
  kept : ∀ {text command server rows}, command? text = some command → command.goesOn = true →
    (wire.send (.statement text) server).1 = .ok rows →
      inBlock (wire.send (.statement text) server).2 = inBlock server
  lent : ∀ {request} server, Request.ForCursor request →
    inBlock (wire.send request server).2 = inBlock server

inductive Party where
  | user
  | session
deriving DecidableEq, Repr

def Request.party : Request → Party
  | .statement _ => .user
  | _ => .session

def Exchange.opener (wire : Wire Store) (inBlock : Store → Bool) (before : Option Party)
    (exchange : Exchange Store) : Option Party :=
  if inBlock (wire.send exchange.request exchange.server).2 then
    if inBlock exchange.server then before else some exchange.request.party
  else none

def Recorded.opener (wire : Wire Store) (inBlock : Store → Bool) (record : Recorded Store) :
    Option Party :=
  record.exchanges.foldl (Exchange.opener wire inBlock) none

/-- A session opens and ends no transaction inside a block of the user and declares no cursor
outside every block. -/
def Request.Fits (opener : Option Party) (isOpen : Bool) : Request → Prop
  | .openTransaction => opener ≠ some .user
  | .closeTransaction => opener ≠ some .user
  | .openCursor _ => isOpen = true
  | .statement _ => True
  | .fetch _ => True
  | .closeCursor => True

def Orderly (wire : Wire Store) (inBlock : Store → Bool) :
    Option Party → List (Exchange Store) → Prop
  | _, [] => True
  | opener, exchange :: rest =>
      exchange.request.Fits opener (inBlock exchange.server) ∧
        Orderly wire inBlock (exchange.opener wire inBlock opener) rest

theorem orderly_append (front back : List (Exchange Store)) (opener : Option Party) :
    Orderly wire inBlock opener (front ++ back) ↔ Orderly wire inBlock opener front ∧
      Orderly wire inBlock (front.foldl (Exchange.opener wire inBlock) opener) back := by
  induction front generalizing opener with
  | nil => simp [Orderly]
  | cons exchange rest ih =>
      simp only [List.cons_append, Orderly, ih, List.foldl_cons]
      exact and_assoc.symm

theorem Wire.Path.head {first last : Store} {exchange : Exchange Store}
    {rest : List (Exchange Store)} (path : wire.Path first (exchange :: rest) last) :
    exchange.server = first := by
  cases path
  rfl

theorem Fetches.forCursor {fetches : List (Exchange Store)} (fetched : Fetches fetches) :
    ∀ exchange ∈ fetches, exchange.request.ForCursor := by
  induction fetched with
  | last reply server =>
      intro exchange member
      obtain rfl := List.mem_singleton.mp member
      exact .fetch Remote.pageSize
  | more server full later ih =>
      intro exchange member
      rcases List.mem_cons.mp member with rfl | later
      · exact .fetch Remote.pageSize
      · exact ih exchange later

theorem CursorUse.head {query : String} {use : List (Exchange Store)}
    (used : CursorUse query use) :
    ∃ exchange rest, use = exchange :: rest ∧ exchange.request = .openCursor query := by
  cases used with
  | refused fault server => exact ⟨_, _, rfl, rfl⟩
  | opened rows server fetched => exact ⟨_, _, rfl, rfl⟩

theorem CursorUse.forCursor {query : String} {use : List (Exchange Store)}
    (used : CursorUse query use) : ∀ exchange ∈ use, exchange.request.ForCursor := by
  intro exchange member
  cases used with
  | refused fault server =>
      obtain rfl := List.mem_singleton.mp member
      exact .open query
  | opened rows server fetched =>
      rcases List.mem_cons.mp member with rfl | later
      · exact .open query
      · exact fetched.forCursor exchange later

theorem Wire.Path.lent (laws : wire.KeepsBlocks command? inBlock) {first last : Store}
    {exchanges : List (Exchange Store)} (path : wire.Path first exchanges last)
    (forCursor : ∀ exchange ∈ exchanges, exchange.request.ForCursor)
    (inside : inBlock first = true) (opener : Option Party) :
    inBlock last = true ∧ exchanges.foldl (Exchange.opener wire inBlock) opener = opener ∧
      Orderly wire inBlock opener exchanges := by
  induction path with
  | nil => exact ⟨inside, rfl, trivial⟩
  | cons request server later ih =>
      have asked : request.ForCursor := forCursor _ List.mem_cons_self
      have still : inBlock (wire.send request server).2 = true := by
        rw [laws.lent server asked, inside]
      have same : (wire.exchange request server).opener wire inBlock opener = opener := by
        simp only [Exchange.opener, Wire.exchange, still, inside, if_true]
      have fits : request.Fits opener (inBlock server) := by
        cases asked with
        | «open» query => exact inside
        | fetch count => trivial
        | close => trivial
      obtain ⟨final, kept, orderly⟩ :=
        ih (fun exchange member => forCursor exchange (List.mem_cons_of_mem _ member)) still
      refine ⟨final, ?_, fits, ?_⟩
      · rw [List.foldl_cons, same, kept]
      · rwa [same]

namespace Recorded

variable {record : Recorded Store} {request : Request}

theorem opener_after (request : Request) (record : Recorded Store) :
    (record.after wire request).opener wire inBlock =
      if inBlock (record.after wire request).server then
        if inBlock record.server then record.opener wire inBlock else some request.party
      else none := by
  rw [opener, after, List.foldl_append]
  rfl

theorem orderly_after (orderly : Orderly wire inBlock none record.exchanges)
    (fits : request.Fits (record.opener wire inBlock) (inBlock record.server)) :
    Orderly wire inBlock none (record.after wire request).exchanges := by
  rw [after, orderly_append]
  exact ⟨orderly, fits, trivial⟩

structure Settled (wire : Wire Store) (inBlock : Store → Bool) (record : Recorded Store) :
    Prop where
  orderly : Orderly wire inBlock none record.exchanges
  opener : record.opener wire inBlock = if inBlock record.server then some .user else none

theorem lent (laws : wire.KeepsBlocks command? inBlock) {last : Recorded Store}
    {exchanges : List (Exchange Store)} (grew : record.Grew wire last exchanges)
    (forCursor : ∀ exchange ∈ exchanges, exchange.request.ForCursor)
    (inside : inBlock record.server = true)
    (orderly : Orderly wire inBlock none record.exchanges) :
    inBlock last.server = true ∧ last.opener wire inBlock = record.opener wire inBlock ∧
      Orderly wire inBlock none last.exchanges := by
  obtain ⟨still, kept, later⟩ :=
    grew.path.lent laws forCursor inside (record.opener wire inBlock)
  refine ⟨still, ?_, ?_⟩
  · rw [opener, grew.record, List.foldl_append]
    exact kept
  · rw [grew.record, orderly_append]
    exact ⟨orderly, later⟩

end Recorded

namespace Recorded.Settled

variable {record : Recorded Store}

theorem statement (settled : record.Settled wire inBlock) (text : String) :
    (record.after wire (.statement text)).Settled wire inBlock := by
  refine ⟨orderly_after settled.orderly trivial, ?_⟩
  rw [opener_after, settled.opener]
  cases inBlock record.server with
  | true => rfl
  | false => rfl

theorem of_closed (closed : inBlock record.server = false)
    (orderly : Orderly wire inBlock none record.exchanges)
    (opener : record.opener wire inBlock = none) : record.Settled wire inBlock := by
  refine ⟨orderly, ?_⟩
  rw [opener, closed, if_neg Bool.false_ne_true]

/-- Outside every block a session may open a transaction of its own. -/
theorem orderly_opened (settled : record.Settled wire inBlock)
    (outside : inBlock record.server = false) :
    Orderly wire inBlock none (record.after wire .openTransaction).exchanges := by
  have unopened : record.opener wire inBlock = none := by
    rw [settled.opener, outside, if_neg Bool.false_ne_true]
  refine orderly_after settled.orderly ?_
  rw [unopened]
  exact (Option.some_ne_none Party.user).symm

theorem unopened (laws : wire.KeepsBlocks command? inBlock) {fault : Fault}
    (settled : record.Settled wire inBlock) (outside : inBlock record.server = false)
    (refused : (wire.send .openTransaction record.server).1 = .error fault) :
    inBlock (record.after wire .openTransaction).server = false ∧
      (record.after wire .openTransaction).Settled wire inBlock := by
  have still : inBlock (record.after wire .openTransaction).server = false := by
    rw [after, laws.unopened .own refused, outside]
  refine ⟨still, of_closed still (settled.orderly_opened outside) ?_⟩
  rw [opener_after, still, if_neg Bool.false_ne_true]

theorem owned (laws : wire.KeepsBlocks command? inBlock) {rows : List Row} {last : Recorded Store}
    {use : List (Exchange Store)} (settled : record.Settled wire inBlock)
    (outside : inBlock record.server = false)
    (granted : (wire.send .openTransaction record.server).1 = .ok rows)
    (grew : (record.after wire .openTransaction).Grew wire last use)
    (forCursor : ∀ exchange ∈ use, exchange.request.ForCursor) :
    inBlock (last.after wire .closeTransaction).server = false ∧
      (last.after wire .closeTransaction).Settled wire inBlock := by
  have inside : inBlock (record.after wire .openTransaction).server = true :=
    laws.opened .own granted
  have own : (record.after wire .openTransaction).opener wire inBlock = some .session := by
    rw [opener_after, inside, outside, if_pos rfl, if_neg Bool.false_ne_true]
    rfl
  obtain ⟨-, kept, orderly⟩ :=
    lent laws grew forCursor inside (settled.orderly_opened outside)
  have closed : inBlock (last.after wire .closeTransaction).server = false :=
    laws.ended last.server .own
  have ends : Request.closeTransaction.Fits (last.opener wire inBlock) (inBlock last.server) := by
    rw [kept, own]
    exact fun same => Party.noConfusion (Option.some.inj same)
  refine ⟨closed, of_closed closed (orderly_after orderly ends) ?_⟩
  rw [opener_after, closed, if_neg Bool.false_ne_true]

theorem borrowed (laws : wire.KeepsBlocks command? inBlock) {last : Recorded Store}
    {use : List (Exchange Store)} (settled : record.Settled wire inBlock)
    (inside : inBlock record.server = true) (grew : record.Grew wire last use)
    (forCursor : ∀ exchange ∈ use, exchange.request.ForCursor) :
    inBlock (last.after wire .closeCursor).server = true ∧
      (last.after wire .closeCursor).Settled wire inBlock := by
  obtain ⟨inside_last, kept, orderly⟩ := lent laws grew forCursor inside settled.orderly
  have still : inBlock (last.after wire .closeCursor).server = true := by
    rw [after, laws.lent last.server .close, inside_last]
  refine ⟨still, orderly_after orderly trivial, ?_⟩
  rw [opener_after, still, inside_last, kept, settled.opener, inside]
  rfl

end Recorded.Settled

def Request.blockAfter (command? : String → Option Sql.Command) (granted before : Bool) :
    Request → Bool
  | .openTransaction => granted || before
  | .closeTransaction => false
  | .statement text =>
      match command? text with
      | some .begin => granted || before
      | some command => !command.ends && before
      | none => before
  | .openCursor _ => before
  | .fetch _ => before
  | .closeCursor => before

def Wire.ofBlock (command? : String → Option Sql.Command) (refuses : Request → Bool) :
    Wire Bool where
  send request isOpen :=
    (if refuses request then .error (.refused "40001" "refused") else .ok [],
      request.blockAfter command? (!refuses request) isOpen)
  backlog _ := 0
  backlog_send := by
    intro count before after rows sent positive full
    have reply := congrArg Prod.fst sent
    by_cases refused : refuses (.fetch count)
    · rw [refused] at reply
      cases reply
    · rw [if_neg refused] at reply
      obtain rfl := Except.ok.inj reply
      simp at full
      omega

namespace Wire

variable {refuses : Request → Bool} {request : Request} {isOpen : Bool}

theorem ofBlock_reply : ((ofBlock command? refuses).send request isOpen).1 =
    if refuses request then .error (.refused "40001" "refused") else .ok [] := rfl

theorem ofBlock_granted {rows : List Row}
    (granted : ((ofBlock command? refuses).send request isOpen).1 = .ok rows) :
    refuses request = false := by
  by_contra refused
  rw [ofBlock_reply, if_pos (Bool.of_not_eq_false refused)] at granted
  cases granted

theorem ofBlock_refused {fault : Fault}
    (refused : ((ofBlock command? refuses).send request isOpen).1 = .error fault) :
    refuses request = true := by
  by_contra accepted
  rw [ofBlock_reply, if_neg accepted] at refused
  cases refused

theorem ofBlock_keepsBlocks (command? : String → Option Sql.Command) (refuses : Request → Bool) :
    (ofBlock command? refuses).KeepsBlocks command? id := by
  constructor
  case answers =>
    intro request isOpen reason lost
    have refused := ofBlock_refused lost
    rw [ofBlock_reply, if_pos refused] at lost
    cases lost
  case opened =>
    intro request isOpen rows opens reply
    have accepted := ofBlock_granted reply
    cases opens with
    | own => simp [ofBlock, Request.blockAfter, accepted]
    | user opens => simp [ofBlock, Request.blockAfter, accepted, opens]
  case unopened =>
    intro request isOpen fault opens reply
    have refusal := ofBlock_refused reply
    cases opens with
    | own => simp [ofBlock, Request.blockAfter, refusal]
    | user opens => simp [ofBlock, Request.blockAfter, refusal, opens]
  case ended =>
    intro request isOpen ends
    cases ends with
    | own => rfl
    | @user text command read ends =>
        cases command with
        | begin => cases ends
        | commit | rollback | rollbackTo => simp [ofBlock, Request.blockAfter, read, ends]
  case kept =>
    intro text command isOpen rows read goesOn _
    cases command with
    | begin => cases goesOn
    | commit chain | rollback chain =>
        simp only [Sql.Command.goesOn] at goesOn
        simp [ofBlock, Request.blockAfter, read, goesOn, Sql.Command.ends]
    | rollbackTo savepoint => simp [ofBlock, Request.blockAfter, read, Sql.Command.ends]
  case lent =>
    intro request isOpen forCursor
    cases forCursor with
    | «open» query => rfl
    | fetch count => rfl
    | close => rfl

end Wire

end QueryShell.Postgres
