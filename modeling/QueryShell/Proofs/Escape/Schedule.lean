import Mathlib.Logic.Function.Basic
import QueryShell.Machine
import QueryShell.Proofs.Modes.Twin
import QueryShell.Proofs.Output.Growth
import QueryShell.Scripted.Engine

/-!
The shell escape under every schedule. The two copies of a child's output and the wait for its end
go on side by side, in whatever order the output arrives and however it is cut into reads. Every
schedule ends, and they all leave the same bytes in the sinks.
-/

namespace QueryShell

variable {World Store : Type}

open Relation (ReflTransGen)

namespace Session

def receive (bytes : ChildStream → ByteArray) (session : Session) : Session :=
  { session with
    out := session.out.extend (bytes .out)
    err := session.err.extend (bytes .err) }

theorem receive_empty {session : Session} : session.receive (fun _ => .empty) = session := by
  simp [receive]

end Session

namespace Escape

def joined (pieces : List ByteArray) : ByteArray := pieces.foldr (· ++ ·) .empty

theorem joined_append (first second : List ByteArray) :
    joined (first ++ second) = joined first ++ joined second := by
  induction first with
  | nil => exact ByteArray.empty_append.symm
  | cons piece rest ih =>
      calc
        piece ++ joined (rest ++ second) = piece ++ (joined rest ++ joined second) := by rw [ih]
        _ = joined (piece :: rest) ++ joined second := ByteArray.append_assoc.symm

theorem joined_reads (bytes : ByteArray) : joined (reads bytes) = bytes := by
  have upTo (count : Nat) :
      joined ((List.range count).map fun index =>
        bytes.extract (index * readSize) ((index + 1) * readSize)) =
          bytes.extract 0 (count * readSize) := by
    induction count with
    | zero => simp [joined]
    | succ count ih =>
        have next : count * readSize ≤ (count + 1) * readSize := Nat.mul_le_mul_right _ (by omega)
        rw [List.range_succ, List.map_append, joined_append, ih, List.map_singleton]
        simp only [joined, List.foldr_cons, List.foldr_nil, ByteArray.append_empty]
        rw [ByteArray.extract_append_extract, Nat.zero_min, Nat.max_eq_right next]
  have enough : bytes.size ≤ (bytes.size + readSize - 1) / readSize * readSize := by
    simp only [readSize]
    omega
  rw [reads, upTo, ← Nat.max_eq_left enough, ByteArray.extract_zero_max_size]

def brought (chunks : List Chunk) (stream : ChildStream) : ByteArray :=
  joined ((chunks.filter fun chunk => chunk.stream = stream).map Chunk.bytes)

theorem brought_cons (chunk : Chunk) (rest : List Chunk) (stream : ChildStream) :
    brought (chunk :: rest) stream =
      (if chunk.stream = stream then chunk.bytes else .empty) ++ brought rest stream := by
  by_cases same : chunk.stream = stream
  · simp [brought, same, joined]
  · simp [brought, same]

theorem copy_of_open (chunks : List Chunk) {session : Session} (outTakes : session.out.Open)
    (errTakes : session.err.Open) :
    copy {} chunks session = session.receive (brought chunks) := by
  induction chunks generalizing session with
  | nil => exact Session.receive_empty.symm
  | cons chunk rest ih =>
      have whole : (reads chunk.bytes).foldr (· ++ ·) .empty = chunk.bytes :=
        joined_reads chunk.bytes
      cases stream : chunk.stream with
      | out =>
          have later := @ih { session with out := session.out.extend chunk.bytes }
            (outTakes.extend _) errTakes
          simp only [copy, stream, if_true, offer_of_open _ outTakes, whole, later]
          simp [Session.receive, brought_cons, stream]
      | err =>
          have later := @ih { session with err := session.err.extend chunk.bytes }
            outTakes (errTakes.extend _)
          simp only [copy, stream, if_true, offer_of_open _ errTakes, whole, later]
          simp [Session.receive, brought_cons, stream]

/-- A stream of a child on its way to a sink: the chunks that are still to come, the bytes that came
and were not read, and whether the copy is over. -/
structure Lane where
  coming : List ByteArray
  pipe : ByteArray := .empty
  ended : Bool := false

namespace Lane

def rest (lane : Lane) : ByteArray := lane.pipe ++ joined lane.coming

def work (lane : Lane) : Nat :=
  lane.coming.length + lane.rest.size + (!lane.ended).toNat

end Lane

structure Scene where
  lane : ChildStream → Lane
  noticed : Bool := false
  session : Session

namespace Scene

def begin (chunks : List Chunk) (session : Session) : Scene where
  lane stream :=
    { coming := (chunks.filter fun chunk => chunk.stream = stream).map Chunk.bytes }
  session := session

def setLane (stream : ChildStream) (lane : Lane) (scene : Scene) : Scene :=
  { scene with lane := Function.update scene.lane stream lane }

def setSink (stream : ChildStream) (sink : Sink) (scene : Scene) : Scene :=
  { scene with session := scene.session.withSink stream sink }

structure Joined (scene : Scene) : Prop where
  ended : ∀ stream, (scene.lane stream).ended = true
  noticed : scene.noticed = true

def work (scene : Scene) : Nat :=
  (scene.lane .out).work + (scene.lane .err).work + (!scene.noticed).toNat

end Scene

/-- What can happen next. A chunk arrives; a copy reads some bytes and offers them to its sink, which
ends it if it refuses them; a copy meets the end of its stream; the end of the child is noticed,
whatever is still to be read. -/
inductive Step (scene : Scene) : Scene → Prop
  | arrived (stream : ChildStream) {chunk : ByteArray} {rest : List ByteArray}
      (coming : (scene.lane stream).coming = chunk :: rest) :
      Step scene (scene.setLane stream { scene.lane stream with
        coming := rest, pipe := (scene.lane stream).pipe ++ chunk })
  | read (stream : ChildStream) {piece left : ByteArray} {answer : Except String Unit} {sink : Sink}
      (goes_on : (scene.lane stream).ended = false)
      (parts : (scene.lane stream).pipe = piece ++ left)
      (some_bytes : 0 < piece.size) (fits : piece.size ≤ readSize)
      (offered : (scene.session.sink stream).write piece = (answer, sink)) :
      Step scene ((scene.setLane stream { scene.lane stream with
        pipe := left, ended := !answer.isOk }).setSink stream sink)
  | closed (stream : ChildStream) (goes_on : (scene.lane stream).ended = false)
      (none_coming : (scene.lane stream).coming = [])
      (emptied : (scene.lane stream).pipe = .empty) :
      Step scene (scene.setLane stream { scene.lane stream with ended := true })
  | noticed (unnoticed : scene.noticed = false) : Step scene { scene with noticed := true }

variable {scene before after : Scene}

theorem Scene.work_setLane (stream : ChildStream) (lane : Lane) (scene : Scene) :
    (scene.setLane stream lane).work + (scene.lane stream).work = scene.work + lane.work := by
  cases stream with
  | out =>
      simp [work, setLane]
      omega
  | err =>
      simp [work, setLane]
      omega

theorem Step.work_lt (step : Step before after) : after.work < before.work := by
  have set (stream : ChildStream) (lane : Lane) (less : lane.work < (before.lane stream).work) :
      (before.setLane stream lane).work < before.work := by
    have moved := before.work_setLane stream lane
    omega
  cases step with
  | arrived stream coming =>
      refine set stream _ ?_
      simp [Lane.work, Lane.rest, coming, joined, ByteArray.size_append]
      omega
  | @read stream piece left answer sink goes_on parts some_bytes fits offered =>
      -- A refusal ends the copy as well, which only leaves less to do.
      have still : answer.isOk.toNat ≤ 1 := Bool.toNat_le _
      refine set stream _ ?_
      simp [Lane.work, Lane.rest, goes_on, parts, ByteArray.size_append]
      omega
  | closed stream goes_on none_coming emptied =>
      refine set stream _ ?_
      simp [Lane.work, Lane.rest, goes_on, none_coming, emptied]
  | noticed unnoticed => simp [Scene.work, unnoticed]

theorem step_wellFounded : WellFounded fun after before : Scene => Step before after :=
  Subrelation.wf Step.work_lt (measure Scene.work).wf

theorem exists_step (unfinished : ¬scene.Joined) : ∃ next, Step scene next := by
  cases noticed : scene.noticed with
  | false => exact ⟨_, .noticed noticed⟩
  | true =>
      have going : ∃ stream, (scene.lane stream).ended = false := by
        by_contra all
        refine unfinished ⟨fun stream => ?_, noticed⟩
        exact Bool.of_not_eq_false fun goes_on => all ⟨stream, goes_on⟩
      obtain ⟨stream, goes_on⟩ := going
      cases coming : (scene.lane stream).coming with
      | cons chunk rest => exact ⟨_, .arrived stream coming⟩
      | nil =>
          by_cases emptied : (scene.lane stream).pipe = .empty
          · exact ⟨_, .closed stream goes_on coming emptied⟩
          · -- Of the reads that can happen, that of one byte is always there.
            have some_bytes : (scene.lane stream).pipe.size ≠ 0 := by
              simpa [ByteArray.size_eq_zero_iff] using emptied
            have parts : (scene.lane stream).pipe =
                (scene.lane stream).pipe.extract 0 1 ++
                  (scene.lane stream).pipe.extract 1 (scene.lane stream).pipe.size := by
              rw [ByteArray.extract_append_extract, Nat.zero_min, Nat.max_eq_right (by omega),
                ByteArray.extract_zero_size]
            have one : ((scene.lane stream).pipe.extract 0 1).size = 1 := by
              rw [ByteArray.size_extract]
              omega
            exact ⟨_, .read stream goes_on parts (by omega) (by simp [one, readSize]) rfl⟩

theorem exists_joined (scene : Scene) :
    ∃ final : Scene, ReflTransGen Step scene final ∧ final.Joined := by
  induction scene using step_wellFounded.induction with
  | _ scene ih =>
      by_cases finished : scene.Joined
      · exact ⟨scene, .refl, finished⟩
      · obtain ⟨next, step⟩ := exists_step finished
        obtain ⟨final, later, joined⟩ := ih next step
        exact ⟨final, .head step later, joined⟩

def Scene.promised (scene : Scene) : Session :=
  scene.session.receive fun stream => (scene.lane stream).rest

def Lane.Emptied (lane : Lane) : Prop :=
  lane.ended = true → lane.coming = [] ∧ lane.pipe = .empty

namespace Scene

/-- The sinks take everything, and they will have received what was promised once every copy is
over. -/
structure Faithful (promise : Session) (scene : Scene) : Prop where
  takes : ∀ stream, (scene.session.sink stream).Open
  promised : scene.promised = promise
  emptied : ∀ stream, (scene.lane stream).Emptied

variable {promise : Session}

theorem promised_setLane {stream : ChildStream} {lane : Lane}
    (same : lane.rest = (scene.lane stream).rest) :
    (scene.setLane stream lane).promised = scene.promised := by
  cases stream with
  | out => simp [Scene.promised, setLane, Session.receive, same]
  | err => simp [Scene.promised, setLane, Session.receive, same]

theorem promised_read {stream : ChildStream} {lane : Lane} {piece : ByteArray}
    (moved : (scene.lane stream).rest = piece ++ lane.rest) :
    ((scene.setLane stream lane).setSink stream
      ((scene.session.sink stream).extend piece)).promised = scene.promised := by
  cases stream with
  | out =>
      simp [Scene.promised, setLane, setSink, Session.withSink, Session.sink, Session.receive, moved]
  | err =>
      simp [Scene.promised, setLane, setSink, Session.withSink, Session.sink, Session.receive, moved]

theorem emptied_setLane (emptied : ∀ stream, (scene.lane stream).Emptied) {lane : Lane}
    (own : lane.Emptied) (stream other : ChildStream) :
    ((scene.setLane stream lane).lane other).Emptied := by
  simp only [setLane, Function.update_apply]
  split
  · exact own
  · exact emptied other

theorem sink_setSink (stream other : ChildStream) (sink : Sink) (scene : Scene) :
    (scene.setSink stream sink).session.sink other =
      if other = stream then sink else scene.session.sink other := by
  cases stream with
  | out | err =>
      cases other with
      | out | err => rfl

theorem Faithful.step (faithful : before.Faithful promise) (step : Step before after) :
    after.Faithful promise := by
  obtain ⟨takes, promised, emptied⟩ := faithful
  cases step with
  | @arrived stream chunk rest coming =>
      refine ⟨takes, ?_, emptied_setLane emptied (fun ends => ?_) stream⟩
      · rw [promised_setLane, promised]
        simp [Lane.rest, coming, joined, ByteArray.append_assoc]
      · -- A copy that is over has seen the end of its stream, so no chunk can follow.
        have nothing := (emptied stream ends).1
        rw [coming] at nothing
        cases nothing
  | @read stream piece left answer sink goes_on parts some_bytes fits offered =>
      rw [(takes stream).write piece] at offered
      obtain ⟨rfl, rfl⟩ := Prod.mk.inj offered
      refine ⟨fun other => ?_, ?_, emptied_setLane emptied (fun ends => ?_) stream⟩
      · rw [sink_setSink]
        split
        · exact (takes stream).extend piece
        · exact takes other
      · rw [promised_read, promised]
        simp [Lane.rest, parts, ByteArray.append_assoc]
      · cases ends
  | closed stream goes_on none_coming nothing =>
      have own : Lane.Emptied { before.lane stream with ended := true } :=
        fun _ => ⟨none_coming, nothing⟩
      refine ⟨takes, ?_, emptied_setLane emptied own stream⟩
      rw [promised_setLane, promised]
      rfl
  | noticed unnoticed => exact ⟨takes, promised, emptied⟩

theorem Faithful.steps (faithful : before.Faithful promise)
    (steps : ReflTransGen Step before after) : after.Faithful promise := by
  induction steps with
  | refl => exact faithful
  | tail _ step ih => exact ih.step step

theorem Faithful.of_joined (faithful : scene.Faithful promise) (joined : scene.Joined) :
    scene.session = promise := by
  have nothing (stream : ChildStream) : (scene.lane stream).rest = .empty := by
    obtain ⟨none_coming, emptied⟩ := faithful.emptied stream (joined.ended stream)
    rw [Lane.rest, none_coming, emptied]
    rfl
  have kept : scene.promised = scene.session := by
    rw [Scene.promised, funext nothing, Session.receive_empty]
  exact kept.symm.trans faithful.promised

theorem faithful_begin (chunks : List Chunk) {session : Session}
    (takes : ∀ stream, (session.sink stream).Open) :
    (begin chunks session).Faithful (session.receive (brought chunks)) := by
  refine ⟨takes, ?_, fun stream ends => by cases ends⟩
  simp only [Scene.promised, begin, Lane.rest, ByteArray.empty_append]
  rfl

end Scene

def complaint? : Except String ExitStatus → Option Failure
  | .error reason => some (.subprocess ("Failed to wait for child: " ++ reason))
  | .ok .signalled => some (.subprocess "Command terminated by signal")
  | .ok (.exited code) =>
      if code = 0 then none
      else some (.subprocess ("Command failed with exit code = " ++ toString code))

theorem complaint?_eq_none_iff {status : Except String ExitStatus} :
    complaint? status = none ↔ status = .ok (.exited 0) := by
  rcases status with reason | code | _
  · simp [complaint?]
  · simp [complaint?]
  · simp [complaint?]

theorem settle_code (status : Except String ExitStatus) (shell : Shell World Store) :
    (settle status shell).1 = match status with
      | .ok (.exited code) => code
      | _ => 1 := by
  rcases status with reason | code | _
  · rfl
  · by_cases success : code = 0
    · simp [settle, success]
    · simp [settle, success]
  · rfl

/-- The end of a child leaves the output alone and writes one line to the errors if it is reported. -/
theorem settle_of_open (status : Except String ExitStatus) (shell : Shell World Store)
    (takes : shell.session.err.Open) :
    (settle status shell).2.session.out = shell.session.out ∧
      (settle status shell).2.session.err = shell.session.err.extend
        (Sink.bytesOf ((complaint? status).toList.map Failure.message)) := by
  have reported (failure : Failure) :
      (shell.report failure).session.err =
        shell.session.err.extend (Sink.bytesOf [failure.message]) := by
    rw [Shell.report, Session.report_of_open takes]
  rcases status with reason | code | _
  · exact ⟨rfl, reported _⟩
  · by_cases success : code = 0
    · simp [settle, success, complaint?, Sink.bytesOf]
    · simp only [settle, success, complaint?, if_false]
      exact ⟨rfl, reported _⟩
  · exact ⟨rfl, reported _⟩

section Delivery

variable {platform : Platform World Store} {line : String} {child : Child}
  {shell started : Shell World Store}

theorem session_of_spawned
    (spawned : shell.withWorld (platform.host.spawn line) = (.ok child, started)) :
    started.session = shell.session := by
  obtain ⟨-, rfl⟩ := Prod.mk.inj spawned
  rfl

theorem session_of_joined
    (spawned : shell.withWorld (platform.host.spawn line) = (.ok child, started))
    (outTakes : shell.session.out.Open) (errTakes : shell.session.err.Open)
    (steps : ReflTransGen Step (.begin child.chunks started.session) scene)
    (joined : scene.Joined) : scene.session = shell.session.receive (brought child.chunks) := by
  rw [session_of_spawned spawned] at steps
  have takes (stream : ChildStream) : (shell.session.sink stream).Open := by
    cases stream with
    | out => exact outTakes
    | err => exact errTakes
  exact ((Scene.faithful_begin child.chunks takes).steps steps).of_joined joined

theorem run_of_open (spawned : shell.withWorld (platform.host.spawn line) = (.ok child, started))
    (outTakes : shell.session.out.Open) (errTakes : shell.session.err.Open) :
    run platform.host line shell =
      settle child.status
        { started with session := shell.session.receive (brought child.chunks) } := by
  rw [run, spawned]
  simp only [session_of_spawned spawned, copy_of_open child.chunks outTakes errTakes]

/-- Whatever statements come after an escape write behind all that it wrote. -/
theorem later_grows {event : Run.Event World Store} {later : List (Run.Event World Store)}
    {final : Shell World Store} (linked : Run.Linked platform shell (event :: later) final)
    (command : Command.ofStatement event.statement = .shell line) :
    (event.step, event.after) = Run.finished (run platform.host line shell) ∧
      (run platform.host line shell).2.session.Grows final.session := by
  cases linked with
  | cons _ asked others =>
      have finished : (event.step, event.after) =
          Run.finished (run platform.host line event.before) := by
        rw [← asked]
        simp only [Run.dispatch, command]
      have reached : event.after = (run platform.host line event.before).2 :=
        congrArg Prod.snd finished
      refine ⟨finished, ?_⟩
      rw [← reached]
      exact others.evolves.grows

/-- However the output of a child arrives, is read and meets its end, the escape comes to an end, and
not before the sinks have received all bytes of the child in order. Then at most one line follows,
unless the child succeeded, and behind that whatever later statements write. -/
theorem every_schedule_delivers
    (spawned : shell.withWorld (platform.host.spawn line) = (.ok child, started))
    (outTakes : shell.session.out.Open) (errTakes : shell.session.err.Open) :
    let start := Scene.begin child.chunks started.session
    let returned := run platform.host line shell
    WellFounded (fun after before : Scene => Step before after) ∧
    (∃ scene, ReflTransGen Step start scene ∧ scene.Joined) ∧
    (∀ scene, ReflTransGen Step start scene →
      (¬scene.Joined → ∃ next, Step scene next) ∧
      (scene.Joined →
        scene.session = shell.session.receive (brought child.chunks) ∧
        settle child.status { started with session := scene.session } = returned)) ∧
    (returned.1 = match child.status with
      | .ok (.exited code) => code
      | _ => 1) ∧
    returned.2.session.out = shell.session.out.extend (brought child.chunks .out) ∧
    returned.2.session.err = shell.session.err.extend (brought child.chunks .err ++
      Sink.bytesOf ((complaint? child.status).toList.map Failure.message)) ∧
    (complaint? child.status = none ↔ child.status = .ok (.exited 0)) ∧
    ∀ event later final, Run.Linked platform shell (event :: later) final →
      Command.ofStatement event.statement = .shell line →
      (event.step, event.after) = Run.finished returned ∧
        returned.2.session.Grows final.session := by
  intro start returned
  have ran : returned = settle child.status
      { started with session := shell.session.receive (brought child.chunks) } :=
    run_of_open spawned outTakes errTakes
  obtain ⟨out, err⟩ := settle_of_open child.status
    { started with session := shell.session.receive (brought child.chunks) } (errTakes.extend _)
  refine ⟨step_wellFounded, exists_joined start, fun scene steps => ⟨exists_step, fun joined => ?_⟩,
    ?_, ?_, ?_, complaint?_eq_none_iff, fun event later final linked => later_grows linked⟩
  · have delivered := session_of_joined spawned outTakes errTakes steps joined
    exact ⟨delivered, by rw [delivered, ran]⟩
  · rw [ran]
    exact settle_code _ _
  · rw [ran]
    exact out
  · rw [ran, err]
    exact Sink.extend_extend _ _

theorem every_schedule_delivers_then_report :
    let child : Child :=
      { beforeEnd := [⟨.out, "one\n".toUTF8⟩, ⟨.err, "oops\n".toUTF8⟩]
        status := .ok (.exited 3)
        afterEnd := [⟨.out, "two\n".toUTF8⟩] }
    let host : Host Machine := { Machine.host with spawn := fun _ machine => (.ok child, machine) }
    let platform : Platform Machine Scripted.EngineState := ⟨host, .local Scripted.engine⟩
    let start : Shell Machine Scripted.EngineState := ⟨{}, {}, {}⟩
    let returned := run host "count" start
    (∃ scene, ReflTransGen Step (Scene.begin child.chunks start.session) scene ∧ scene.Joined ∧
      scene.session.out.text = "one\ntwo\n" ∧ scene.session.err.text = "oops\n") ∧
    returned.1 = 3 ∧ returned.2.session.out.text = "one\ntwo\n" ∧
    returned.2.session.err.text =
      "oops\nShell command error: Command failed with exit code = 3\n" ∧
    (Run.dispatch platform "!count" 1 start).2.session = returned.2.session := by
  intro child host platform start returned
  have spawned : start.withWorld (platform.host.spawn "count") = (.ok child, start) := rfl
  have delivered := every_schedule_delivers spawned (fun _ _ => rfl) (fun _ _ => rfl)
  obtain ⟨-, ⟨scene, steps, joined⟩, schedules, code, out, err, -, later⟩ := delivered
  have received := ((schedules scene steps).2 joined).1
  have command : Command.ofStatement "!count" = .shell "count" := by decide +kernel
  have dispatched := later ⟨"!count", 1, start, _, _⟩ [] _ (.single rfl) command
  refine ⟨⟨scene, steps, joined, ?_, ?_⟩, code, ?_, ?_, ?_⟩
  · rw [received]
    decide +kernel
  · rw [received]
    decide +kernel
  · exact (congrArg Sink.text out).trans (by decide +kernel)
  · exact (congrArg Sink.text err).trans (by decide +kernel)
  · exact congrArg (fun result => result.2.session) dispatched.1

end Delivery

end Escape

end QueryShell
