import EntityEngine.Proofs.Conversation
import EntityEngine.Proofs.Interpretation

/-!
# Verdicts on commands

The life of an entity is its present incarnation; where there is none, because the
channel has not begun or the entity was deleted, it is the fresh one that the next
message would begin with. Everything a message does is said in terms of the life.

A command is heard by its handler, what the handler comes to is judged, and the
verdict alone decides the answer and the next state of the session.
-/

namespace EntityEngine

inductive Hearing (S E : Type) where
  | crashed (crash : Crash)
  | givenUp
  | ended (ending : Except CommandError (Effect S E))

inductive Verdict (S : Type) where
  | crashed (crash : Crash)
  | givenUp
  | refused (error : CommandError)
  | granted (result : CommandResult S)

/-- Judge what a handler came to, for an entity with the given life. -/
def Entity.judge (E : Entity) (policy : SnapshotPolicy) (life : Incarnation E.State)
    (operation : String) : Hearing E.State E.Event → Verdict E.State
  | .crashed crash => .crashed crash
  | .givenUp => .givenUp
  | .ended (.error e) => .refused e
  | .ended (.ok effect) =>
    match effect.interpret E.mechanics life.state
        ⟨operation, E.model, policy, life.position.current⟩ with
    | .ok result => .granted result
    | .error defect => .refused (.effect defect)

theorem interpreted_of_judge {E : Entity} {policy : SnapshotPolicy}
    {life : Incarnation E.State} {operation : String} {heard : Hearing E.State E.Event}
    {result : CommandResult E.State}
    (granted : E.judge policy life operation heard = .granted result) :
    ∃ effect, heard = .ended (.ok effect) ∧ Effect.Interpreted E.mechanics effect life.state
      ⟨operation, E.model, policy, life.position.current⟩ result := by
  cases heard with
  | crashed crash => cases granted
  | givenUp => cases granted
  | ended ending =>
      cases ending with
      | error e => cases granted
      | ok effect =>
          simp only [Entity.judge] at granted
          split at granted
          · next interpreted =>
              cases granted
              exact ⟨effect, rfl, Effect.interpreted_of_ok interpreted⟩
          · cases granted

def CommandResult.toReply {S : Type} (result : CommandResult S) (commandId : UInt64) : Reply where
  commandId := commandId
  clientAction := result.clientAction
  emittedEvents := result.events
  snapshot := result.snapshot
  stateUpdate := result.stateUpdate
  deleteAfter := result.deletes

def CommandError.answer (e : CommandError) (commandId : UInt64) (id : Uuid) : Outbound :=
  match e.severity with
  | .validation => .reply ⟨commandId, Session.rejectionAction e, [], none, none, false⟩
  | _ => .failure ⟨some commandId, s!"unexpected error [{id.text}]", some id⟩

def Verdict.ending {S : Type} (v : Verdict S) (commandId : UInt64) (id : Uuid) : Ending :=
  match v with
  | .crashed crash => .crashed crash
  | .givenUp => .cancelled
  | .refused e => .answered (e.answer commandId id)
  | .granted result => .answered (.reply (result.toReply commandId))

/-- The life after a result, unless that deletes it. -/
def Incarnation.after {S : Type} (life : Incarnation S) (result : CommandResult S) :
    Incarnation S where
  state := result.nextState.getD life.state
  position := match result.snapshot with
    | some snapshot =>
      (life.position.advance result.events.length).markSnapshot snapshot.sequenceNumber
    | none => life.position.advance result.events.length

@[simp] theorem Incarnation.state_after {S : Type} (life : Incarnation S)
    (result : CommandResult S) : (life.after result).state = result.nextState.getD life.state :=
  rfl

@[simp] theorem Incarnation.current_after {S : Type} (life : Incarnation S)
    (result : CommandResult S) :
    (life.after result).position.current =
      life.position.current + UInt64.ofNat result.events.length := by
  unfold Incarnation.after
  cases result.snapshot <;> rfl

def Verdict.life {S : Type} (v : Verdict S) (blank : S) (life : Incarnation S) : Incarnation S :=
  match v with
  | .granted result => if result.deletes then .fresh blank else life.after result
  | _ => life

namespace Session

variable {E : Entity} {blank : E.State} {s : Session E}

def life (s : Session E) (blank : E.State) : Incarnation E.State :=
  s.incarnation.getD (.fresh blank)

/-- The session has begun and not ended. -/
def Live (s : Session E) : Prop := s.phase = .replaying ∨ s.phase = .active

/-- The session once a command or a snapshot request has reached it. -/
def awake (s : Session E) (blank : E.State) : Session E :=
  { s with
    phase := .active
    incarnation := some (s.life blank)
    deleted := s.deleted && s.incarnation.isSome }

@[simp] theorem phase_awake : (s.awake blank).phase = .active := rfl

theorem sequenceNumber_getD (s : Session E) (blank : E.State) :
    s.sequenceNumber?.getD 0 = (s.life blank).position.current := by
  unfold sequenceNumber? Session.life
  cases s.incarnation <;> rfl

theorem state_getD (s : Session E) (blank : E.State) :
    s.state?.getD blank = (s.life blank).state := by
  unfold state? Session.life
  cases s.incarnation <;> rfl

theorem lastSnapshot_getD (s : Session E) (blank : E.State) :
    s.lastSnapshot?.getD 0 = (s.life blank).position.lastSnapshot := by
  unfold lastSnapshot? Session.life
  cases s.incarnation <;> rfl

theorem present_eq (empty : E.emptyState = .ok blank) : s.present = .ok (s.life blank) := by
  unfold present life
  cases s.incarnation with
  | none => simp only [empty, Except.map, Option.getD_none]
  | some life => rfl

/-- Waking an entity never fails when it has an empty state. -/
theorem revive_eq (empty : E.emptyState = .ok blank) :
    ∃ notices, ({ s with phase := .active } : Session E).revive =
      (s.awake blank, notices, .ok (s.life blank)) := by
  obtain ⟨options, phase, identity, incarnation, deleted⟩ := s
  cases incarnation with
  | some life => exact ⟨[], by simp [revive, present, awake, Session.life]⟩
  | none =>
      cases deleted <;>
        exact ⟨_, by simp only [revive, present, empty]; rfl⟩

def settle (s : Session E) : Verdict E.State → Session E
  | .granted result => s.commit result
  | _ => s

theorem life_settle (s : Session E) (blank : E.State) (v : Verdict E.State) :
    ((s.awake blank).settle v).life blank = v.life blank (s.life blank) := by
  cases v with
  | granted result =>
      simp only [settle, commit, Verdict.life, Incarnation.after]
      split <;> rfl
  | _ => rfl

/-- The context of a command, and what the channels share once it is open. -/
def summon (s : Session E) (blank : E.State) (shared : Shared E.Memory) (command : Command) :
    Context × Shared E.Memory :=
  let info : SpanInfo :=
    ⟨E.name, command.entityId, command.operation, command.commandId, command.metadata⟩
  let (context, board) := shared.board.openContext command.entityId
    (s.life blank).position.current command.operation command.commandId command.metadata
    (s.options.tracer.start info)
  (context, { shared with board })

/-- What a host gets to hear of a handler that was called, for as long as it is patient. -/
def attend (ticket : Ticket) (shared : Shared E.Memory) (patience : Nat) :
    Except CommandError (Attempt (Activity E.Memory E.State E.Event)) → Hearing E.State E.Event
  | .error e => .ended (.error e)
  | .ok (.error crash) => .crashed crash
  | .ok (.ok activity) =>
    match (await ticket patience activity shared).1 with
    | some ending => .ended ending
    | none => .givenUp

def hearing (s : Session E) (blank : E.State) (shared : Shared E.Memory) (command : Command)
    (patience : Nat) : Hearing E.State E.Event :=
  let opened := s.summon blank shared command
  attend ⟨command.commandId, command.operation, (s.life blank).position.current, opened.1⟩
    opened.2 patience
    (E.dispatch command.operation (s.life blank).state opened.1 command.payload)

def verdict (s : Session E) (blank : E.State) (shared : Shared E.Memory) (command : Command)
    (patience : Nat) : Verdict E.State :=
  E.judge s.options.policy (s.life blank) command.operation
    (s.hearing blank shared command patience)

theorem refuse_active (active : s.phase = .active) (shared : Shared E.Memory) (ticket : Ticket)
    (e : CommandError) :
    ∃ id, (s.refuse shared ticket e).session = s ∧
      (s.refuse shared ticket e).response = .answered (e.answer ticket.commandId id) := by
  refine ⟨shared.draw.1, ?_⟩
  unfold refuse CommandError.answer
  cases severity : e.severity with
  | validation => exact ⟨by simp [endIfFatal, Severity.isFatalIn], rfl⟩
  | unexpected => exact ⟨by simp [endIfFatal, Severity.isFatalIn, active], rfl⟩
  | protocol =>
      unfold CommandError.severity at severity
      split at severity <;> cases severity

/-- The end of a command follows from what its handler came to. -/
theorem conclude_eq {life : Incarnation E.State} (active : s.phase = .active)
    (living : s.incarnation = some life) (shared : Shared E.Memory) (ticket : Ticket)
    (current : ticket.sequenceNumber = life.position.current)
    (ending : Except CommandError (Effect E.State E.Event)) :
    let v := E.judge s.options.policy life ticket.operation (.ended ending)
    ∃ id, (s.conclude shared ticket ending).session = s.settle v ∧
      (s.conclude shared ticket ending).response.ending = v.ending ticket.commandId id := by
  intro v
  cases ending with
  | error e =>
      obtain ⟨id, same, answered⟩ := refuse_active active (abandon shared ticket) ticket e
      exact ⟨id, same, by simp only [conclude, answered]; rfl⟩
  | ok effect =>
      have unchanged : ({ s with incarnation := some life } : Session E) = s := by
        rw [← living]
      have here : s.present = .ok life := by simp only [present, living]
      simp only [v, Entity.judge, conclude, here, unchanged, current]
      cases effect.interpret E.mechanics life.state
          ⟨ticket.operation, E.model, s.options.policy, life.position.current⟩ with
      | ok result => exact ⟨shared.draw.1, rfl, rfl⟩
      | error defect =>
          obtain ⟨id, same, answered⟩ :=
            refuse_active active (abandon shared ticket) ticket (.effect defect)
          exact ⟨id, same, by simp only [answered]; rfl⟩

theorem carry_conclude (shared : Shared E.Memory) (ticket : Ticket)
    (ending : Except CommandError (Effect E.State E.Event)) (patience : Nat) :
    carry (s.conclude shared ticket ending) patience = s.conclude shared ticket ending := by
  have refused (t : Session E) (after : Shared E.Memory) (e : CommandError) :
      carry (t.refuse after ticket e) patience = t.refuse after ticket e := by
    unfold refuse
    cases e.severity <;> rfl
  unfold conclude
  cases ending with
  | error e => exact refused s _ e
  | ok effect =>
      cases s.present with
      | error crash => rfl
      | ok life =>
          simp only
          split
          · rfl
          · exact refused _ _ _

def embark (s : Session E) (ticket : Ticket) (shared : Shared E.Memory) (started : List TraceCall) :
    Except CommandError (Attempt (Activity E.Memory E.State E.Event)) → Step E
  | .error e => (s.conclude shared ticket (.error e)).preceded [] started
  | .ok (.error crash) => ⟨s, abandon shared ticket, [], started, .crashed crash⟩
  | .ok (.ok activity) => ⟨s, shared, [], started, .calling ⟨ticket, activity⟩⟩

theorem launch_eq (blank : E.State) {t : Session E} (same : t.options = s.options)
    (shared : Shared E.Memory) (command : Command) :
    let opened := s.summon blank shared command
    let info : SpanInfo :=
      ⟨E.name, command.entityId, command.operation, command.commandId, command.metadata⟩
    t.launch shared command (s.life blank) =
      t.embark ⟨command.commandId, command.operation, (s.life blank).position.current, opened.1⟩
        opened.2 [.started info (s.options.tracer.start info)]
        (E.dispatch command.operation (s.life blank).state opened.1 command.payload) := by
  intro opened info
  unfold launch
  rw [same]
  simp only [opened, summon, info]
  rcases E.dispatch command.operation (s.life blank).state _ command.payload with
    e | crash | activity <;> rfl

/-- A handler that was called is brought to its verdict. -/
theorem carry_launch {t : Session E} (active : t.phase = .active)
    (living : t.incarnation = some (s.life blank)) (same : t.options = s.options)
    (shared : Shared E.Memory) (command : Command) (patience : Nat) :
    let v := s.verdict blank shared command patience
    ∃ id, (carry (t.launch shared command (s.life blank)) patience).session = t.settle v ∧
      (carry (t.launch shared command (s.life blank)) patience).response.ending =
        v.ending command.commandId id := by
  intro v
  have launched := launch_eq blank same shared command
  have judged : v = E.judge t.options.policy (s.life blank) command.operation
      (s.hearing blank shared command patience) := by
    rw [same]
    rfl
  rw [launched, judged, hearing]
  generalize s.summon blank shared command = opened
  let ticket : Ticket :=
    ⟨command.commandId, command.operation, (s.life blank).position.current, opened.1⟩
  rcases E.dispatch command.operation (s.life blank).state opened.1 command.payload with
    e | crash | activity
  · simp only [embark, attend, session_carry_preceded, response_carry_preceded, carry_conclude]
    exact conclude_eq active living opened.2 ticket rfl (.error e)
  · exact ⟨shared.draw.1, rfl, rfl⟩
  · simp only [embark, attend, carry, pursue]
    rcases await _ patience activity opened.2 with ⟨_ | ending, after⟩
    · exact ⟨shared.draw.1, rfl, rfl⟩
    · exact conclude_eq active living after ticket rfl ending

/-- A command takes a live session out of recovery. -/
theorem begin_command_of_live (live : s.Live) (shared : Shared E.Memory) (command : Command) :
    s.begin shared (.command command) =
      ({ s with phase := .active } : Session E).receiveCommand shared command := by
  rcases live with h | h <;> simp only [begin, h]

theorem begin_snapshotRequest_of_live (live : s.Live) (shared : Shared E.Memory)
    (request : SnapshotRequest) :
    s.begin shared (.snapshotRequest request) =
      ({ s with phase := .active } : Session E).receiveSnapshotRequest shared request := by
  rcases live with h | h <;> simp only [begin, h]

theorem begin_command (empty : E.emptyState = .ok blank) (live : s.Live) {command : Command}
    (own : s.identity = some command.entityId) (shared : Shared E.Memory) :
    ∃ notices, s.begin shared (.command command) =
      ((s.awake blank).launch shared command (s.life blank)).preceded notices [] := by
  obtain ⟨notices, revived⟩ := revive_eq (s := s) empty
  exact ⟨notices, by
    rw [begin_command_of_live live, receiveCommand, if_pos own, revived]⟩

/-- Serving a command for the channel's own entity is putting its verdict in force. -/
theorem serve_command (empty : E.emptyState = .ok blank) (live : s.Live) {command : Command}
    (own : s.identity = some command.entityId) (shared : Shared E.Memory) (patience : Nat) :
    let v := s.verdict blank shared command patience
    ∃ id, (s.serve shared ⟨.command command, patience⟩).session = (s.awake blank).settle v ∧
      (s.serve shared ⟨.command command, patience⟩).response.ending =
        v.ending command.commandId id := by
  intro v
  obtain ⟨notices, begun⟩ := begin_command empty live own shared
  simp only [serve, begun, session_carry_preceded, response_carry_preceded]
  exact carry_launch (t := s.awake blank) (s := s) rfl rfl rfl shared command patience

end Session

end EntityEngine
