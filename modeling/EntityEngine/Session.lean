import EntityEngine.Entity
import EntityEngine.Fault.Severity

/-!
# Sessions

A session is the engine's side of one entity channel: it takes one inbound message
after the other and gives at most one outbound message for each. `Session.receive`
handles a message as far as it goes without waiting; a command whose handler has to
wait is left as a `Call`, to be taken up again by `Session.proceed` or given up by
`Session.abandon`.

Every function returns a `Step`: the session and the shared things afterwards, what
was written to the log and told to the tracer, and the response.
-/

namespace EntityEngine

structure Options where
  policy : SnapshotPolicy
  tracer : Tracer
  expectedEntity : Option EntityId
  /-- Start from the empty state even if `Init` brings a snapshot. -/
  ignoreInitSnapshot : Bool

namespace Options

def default : Options := ⟨.default, .logging, none, false⟩

def shownText (o : Options) : String :=
  Text.partialRecordText "StreamOptions" [
    ("policy", o.policy.shownText),
    ("expected_entity", Text.optionText (o.expectedEntity.map fun id =>
      "EntityId(" ++ Text.quoted id.text ++ ")")),
    ("ignore_init_snapshot", Text.boolText o.ignoreInitSnapshot)]

end Options

/-- One life of an entity, from its seeding to its deletion. -/
structure Incarnation (S : Type) where
  state : S
  position : LogPosition

def Incarnation.fresh {S : Type} (state : S) : Incarnation S := ⟨state, .start⟩

structure Session (E : Entity) where
  options : Options
  phase : Phase
  identity : Option EntityId
  incarnation : Option (Incarnation E.State)
  /-- The entity was deleted and has not been recreated. -/
  deleted : Bool

/-- A command under way: what is needed to answer it. -/
structure Ticket where
  commandId : UInt64
  operation : String
  /-- The number of the last event before the command. -/
  sequenceNumber : SequenceNumber
  context : Context

structure Call (E : Entity) where
  ticket : Ticket
  activity : Activity E.Memory E.State E.Event

def Call.isHanging {E : Entity} (call : Call E) : Bool :=
  match call.activity with
  | .hung => true
  | _ => false

inductive Response (E : Entity) where
  | quiet
  | answered (message : Outbound)
  | crashed (crash : Crash)
  /-- A handler was started or has to wait. -/
  | calling (call : Call E)

inductive Advance (E : Entity) where
  | ended (ending : Except CommandError (Effect E.State E.Event))
  /-- Asleep for some nanoseconds, with what is to be done then. -/
  | sleeping (span : Nat) (rest : Activity E.Memory E.State E.Event)
  | hanging

structure Step (E : Entity) where
  session : Session E
  shared : Shared E.Memory
  notices : List Notice
  calls : List TraceCall
  response : Response E

def Step.preceded {E : Entity} (step : Step E) (notices : List Notice) (calls : List TraceCall) :
    Step E :=
  { step with notices := notices ++ step.notices, calls := calls ++ step.calls }

namespace Session

variable {E : Entity}

def fresh (options : Options) : Session E := ⟨options, .awaitingInit, none, none, false⟩

def state? (s : Session E) : Option E.State := s.incarnation.map Incarnation.state

def sequenceNumber? (s : Session E) : Option SequenceNumber :=
  s.incarnation.map fun i => i.position.current

def lastSnapshot? (s : Session E) : Option SequenceNumber :=
  s.incarnation.map fun i => i.position.lastSnapshot

def identityOrBlank (s : Session E) : EntityId := s.identity.getD ⟨""⟩

/-- A fault ends the channel when it is fatal in its phase. -/
def endIfFatal (s : Session E) (severity : Severity) : Session E :=
  if severity.isFatalIn s.phase then { s with phase := .terminated } else s

def present (s : Session E) : Attempt (Incarnation E.State) :=
  match s.incarnation with
  | some incarnation => .ok incarnation
  | none => E.emptyState.map .fresh

def violate (s : Session E) (shared : Shared E.Memory) (violation : Violation)
    (commandId : Option UInt64) : Step E :=
  let (id, shared) := shared.draw
  { session := s.endIfFatal .protocol
    shared
    notices :=
      [.protocolViolation E.name s.identityOrBlank commandId id violation.message]
    calls := []
    response := .answered (.failure
      ⟨commandId, s!"protocol violation: {violation.message} [{id.text}]", some id⟩) }

def failRecovery (s : Session E) (shared : Shared E.Memory) (error : RecoveryError) : Step E :=
  let (id, shared) := shared.draw
  { session := s.endIfFatal .unexpected
    shared
    notices :=
      [.recoveryFailed E.name s.identityOrBlank id error.message s.phase
        (Severity.unexpected.isFatalIn s.phase)]
    calls := []
    response := .answered (.failure ⟨none, s!"unexpected error [{id.text}]", some id⟩) }

/-- The snapshot that the channel starts from, and a notice if one is ignored. -/
def admitSnapshot (s : Session E) (snapshot : Option Snapshot) :
    Option Snapshot × List Notice :=
  match snapshot with
  | some snapshot =>
    if s.options.ignoreInitSnapshot then
      (none, [.snapshotIgnored E.name s.identityOrBlank snapshot.sequenceNumber])
    else (some snapshot, [])
  | none => (none, [])

/-- The incarnation to begin with: decoded from a snapshot or empty. -/
def seed (snapshot : Option Snapshot) :
    Except RecoveryError (Attempt (Incarnation E.State)) :=
  match snapshot with
  | some snapshot =>
    match E.states.decode snapshot.state with
    | .ok state => .ok (.ok ⟨state, .ofSnapshot snapshot.sequenceNumber⟩)
    | .error e => .error (.snapshotUndecodable snapshot.sequenceNumber e)
  | none => .ok (E.emptyState.map .fresh)

def receiveInit (s : Session E) (shared : Shared E.Memory) (init : Init) : Step E :=
  match s.options.expectedEntity.filter (· ≠ init.entityId) with
  | some expected => s.violate shared (.entityMismatch expected init.entityId) none
  | none =>
    let s := { s with identity := some init.entityId }
    let (snapshot, ignored) := s.admitSnapshot init.snapshot
    match seed snapshot with
    | .error e => (s.failRecovery shared e).preceded ignored []
    | .ok (.error crash) => ⟨s, shared, ignored, [], .crashed crash⟩
    | .ok (.ok incarnation) =>
      { session := { s with incarnation := some incarnation, phase := .replaying }
        shared
        notices := ignored ++
          [.seeded E.name s.identityOrBlank incarnation.position.current]
        calls := []
        response := .quiet }

/-- Take in an event of the entity's history. The position advances before the event is
decoded, and while the event is applied the state is the empty one. -/
def receiveEvent (s : Session E) (shared : Shared E.Memory) (record : EventRecord) : Step E :=
  match s.present with
  | .error crash => ⟨s, shared, [], [], .crashed crash⟩
  | .ok incarnation =>
    let s := { s with incarnation := some incarnation }
    match incarnation.position.replay record.sequenceNumber with
    | .error violation => s.violate shared violation none
    | .ok position =>
      let s := { s with incarnation := some { incarnation with position } }
      match E.events.decode record.payload with
      | .error e => s.failRecovery shared (.eventUndecodable record.sequenceNumber e)
      | .ok event =>
        match E.emptyState with
        | .error crash => ⟨s, shared, [], [], .crashed crash⟩
        | .ok blank =>
          match E.apply incarnation.state event with
          | .ok state =>
            ⟨{ s with incarnation := some ⟨state, position⟩ }, shared, [], [], .quiet⟩
          | .error _ =>
            let s := { s with incarnation := some ⟨blank, position⟩ }
            s.failRecovery shared (.applyPanicked record.sequenceNumber)

/-- The incarnation that commands act on, recreated when the entity was deleted. What the
session is afterwards and what is written hold also when the recreation crashes. -/
def revive (s : Session E) : Session E × List Notice × Attempt (Incarnation E.State) :=
  let recreated := s.incarnation.isNone && s.deleted
  let notices := if recreated then [.recreated E.name s.identityOrBlank] else []
  let s := if recreated then { s with deleted := false } else s
  match s.present with
  | .ok incarnation => ({ s with incarnation := some incarnation }, notices, .ok incarnation)
  | .error crash => (s, notices, .error crash)

def receiveSnapshotRequest (s : Session E) (shared : Shared E.Memory)
    (request : SnapshotRequest) : Step E :=
  match s.revive with
  | (s, notices, .error crash) => ⟨s, shared, notices, [], .crashed crash⟩
  | (s, notices, .ok incarnation) =>
    match E.states.encode incarnation.state with
    | .ok state =>
      { session := s
        shared
        notices
        calls := []
        response := .answered (.snapshotReply
          ⟨request.requestId, ⟨incarnation.position.current, state⟩⟩) }
    | .error e => (s.failRecovery shared (.stateUnencodable e)).preceded notices []

def commit (s : Session E) (result : CommandResult E.State) : Session E :=
  let kept := s.incarnation.map fun incarnation =>
    let advanced := incarnation.position.advance result.events.length
    { state := result.nextState.getD incarnation.state
      position := match result.snapshot with
        | some snapshot => advanced.markSnapshot snapshot.sequenceNumber
        | none => advanced : Incarnation E.State }
  if result.deletes then { s with incarnation := none, deleted := true }
  else { s with incarnation := kept }

def resultNotices (s : Session E) (ticket : Ticket) (result : CommandResult E.State) :
    List Notice :=
  (if result.clientAction.isError then
    [.commandRejected E.name s.identityOrBlank ticket.operation ticket.commandId none]
  else []) ++
  (match s.incarnation with
    | some incarnation =>
      if result.events.isEmpty then []
      else [.eventsEmitted result.events.length (incarnation.position.after result.events.length)
        result.snapshot.isSome]
    | none => []) ++
  (if result.deletes then [.entityDeleted E.name s.identityOrBlank] else [])

def succeed (s : Session E) (shared : Shared E.Memory) (ticket : Ticket)
    (result : CommandResult E.State) : Step E where
  session := s.commit result
  shared := shared
  notices := s.resultNotices ticket result
  calls :=
    [.ended ticket.context.trace (if result.clientAction.isError then .rejected else .replied)]
  response := .answered (.reply {
    commandId := ticket.commandId
    clientAction := result.clientAction
    emittedEvents := result.events
    snapshot := result.snapshot
    stateUpdate := result.stateUpdate
    deleteAfter := result.deletes })

/-- A rejection as the caller sees it. A bad payload counts as an invalid argument. -/
def rejectionAction : CommandError → ClientAction
  | .handler (.rejected message code) => .error message code
  | error => .error error.message (some .invalidArgument)

/-- Answer a command that has no result: a rejection by an error action, anything else by
a failure with a correlation id. -/
def refuse (s : Session E) (shared : Shared E.Memory) (ticket : Ticket) (error : CommandError) :
    Step E :=
  match error.severity with
  | .validation =>
    { session := s.endIfFatal .validation
      shared
      notices := [.commandRejected E.name s.identityOrBlank ticket.operation ticket.commandId
        (some error.message)]
      calls := [.ended ticket.context.trace .rejected]
      response := .answered (.reply
        ⟨ticket.commandId, rejectionAction error, [], none, none, false⟩) }
  | severity =>
    let (id, shared) := shared.draw
    { session := s.endIfFatal severity
      shared
      notices := [.commandFailed E.name s.identityOrBlank ticket.operation ticket.commandId id
        error.message]
      calls := [.ended ticket.context.trace .failed]
      response := .answered (.failure
        ⟨some ticket.commandId, s!"unexpected error [{id.text}]", some id⟩) }

/-- Give up a command midway. Its context is closed and nothing else happens. -/
def abandon (shared : Shared E.Memory) (ticket : Ticket) : Shared E.Memory :=
  { shared with board := shared.board.close ticket.context }

/-- End a command with what its handler came to. The context is closed before the effect
is interpreted. -/
def conclude (s : Session E) (shared : Shared E.Memory) (ticket : Ticket)
    (ending : Except CommandError (Effect E.State E.Event)) : Step E :=
  let shared := abandon shared ticket
  match ending with
  | .error e => s.refuse shared ticket e
  | .ok effect =>
    match s.present with
    | .error crash => ⟨s, shared, [], [], .crashed crash⟩
    | .ok incarnation =>
      let s := { s with incarnation := some incarnation }
      match effect.interpret E.mechanics incarnation.state
          ⟨ticket.operation, E.model, s.options.policy, ticket.sequenceNumber⟩ with
      | .ok result => s.succeed shared ticket result
      | .error defect => s.refuse shared ticket (.effect defect)

def launch (s : Session E) (shared : Shared E.Memory) (command : Command)
    (incarnation : Incarnation E.State) : Step E :=
  let info : SpanInfo :=
    ⟨E.name, command.entityId, command.operation, command.commandId, command.metadata⟩
  let handle := s.options.tracer.start info
  let sequenceNumber := incarnation.position.current
  let (context, board) := shared.board.openContext command.entityId sequenceNumber
    command.operation command.commandId command.metadata handle
  let shared := { shared with board }
  let ticket : Ticket := ⟨command.commandId, command.operation, sequenceNumber, context⟩
  let started := [TraceCall.started info handle]
  match E.dispatch command.operation incarnation.state context command.payload with
  | .ok (.ok activity) => ⟨s, shared, [], started, .calling ⟨ticket, activity⟩⟩
  | .ok (.error crash) => ⟨s, abandon shared ticket, [], started, .crashed crash⟩
  | .error e => (s.conclude shared ticket (.error e)).preceded [] started

def receiveCommand (s : Session E) (shared : Shared E.Memory) (command : Command) : Step E :=
  if s.identity = some command.entityId then
    match s.revive with
    | (s, notices, .error crash) => ⟨s, shared, notices, [], .crashed crash⟩
    | (s, notices, .ok incarnation) =>
      (s.launch shared command incarnation).preceded notices []
  else
    s.violate shared (.entityMismatch s.identityOrBlank command.entityId)
      (some command.commandId)

/-- What a terminated channel still answers: commands, by a failure. -/
def afterTermination : Inbound → Option Outbound
  | .command command => some (.failure ⟨some command.commandId, "channel terminated", none⟩)
  | _ => none

def begin (s : Session E) (shared : Shared E.Memory) (message : Inbound) : Step E :=
  match s.phase, message with
  | .terminated, message =>
    ⟨s, shared, [], [], (afterTermination message).elim .quiet .answered⟩
  | .awaitingInit, .init init => s.receiveInit shared init
  | .awaitingInit, message =>
    s.violate shared (.notInitialized message.kind) message.commandId?
  | _, .init init => s.violate shared (.duplicateInit init.entityId) none
  | .replaying, .event record => s.receiveEvent shared record
  | .active, .event record => s.violate shared (.eventAfterActive record.sequenceNumber) none
  | _, .command command => { s with phase := .active }.receiveCommand shared command
  | _, .snapshotRequest request =>
    { s with phase := .active }.receiveSnapshotRequest shared request

def advance (shared : Shared E.Memory) (call : Call E) : Advance E × Shared E.Memory :=
  let (progress, memory) := call.activity.run shared.board shared.memory
  let advance := match progress with
    | .ended result => .ended (result.mapError .handler)
    | .panicked _ => .ended (.error (.panicked call.ticket.operation))
    | .sleeping span rest => .sleeping span rest
    | .hanging => .hanging
  (advance, { shared with memory })

def proceed (s : Session E) (shared : Shared E.Memory) (call : Call E) : Step E :=
  match advance shared call with
  | (.ended ending, shared) => s.conclude shared call.ticket ending
  | (.sleeping span rest, shared) =>
    ⟨s, shared, [], [], .calling ⟨call.ticket, .asleep span rest⟩⟩
  | (.hanging, shared) => ⟨s, shared, [], [], .calling ⟨call.ticket, .hung⟩⟩

/-- Take a message as far as it goes without waiting. -/
def receive (s : Session E) (shared : Shared E.Memory) (message : Inbound) : Step E :=
  let step := s.begin shared message
  match step.response with
  | .calling call =>
    (step.session.proceed step.shared call).preceded step.notices step.calls
  | _ => step

end Session

end EntityEngine
