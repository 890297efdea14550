import EntityEngine.Session

/-!
# The bench

A bench holds one entity to try out: it is initialised without a snapshot, may be
given a history of events, and then answers calls and snapshot requests, which it
numbers from one.
-/

namespace EntityEngine

/-- The identity of an entity on a bench, unless another one is given. -/
def benchEntityId : EntityId := ⟨"testkit-entity-id"⟩

structure Bench (E : Entity) where
  session : Session E
  shared : Shared E.Memory
  nextId : UInt64

namespace Bench

variable {E : Entity}

def options : Options := { Options.default with tracer := .silent }

def create (entityId : EntityId) (shared : Shared E.Memory) : Attempt (Bench E) :=
  let step := (Session.fresh options).receiveInit shared ⟨entityId, none⟩
  match step.response with
  | .crashed crash => .error crash
  | _ => .ok ⟨step.session, step.shared, 1⟩

/-- The state, or the empty one when the entity is deleted. -/
def state (b : Bench E) : Attempt E.State :=
  match b.session.state? with
  | some state => .ok state
  | none => E.emptyState

def sequenceNumber (b : Bench E) : SequenceNumber := b.session.sequenceNumber?.getD 0

def isDeleted (b : Bench E) : Bool := b.session.deleted

/-- Replay one more event of the history. -/
def replay (b : Bench E) (event : E.Event) : Attempt (Except HistoryError (Bench E)) :=
  match E.events.encode event with
  | .error e => .ok (.error (.unencodable e))
  | .ok payload =>
    let step := b.session.receiveEvent b.shared ⟨b.sequenceNumber + 1, payload⟩
    match step.response with
    | .answered (.failure failure) => .ok (.error (.rejected failure.description))
    | .crashed crash => .error crash
    | _ => .ok (.ok { b with session := step.session, shared := step.shared })

/-- Replay a history, numbered from the present sequence number on. -/
def withHistory (b : Bench E) : List E.Event → Attempt (Except HistoryError (Bench E))
  | [] => .ok (.ok b)
  | event :: rest =>
    match b.replay event with
    | .ok (.ok b) => b.withHistory rest
    | refused => refused

def send (b : Bench E) (message : UInt64 → Inbound) : Bench E × Response E :=
  let step := b.session.receive b.shared (message b.nextId)
  (⟨step.session, step.shared, b.nextId + 1⟩, step.response)

/-- The answer to a command that got none. -/
def noResponse (commandId : UInt64) : Outbound :=
  .failure ⟨some commandId, "no response", none⟩

/-- Call an operation. A handler that has to wait leaves its call pending. -/
def call (b : Bench E) (operation : String) (payload : Json) : Bench E × Response E :=
  let entityId := b.session.identity.getD benchEntityId
  let (after, response) := b.send fun id => .command (.plain id entityId operation (some payload))
  match response with
  | .quiet => (after, .answered (noResponse b.nextId))
  | response => (after, response)

/-- Ask for a snapshot of the state. There is none when the state does not encode. -/
def snapshot (b : Bench E) : Bench E × Attempt (Option Snapshot) :=
  let (after, response) := b.send fun id => .snapshotRequest ⟨id⟩
  match response with
  | .answered (.snapshotReply reply) => (after, .ok (some reply.snapshot))
  | .crashed crash => (after, .error crash)
  | _ => (after, .ok none)

end Bench

namespace Outbound

def reply? : Outbound → Option Reply
  | reply r => some r
  | _ => none

def failure? : Outbound → Option Failure
  | failure f => some f
  | _ => none

/-- What the caller of a command gets, if the answer is a reply. -/
def clientAction? (out : Outbound) : Option ClientAction := out.reply?.map Reply.clientAction

def isReply (out : Outbound) : Bool :=
  match out.clientAction? with
  | some (.reply _) => true
  | _ => false

def isNoReply (out : Outbound) : Bool := out.clientAction? = some .noReply

def isForward (out : Outbound) : Bool :=
  match out.clientAction? with
  | some (.forward _) => true
  | _ => false

def isError (out : Outbound) : Bool := out.clientAction?.any ClientAction.isError

def payload? (out : Outbound) : Option Json :=
  match out.clientAction? with
  | some (.reply payload) => some payload
  | _ => none

/-- The payload of a reply, if it decodes. -/
def payloadAs? {α : Type} (out : Outbound) (decode : Json → Except DecodeError α) : Option α :=
  out.payload?.bind fun payload => (decode payload).toOption

def errorMessage? (out : Outbound) : Option String :=
  match out.clientAction? with
  | some (.error message _) => some message
  | _ => none

def errorCode? (out : Outbound) : Option ErrorCode :=
  match out.clientAction? with
  | some (.error _ code) => code
  | _ => none

/-- The payloads of the events of a reply. -/
def eventPayloads (out : Outbound) : List Json :=
  (out.reply?.map fun r => r.emittedEvents.map EventRecord.payload).getD []

/-- The events of a reply, decoded; the first that does not decode is the error. -/
def eventsAs {α : Type} (out : Outbound) (decode : Json → Except DecodeError α) :
    Except DecodeError (List α) :=
  out.eventPayloads.mapM decode

def isDeleted (out : Outbound) : Bool := out.reply?.any Reply.deleteAfter

def snapshot? (out : Outbound) : Option Snapshot := out.reply?.bind Reply.snapshot

def stateUpdate? (out : Outbound) : Option Json := out.reply?.bind Reply.stateUpdate

end Outbound

end EntityEngine
