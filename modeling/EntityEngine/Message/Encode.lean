import EntityEngine.Message.Basic

/-!
# The wire form of messages

Every message is a JSON object. Inbound and outbound messages carry their kind
under `kind` and client actions theirs under `type`, next to the other fields.
Options without a value, an empty event list and empty metadata are left out.
-/

namespace EntityEngine

def EntityId.toJson (id : EntityId) : Json := .string id.text

def Metadata.toJson (metadata : Metadata) : Json :=
  .object (metadata.entries.map fun entry => (entry.1, .string entry.2))

def Snapshot.toJson (s : Snapshot) : Json :=
  .ofMembers [("sequence_number", .word s.sequenceNumber), ("state", s.state)]

def EventRecord.members (e : EventRecord) : List (String × Json) :=
  [("sequence_number", .word e.sequenceNumber), ("payload", e.payload)]

def EventRecord.toJson (e : EventRecord) : Json := .ofMembers e.members

def Init.members (m : Init) : List (String × Json) :=
  ("entity_id", m.entityId.toJson) :: Json.optional "snapshot" (m.snapshot.map Snapshot.toJson)

def Init.toJson (m : Init) : Json := .ofMembers m.members

def Command.members (c : Command) : List (String × Json) :=
  [("command_id", .word c.commandId), ("entity_id", c.entityId.toJson),
    ("operation", .string c.operation)] ++
  Json.optional "payload" c.payload ++
  Json.optional "metadata" (if c.metadata.isEmpty then none else some (Metadata.toJson c.metadata))

def Command.toJson (c : Command) : Json := .ofMembers c.members

def SnapshotRequest.members (r : SnapshotRequest) : List (String × Json) :=
  [("request_id", .word r.requestId)]

def SnapshotRequest.toJson (r : SnapshotRequest) : Json := .ofMembers r.members

/-- The fields of an inbound message without its kind. -/
def Inbound.members : Inbound → List (String × Json)
  | .init m => m.members
  | .event e => e.members
  | .command c => c.members
  | .snapshotRequest r => r.members

def Inbound.toJson (m : Inbound) : Json := .ofMembers (("kind", .string m.kind) :: m.members)

def ErrorCode.toJson (code : ErrorCode) : Json := .string code.name

def ForwardTarget.toJson (t : ForwardTarget) : Json :=
  .ofMembers [("component", .string t.component), ("operation", .string t.operation),
    ("payload", t.payload)]

/-- The type of a client action on the wire. -/
def ClientAction.type : ClientAction → String
  | .reply _ => "reply"
  | .error .. => "error"
  | .forward _ => "forward"
  | .noReply => "no_reply"

def ClientAction.members : ClientAction → List (String × Json)
  | .reply payload => [("payload", payload)]
  | .error message code =>
    ("message", .string message) :: Json.optional "code" (code.map ErrorCode.toJson)
  | .forward target => [("target", target.toJson)]
  | .noReply => []

def ClientAction.toJson (a : ClientAction) : Json :=
  .ofMembers (("type", .string a.type) :: a.members)

def Reply.members (r : Reply) : List (String × Json) :=
  [("command_id", .word r.commandId), ("client_action", r.clientAction.toJson)] ++
  Json.optional "emitted_events" (if r.emittedEvents.isEmpty then none
    else some (.array (r.emittedEvents.map EventRecord.toJson))) ++
  Json.optional "snapshot" (r.snapshot.map Snapshot.toJson) ++
  Json.optional "state_update" r.stateUpdate ++
  [("delete_after", .bool r.deleteAfter)]

def Reply.toJson (r : Reply) : Json := .ofMembers r.members

def Failure.members (f : Failure) : List (String × Json) :=
  Json.optional "command_id" (f.commandId.map Json.word) ++
  [("description", .string f.description)] ++
  Json.optional "correlation_id" (f.correlationId.map fun id => .string id.text)

def Failure.toJson (f : Failure) : Json := .ofMembers f.members

def SnapshotReply.members (r : SnapshotReply) : List (String × Json) :=
  [("request_id", .word r.requestId), ("snapshot", r.snapshot.toJson)]

def SnapshotReply.toJson (r : SnapshotReply) : Json := .ofMembers r.members

/-- The kind of an outbound message on the wire. -/
def Outbound.kind : Outbound → String
  | .reply _ => "reply"
  | .failure _ => "failure"
  | .snapshotReply _ => "snapshot_reply"

/-- The fields of an outbound message without its kind. -/
def Outbound.members : Outbound → List (String × Json)
  | .reply r => r.members
  | .failure f => f.members
  | .snapshotReply r => r.members

def Outbound.toJson (m : Outbound) : Json := .ofMembers (("kind", .string m.kind) :: m.members)

end EntityEngine
