import EntityEngine.Json.Decode
import EntityEngine.Message.Encode

/-!
# Reading messages from JSON

A message is read from an object by the names of its fields or from an array by
their positions; a tagged message has its tag under a name or as first item.
Unknown members of an object are ignored and surplus items of an array are
refused. A field with a default may be missing, in an array only at the end.
-/

namespace EntityEngine

/-- Where a value stands: by itself, or inside a tagged value that was taken in as a
whole before its tag was known. -/
inductive Standing where
  | free
  | tagged
deriving DecidableEq

/-- Read every item of an array. -/
def Json.arrayOf? {α : Type} (read : Json → Option α) : Json → Option (List α)
  | .array items => items.mapM read
  | _ => none

def EntityId.ofJson? (value : Json) : Option EntityId := value.string?.map EntityId.mk

def Metadata.ofJson? : Json → Option Metadata
  | .object members => do
    let entries ← members.mapM fun member => member.2.string?.map fun text => (member.1, text)
    some (Dictionary.ofList entries)
  | _ => none

def Snapshot.ofFields? (fields : Fields) : Option Snapshot := do
  guard (fields.fits 2)
  let sequenceNumber ← fields.required 0 "sequence_number" Json.word?
  let state ← fields.required 1 "state" some
  some { sequenceNumber, state }

def Snapshot.ofJson? (value : Json) : Option Snapshot :=
  (Fields.ofJson? value).bind ofFields?

def EventRecord.ofFields? (fields : Fields) : Option EventRecord := do
  guard (fields.fits 2)
  let sequenceNumber ← fields.required 0 "sequence_number" Json.word?
  let payload ← fields.required 1 "payload" some
  some { sequenceNumber, payload }

def EventRecord.ofJson? (value : Json) : Option EventRecord :=
  (Fields.ofJson? value).bind ofFields?

def Init.ofFields? (fields : Fields) : Option Init := do
  guard (fields.fits 2)
  let entityId ← fields.required 0 "entity_id" EntityId.ofJson?
  let snapshot ← fields.optional 1 "snapshot" Snapshot.ofJson?
  some { entityId, snapshot }

def Init.ofJson? (value : Json) : Option Init := (Fields.ofJson? value).bind ofFields?

def Command.ofFields? (fields : Fields) : Option Command := do
  guard (fields.fits 5)
  let commandId ← fields.required 0 "command_id" Json.word?
  let entityId ← fields.required 1 "entity_id" EntityId.ofJson?
  let operation ← fields.required 2 "operation" Json.string?
  let payload ← fields.optional 3 "payload" some
  let metadata ← fields.withDefault 4 "metadata" .empty Metadata.ofJson?
  some { commandId, entityId, operation, payload, metadata }

def Command.ofJson? (value : Json) : Option Command := (Fields.ofJson? value).bind ofFields?

def SnapshotRequest.ofFields? (fields : Fields) : Option SnapshotRequest := do
  guard (fields.fits 1)
  let requestId ← fields.required 0 "request_id" Json.word?
  some { requestId }

def SnapshotRequest.ofJson? (value : Json) : Option SnapshotRequest :=
  (Fields.ofJson? value).bind ofFields?

def Inbound.ofJson? (value : Json) : Option Inbound := do
  let (tag, fields) ← Fields.tagged? "kind" value
  match tag with
  | .string "init" => (Init.ofFields? fields).map init
  | .string "event" => (EventRecord.ofFields? fields).map event
  | .string "command" => (Command.ofFields? fields).map command
  | .string "snapshot_request" => (SnapshotRequest.ofFields? fields).map snapshotRequest
  | _ => none

/-- A code: its name, or an object with the name as its one key and `null` under it.
Inside a tagged value an empty object may stand for that `null`. -/
def ErrorCode.ofJson? (standing : Standing) : Json → Option ErrorCode
  | .string name => ofName? name
  | .object [(name, .null)] => ofName? name
  | .object [(name, .object [])] => if standing = .tagged then ofName? name else none
  | _ => none

def ForwardTarget.ofFields? (fields : Fields) : Option ForwardTarget := do
  guard (fields.fits 3)
  let component ← fields.required 0 "component" Json.string?
  let operation ← fields.required 1 "operation" Json.string?
  let payload ← fields.withDefault 2 "payload" .null some
  some { component, operation, payload }

def ForwardTarget.ofJson? (value : Json) : Option ForwardTarget :=
  (Fields.ofJson? value).bind ofFields?

/-- The name of a client action's type, given by its tag. Inside a tagged value the tag
may also be the index of the type. -/
def ClientAction.typeOf? (standing : Standing) : Json → Option String
  | .string name => some name
  | .number (.integer index) =>
    if standing = .tagged ∧ 0 ≤ index then ["reply", "error", "forward", "no_reply"][index.toNat]?
    else none
  | _ => none

def ClientAction.ofJson? (standing : Standing) (value : Json) : Option ClientAction := do
  let (tag, fields) ← Fields.tagged? "type" value
  match ← typeOf? standing tag with
  | "reply" => do
    guard (fields.fits 1)
    let payload ← fields.required 0 "payload" some
    some (reply payload)
  | "error" => do
    guard (fields.fits 2)
    let message ← fields.required 0 "message" Json.string?
    let code ← fields.optional 1 "code" (ErrorCode.ofJson? .tagged)
    some (error message code)
  | "forward" => do
    guard (fields.fits 1)
    let target ← fields.required 0 "target" ForwardTarget.ofJson?
    some (forward target)
  | "no_reply" => do
    guard (fields.fits 0)
    some noReply
  | _ => none

def Reply.ofFields? (standing : Standing) (fields : Fields) : Option Reply := do
  guard (fields.fits 6)
  let commandId ← fields.required 0 "command_id" Json.word?
  let clientAction ← fields.required 1 "client_action" (ClientAction.ofJson? standing)
  let emittedEvents ← fields.withDefault 2 "emitted_events" [] (Json.arrayOf? EventRecord.ofJson?)
  let snapshot ← fields.optional 3 "snapshot" Snapshot.ofJson?
  let stateUpdate ← fields.optional 4 "state_update" some
  let deleteAfter ← fields.withDefault 5 "delete_after" false Json.bool?
  some { commandId, clientAction, emittedEvents, snapshot, stateUpdate, deleteAfter }

def Reply.ofJson? (value : Json) : Option Reply :=
  (Fields.ofJson? value).bind (ofFields? .free)

def Failure.ofFields? (fields : Fields) : Option Failure := do
  guard (fields.fits 3)
  let commandId ← fields.optional 0 "command_id" Json.word?
  let description ← fields.required 1 "description" Json.string?
  let correlationId ← fields.optional 2 "correlation_id" fun id => id.string?.bind Uuid.ofString?
  some { commandId, description, correlationId }

def Failure.ofJson? (value : Json) : Option Failure := (Fields.ofJson? value).bind ofFields?

def SnapshotReply.ofFields? (fields : Fields) : Option SnapshotReply := do
  guard (fields.fits 2)
  let requestId ← fields.required 0 "request_id" Json.word?
  let snapshot ← fields.required 1 "snapshot" Snapshot.ofJson?
  some { requestId, snapshot }

def SnapshotReply.ofJson? (value : Json) : Option SnapshotReply :=
  (Fields.ofJson? value).bind ofFields?

def Outbound.ofJson? (value : Json) : Option Outbound := do
  let (tag, fields) ← Fields.tagged? "kind" value
  match tag with
  | .string "reply" => (Reply.ofFields? .tagged fields).map reply
  | .string "failure" => (Failure.ofFields? fields).map failure
  | .string "snapshot_reply" => (SnapshotReply.ofFields? fields).map snapshotReply
  | _ => none

end EntityEngine
