import EntityEngine.Json.Value
import EntityEngine.Uuid

/-!
# Messages of an entity channel

A host opens a channel for one entity and sends `Inbound` messages on it: one
`Init`, the events to replay, then commands and snapshot requests. The engine
answers with `Outbound` messages.
-/

namespace EntityEngine

/-- The position of an event in its entity's log; the first event has number 1. -/
abbrev SequenceNumber := UInt64

structure EntityId where
  text : String
deriving DecidableEq

namespace EntityId

instance : Coe String EntityId := ⟨EntityId.mk⟩

def sorted (ids : List EntityId) : List EntityId :=
  (Dictionary.ofList (ids.map fun id => (id.text, ()))).keys.map EntityId.mk

end EntityId

abbrev Metadata := Dictionary String

/-- The state of an entity after the first `sequenceNumber` events of its log. -/
structure Snapshot where
  sequenceNumber : SequenceNumber
  state : Json
deriving DecidableEq

structure EventRecord where
  sequenceNumber : SequenceNumber
  payload : Json
deriving DecidableEq

structure Init where
  entityId : EntityId
  snapshot : Option Snapshot
deriving DecidableEq

/-- A command for the channel's entity. Its answer repeats `commandId`. -/
structure Command where
  commandId : UInt64
  entityId : EntityId
  operation : String
  payload : Option Json
  metadata : Metadata
deriving DecidableEq

def Command.plain (commandId : UInt64) (entityId : EntityId) (operation : String)
    (payload : Option Json) : Command :=
  ⟨commandId, entityId, operation, payload, .empty⟩

structure SnapshotRequest where
  requestId : UInt64
deriving DecidableEq

inductive Inbound where
  | init (message : Init)
  | event (record : EventRecord)
  | command (command : Command)
  | snapshotRequest (request : SnapshotRequest)
deriving DecidableEq

def Inbound.kind : Inbound → String
  | init _ => "init"
  | event _ => "event"
  | command _ => "command"
  | snapshotRequest _ => "snapshot_request"

def Inbound.commandId? : Inbound → Option UInt64
  | command c => some c.commandId
  | _ => none

inductive ErrorCode where
  | invalidArgument
  | notFound
  | alreadyExists
  | failedPrecondition
  | permissionDenied
  | unavailable
  | internal
deriving DecidableEq

namespace ErrorCode

def all : List ErrorCode :=
  [invalidArgument, notFound, alreadyExists, failedPrecondition, permissionDenied,
    unavailable, internal]

/-- The name on the wire. -/
def name : ErrorCode → String
  | invalidArgument => "invalid_argument"
  | notFound => "not_found"
  | alreadyExists => "already_exists"
  | failedPrecondition => "failed_precondition"
  | permissionDenied => "permission_denied"
  | unavailable => "unavailable"
  | internal => "internal"

def ofName? (text : String) : Option ErrorCode := all.find? fun code => code.name == text

/-- The name for people. -/
def label : ErrorCode → String
  | invalidArgument => "invalid argument"
  | notFound => "not found"
  | alreadyExists => "already exists"
  | failedPrecondition => "failed precondition"
  | permissionDenied => "permission denied"
  | unavailable => "unavailable"
  | internal => "internal"

end ErrorCode

structure ForwardTarget where
  component : String
  operation : String
  payload : Json
deriving DecidableEq

/-- What the caller of a command gets. -/
inductive ClientAction where
  | reply (payload : Json)
  /-- The command was rejected and changed nothing. -/
  | error (message : String) (code : Option ErrorCode)
  /-- Another component answers. -/
  | forward (target : ForwardTarget)
  | noReply
deriving DecidableEq

def ClientAction.isError : ClientAction → Bool
  | error .. => true
  | _ => false

structure Reply where
  commandId : UInt64
  clientAction : ClientAction
  emittedEvents : List EventRecord
  snapshot : Option Snapshot
  /-- The record that replaces the state of a key-value entity. -/
  stateUpdate : Option Json
  deleteAfter : Bool
deriving DecidableEq

/-- Reports a failed command or, without a command id, a failed channel. -/
structure Failure where
  commandId : Option UInt64
  description : String
  correlationId : Option Uuid
deriving DecidableEq

structure SnapshotReply where
  requestId : UInt64
  snapshot : Snapshot
deriving DecidableEq

inductive Outbound where
  | reply (reply : Reply)
  | failure (failure : Failure)
  | snapshotReply (reply : SnapshotReply)
deriving DecidableEq

end EntityEngine
