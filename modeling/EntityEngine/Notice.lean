import EntityEngine.Fault.Severity

/-!
# Notices

What the engine writes to its log. A notice is one of a fixed set of facts; its
level, its text and its named fields are functions of it.
-/

namespace EntityEngine

inductive Level where
  | error
  | warn
  | info
  | debug
deriving DecidableEq

def Level.name : Level → String
  | error => "ERROR"
  | warn => "WARN"
  | info => "INFO"
  | debug => "DEBUG"

inductive Notice where
  | snapshotsDisabled (entityType : String) (every : Int64)
  | handlerReplaced (operation : String)
  | snapshotIgnored (entityType : String) (entityId : EntityId) (sequenceNumber : SequenceNumber)
  | seeded (entityType : String) (entityId : EntityId) (sequenceNumber : SequenceNumber)
  | recreated (entityType : String) (entityId : EntityId)
  | commandRejected (entityType : String) (entityId : EntityId) (operation : String)
      (commandId : UInt64) (reason : Option String)
  | eventsEmitted (count : Nat) (sequenceNumber : SequenceNumber) (snapshot : Bool)
  | entityDeleted (entityType : String) (entityId : EntityId)
  | protocolViolation (entityType : String) (entityId : EntityId) (commandId : Option UInt64)
      (correlationId : Uuid) (error : String)
  | recoveryFailed (entityType : String) (entityId : EntityId) (correlationId : Uuid)
      (error : String) (phase : Phase) (terminating : Bool)
  | commandFailed (entityType : String) (entityId : EntityId) (operation : String)
      (commandId : UInt64) (correlationId : Uuid) (error : String)
  | passivating (entityType : String)
  | outboundClosed
  | workerSpawned (entityType : String) (entityId : EntityId)
  | workerStopped (entityType : String) (exit : String) (deleted : Bool)
  | workerFailed (entityType : String) (entityId : EntityId) (error : String)
  | tombstoneRecorded (entityType : String) (entityId : EntityId) (retentionSeconds : UInt64)
  | tombstoneExpired (entityType : String) (entityId : EntityId)
  | tombstoneConsumed (entityType : String) (entityId : EntityId)
  | registryBuilt (entityType : String) (operations : Nat)
deriving DecidableEq

namespace Notice

def level : Notice → Level
  | snapshotsDisabled .. | handlerReplaced .. | snapshotIgnored .. => .warn
  | protocolViolation .. | recoveryFailed .. | commandFailed .. | workerFailed .. => .error
  | entityDeleted .. | passivating .. | tombstoneRecorded .. => .info
  | _ => .debug

def message : Notice → String
  | snapshotsDisabled .. =>
    "snapshots disabled; recovery will replay the full event history, which is not recommended"
  | handlerReplaced .. => "handler registered twice; keeping the last one"
  | snapshotIgnored .. => "ignoring snapshot of a recently deleted entity"
  | seeded .. => "entity initialized"
  | recreated .. => "recreating deleted entity from empty state"
  | commandRejected .. => "command rejected"
  | eventsEmitted .. => "events emitted"
  | entityDeleted .. => "entity deleted"
  | protocolViolation .. => "protocol violation, terminating channel"
  | recoveryFailed .. => "unexpected entity failure"
  | commandFailed .. => "command failed unexpectedly"
  | passivating .. => "entity idle, passivating"
  | outboundClosed => "outbound side closed, stopping"
  | workerSpawned .. => "spawning entity worker"
  | workerStopped .. => "entity worker stopped"
  | workerFailed .. => "entity worker failed"
  | tombstoneRecorded .. => "recording tombstone for deleted entity"
  | tombstoneExpired .. => "tombstone expired"
  | tombstoneConsumed .. => "reopening deleted entity, tombstone consumed"
  | registryBuilt .. => "entity registry built"

/-- The correlation id that the notice shares with a failure, if it reports one. -/
def correlationId? : Notice → Option Uuid
  | protocolViolation _ _ _ id _ | recoveryFailed _ _ id _ _ _ | commandFailed _ _ _ _ id _ =>
    some id
  | _ => none

private def word (n : UInt64) : String := toString n.toNat

private def flag (b : Bool) : String := if b then "true" else "false"

private def entity (entityType : String) (entityId : EntityId) : List (String × String) :=
  [("entity_type", entityType), ("entity_id", entityId.text)]

/-- The named fields with their texts. An absent option has no field. -/
def fields : Notice → List (String × String)
  | snapshotsDisabled entityType every =>
    [("entity_type", entityType), ("snapshot_every", toString every.toInt)]
  | handlerReplaced operation => [("operation", operation)]
  | snapshotIgnored entityType entityId sequenceNumber
  | seeded entityType entityId sequenceNumber =>
    entity entityType entityId ++ [("sequence_number", word sequenceNumber)]
  | recreated entityType entityId
  | entityDeleted entityType entityId
  | workerSpawned entityType entityId
  | tombstoneExpired entityType entityId
  | tombstoneConsumed entityType entityId => entity entityType entityId
  | commandRejected entityType entityId operation commandId reason =>
    entity entityType entityId ++
      [("operation", operation), ("command_id", word commandId)] ++
      (reason.map fun text => ("reason", text)).toList
  | eventsEmitted count sequenceNumber snapshot =>
    [("count", toString count), ("sequence_number", word sequenceNumber),
      ("snapshot", flag snapshot)]
  | protocolViolation entityType entityId commandId correlationId error =>
    entity entityType entityId ++
      (commandId.map fun id => ("command_id", word id)).toList ++
      [("correlation_id", correlationId.text), ("error", error)]
  | recoveryFailed entityType entityId correlationId error phase terminating =>
    entity entityType entityId ++
      [("correlation_id", correlationId.text), ("error", error), ("phase", phase.name),
        ("terminating", flag terminating)]
  | commandFailed entityType entityId operation commandId correlationId error =>
    entity entityType entityId ++
      [("operation", operation), ("command_id", word commandId),
        ("correlation_id", correlationId.text), ("error", error)]
  | passivating entityType => [("entity_type", entityType)]
  | outboundClosed => []
  | workerStopped entityType exit deleted =>
    [("entity_type", entityType), ("exit", exit), ("deleted", flag deleted)]
  | workerFailed entityType entityId error => entity entityType entityId ++ [("error", error)]
  | tombstoneRecorded entityType entityId retentionSeconds =>
    entity entityType entityId ++ [("retention_secs", word retentionSeconds)]
  | registryBuilt entityType operations =>
    [("entity_type", entityType), ("operations", toString operations)]

end Notice

end EntityEngine
