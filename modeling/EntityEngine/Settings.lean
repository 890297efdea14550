import EntityEngine.Duration
import EntityEngine.Message.Decode
import EntityEngine.SnapshotPolicy
import EntityEngine.Text.Shown

/-!
# Settings

The settings of a registry, with overrides for single entity types. They are
written with durations in whole seconds and read with every field optional: what is
missing keeps its default.
-/

namespace EntityEngine

/-- Overrides for one entity type. -/
structure TypeSettings where
  snapshotEvery : Option Int64
deriving DecidableEq

structure Settings where
  /-- Events between snapshots: zero selects the default, a negative number none. -/
  snapshotEvery : Int64
  /-- How long a deleted entity is remembered. -/
  retention : Duration
  /-- The bound of each queue of a channel. -/
  channelCapacity : UInt64
  /-- How long a worker waits for a message before it stops. -/
  passivation : Option Duration
  entities : Dictionary TypeSettings
deriving DecidableEq

namespace TypeSettings

def default : TypeSettings := ⟨none⟩

def toJson (s : TypeSettings) : Json :=
  .ofMembers [("snapshot_every", (s.snapshotEvery.map fun n => Json.int n.toInt).getD .null)]

def ofFields? (fields : Fields) : Option TypeSettings := do
  guard (fields.fits 1)
  let snapshotEvery ← fields.optional 0 "snapshot_every" Json.int64?
  some { snapshotEvery }

def ofJson? (value : Json) : Option TypeSettings := (Fields.ofJson? value).bind ofFields?

def shownText (s : TypeSettings) : String :=
  Text.recordText "EntityOptions"
    [("snapshot_every", Text.optionText (s.snapshotEvery.map fun n => toString n.toInt))]

end TypeSettings

/-- Read overrides from an object keyed by entity type. -/
def Json.overrides? : Json → Option (Dictionary TypeSettings)
  | .object members => do
    let entries ← members.mapM fun member =>
      (TypeSettings.ofJson? member.2).map fun settings => (member.1, settings)
    some (Dictionary.ofList entries)
  | _ => none

def Json.seconds? (value : Json) : Option Duration := value.word?.map Duration.ofSeconds

namespace Settings

def default : Settings where
  snapshotEvery := 100
  retention := Duration.ofSeconds 604800
  channelCapacity := 32
  passivation := none
  entities := .empty

def toJson (s : Settings) : Json :=
  .ofMembers [
    ("snapshot_every", .int s.snapshotEvery.toInt),
    ("cleanup_deleted_entity_after", .word s.retention.seconds),
    ("channel_capacity", .word s.channelCapacity),
    ("passivation_timeout", (s.passivation.map fun d => Json.word d.seconds).getD .null),
    ("entities", .object (s.entities.mapValues TypeSettings.toJson).entries)]

def ofFields? (fields : Fields) : Option Settings := do
  guard (fields.fits 5)
  let snapshotEvery ← fields.withDefault 0 "snapshot_every" default.snapshotEvery Json.int64?
  let retention ←
    fields.withDefault 1 "cleanup_deleted_entity_after" default.retention Json.seconds?
  let channelCapacity ←
    fields.withDefault 2 "channel_capacity" default.channelCapacity Json.word?
  let passivation ← fields.optional 3 "passivation_timeout" Json.seconds?
  let entities ← fields.withDefault 4 "entities" default.entities Json.overrides?
  some { snapshotEvery, retention, channelCapacity, passivation, entities }

def ofJson? (value : Json) : Option Settings := (Fields.ofJson? value).bind ofFields?

/-- The threshold in force for an entity type. -/
def snapshotEveryFor (s : Settings) (entityType : String) : Int64 :=
  ((s.entities.get? entityType).bind TypeSettings.snapshotEvery).getD s.snapshotEvery

def policyFor (s : Settings) (entityType : String) : SnapshotPolicy :=
  SnapshotPolicy.ofSetting (s.snapshotEveryFor entityType)

def policyNotices (s : Settings) (entityType : String) : List Notice :=
  SnapshotPolicy.settingNotices entityType (s.snapshotEveryFor entityType)

def shownText (s : Settings) : String :=
  Text.recordText "EngineConfig" [
    ("snapshot_every", toString s.snapshotEvery.toInt),
    ("cleanup_deleted_entity_after", s.retention.shownText),
    ("channel_capacity", toString s.channelCapacity.toNat),
    ("passivation_timeout", Text.optionText (s.passivation.map Duration.shownText)),
    ("entities", Text.mapText (s.entities.entries.map fun entry =>
      (Text.quoted entry.1, entry.2.shownText)))]

end Settings

end EntityEngine
