import EntityEngine.Json.Decode
import EntityEngine.Message.Basic

/-!
# Faults

What can go wrong on a channel, in a handler, with an effect, in recovery, between
a host and the registry, and on the bench. Each kind of fault is a type of its
causes, with the wording of all of them in one `message`.
-/

namespace EntityEngine

/-- A message that its channel does not allow at this point. -/
inductive Violation where
  | duplicateInit (entityId : EntityId)
  | notInitialized (received : String)
  | entityMismatch (expected received : EntityId)
  | sequenceGap (expected received : SequenceNumber)
  | eventAfterActive (sequenceNumber : SequenceNumber)
deriving DecidableEq

def Violation.message : Violation → String
  | duplicateInit entityId => s!"entity [{entityId.text}] received a second init message"
  | notInitialized received => s!"expected init as the first message, received {received}"
  | entityMismatch expected received =>
    s!"message for entity [{received.text}] arrived on the channel of entity [{expected.text}]"
  | sequenceGap expected received =>
    s!"replayed event has sequence number {received.toNat}, expected {expected.toNat}"
  | eventAfterActive sequenceNumber =>
    s!"replay event {sequenceNumber.toNat} received after the entity became active"

/-- The use of a command's context after its handler has ended. -/
inductive ContextError where
  | inactive (operation : String)
deriving DecidableEq

def ContextError.message : ContextError → String
  | inactive operation =>
    s!"command context for operation [{operation}] used after its handler returned"

inductive HandlerError where
  /-- The entity's rules decline the command. -/
  | rejected (message : String) (code : Option ErrorCode)
  | context (error : ContextError)
  | unexpected (reason : String)
deriving DecidableEq

def HandlerError.message : HandlerError → String
  | rejected message _ => message
  | context error => error.message
  | unexpected reason => s!"unexpected handler failure: {reason}"

/-- Why an effect cannot be carried out. -/
inductive Defect where
  | deleteWithoutReply
  | deleteOnError
  | stateReplacement
  | eventsOnKeyValue
  | missingMutation (operation : String)
  | replyEncoding (error : EncodeError)
  | eventEncoding (error : EncodeError)
  | stateEncoding (error : EncodeError)
  | applyPanicked
deriving DecidableEq

def Defect.message : Defect → String
  | deleteWithoutReply => "effect deletes the entity but declines to reply"
  | deleteOnError => "an error effect cannot delete the entity"
  | stateReplacement => "event-sourced entities change state only by emitting events"
  | eventsOnKeyValue => "key-value entities cannot emit events"
  | missingMutation operation => s!"operation [{operation}] succeeded without emitting any event"
  | replyEncoding error => s!"failed to encode reply payload: {error.message}"
  | eventEncoding error => s!"failed to encode event: {error.message}"
  | stateEncoding error => s!"failed to encode state: {error.message}"
  | applyPanicked => "applying emitted events panicked"

inductive CommandError where
  | unknownOperation (operation : String)
  | invalidPayload (operation : String) (error : DecodeError)
  | handler (error : HandlerError)
  | panicked (operation : String)
  | effect (defect : Defect)
deriving DecidableEq

def CommandError.message : CommandError → String
  | unknownOperation operation => s!"no handler registered for operation [{operation}]"
  | invalidPayload operation error =>
    s!"invalid payload for operation [{operation}]: {error.message}"
  | handler error => error.message
  | panicked operation => s!"handler for operation [{operation}] panicked"
  | effect defect => defect.message

/-- Why the history of an entity cannot be taken in, or its state not be given out. -/
inductive RecoveryError where
  | snapshotUndecodable (sequenceNumber : SequenceNumber) (error : DecodeError)
  | eventUndecodable (sequenceNumber : SequenceNumber) (error : DecodeError)
  | applyPanicked (sequenceNumber : SequenceNumber)
  | stateUnencodable (error : EncodeError)
deriving DecidableEq

def RecoveryError.message : RecoveryError → String
  | snapshotUndecodable sequenceNumber error =>
    s!"failed to decode snapshot state at sequence {sequenceNumber.toNat}: {error.message}"
  | eventUndecodable sequenceNumber error =>
    s!"failed to decode replayed event {sequenceNumber.toNat}: {error.message}"
  | applyPanicked sequenceNumber => s!"applying replayed event {sequenceNumber.toNat} panicked"
  | stateUnencodable error => s!"failed to encode current state: {error.message}"

inductive ChannelError where
  | alreadyOpen (entityId : EntityId)
  | workerGone
deriving DecidableEq

def ChannelError.message : ChannelError → String
  | alreadyOpen entityId => s!"entity [{entityId.text}] already has a live channel"
  | workerGone => "entity worker is no longer running"

/-- Why a history cannot be given to a bench. -/
inductive HistoryError where
  | unencodable (error : EncodeError)
  | rejected (description : String)
deriving DecidableEq

def HistoryError.message : HistoryError → String
  | unencodable error => s!"failed to encode history event: {error.message}"
  | rejected description => s!"history rejected: {description}"

end EntityEngine
