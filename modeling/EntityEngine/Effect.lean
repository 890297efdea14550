import EntityEngine.LogPosition
import EntityEngine.SnapshotPolicy

/-!
# Effects

A handler describes what its command shall do by an effect: events to persist, a
state to put in place of the old one, whether the entity is deleted, and the
outcome for the caller. `Effect.interpret` turns an effect into a command result or
finds the defect in it. It changes nothing by itself: the state before the command
is given to it and the next state is part of the result.
-/

namespace EntityEngine

structure Crash where
  message : String
deriving DecidableEq

/-- A value, unless the code that computes it crashes. -/
abbrev Attempt (α : Type) := Except Crash α

inductive StateModel where
  /-- By applying events only. Each successful command may be required to emit one. -/
  | eventSourced (requireEvents : Bool)
  | keyValue
deriving DecidableEq

/-- What the caller of a command shall get. A payload that did not encode is kept as
the error. -/
inductive Outcome where
  | reply (payload : Except EncodeError Json)
  | error (message : String) (code : Option ErrorCode)
  | forward (target : ForwardTarget)
  | noReply

structure Effect (S E : Type) where
  events : List E
  replacement : Option S
  outcome : Outcome
  deletes : Bool

namespace Effect

variable {S E : Type}

def ofOutcome (outcome : Outcome) : Effect S E := ⟨[], none, outcome, false⟩

def reply (payload : Except EncodeError Json) : Effect S E := ofOutcome (.reply payload)

def noReply : Effect S E := ofOutcome .noReply

def forward (target : ForwardTarget) : Effect S E := ofOutcome (.forward target)

def error (message : String) : Effect S E := ofOutcome (.error message none)

def errorWithCode (message : String) (code : ErrorCode) : Effect S E :=
  ofOutcome (.error message (some code))

def persist (events : List E) : Effect S E := { (noReply : Effect S E) with events }

def updateState (state : S) : Effect S E :=
  { (noReply : Effect S E) with replacement := some state }

/-- Delete the entity after the reply. -/
def deleteEntity : Effect S E := { (noReply : Effect S E) with deletes := true }

def thenReply (effect : Effect S E) (payload : Except EncodeError Json) : Effect S E :=
  { effect with outcome := .reply payload }

def thenForward (effect : Effect S E) (target : ForwardTarget) : Effect S E :=
  { effect with outcome := .forward target }

def thenNoReply (effect : Effect S E) : Effect S E := { effect with outcome := .noReply }

def andPersist (effect : Effect S E) (events : List E) : Effect S E :=
  { effect with events := effect.events ++ events }

def andDelete (effect : Effect S E) : Effect S E := { effect with deletes := true }

def isError (effect : Effect S E) : Bool :=
  match effect.outcome with
  | .error .. => true
  | _ => false

end Effect

structure CommandResult (S : Type) where
  events : List EventRecord
  clientAction : ClientAction
  snapshot : Option Snapshot
  endSequenceNumber : SequenceNumber
  deletes : Bool
  stateUpdate : Option Json
  /-- The state to put in force; without one the state stays. -/
  nextState : Option S

structure Interpretation where
  operation : String
  model : StateModel
  policy : SnapshotPolicy
  /-- The number of the last event before the command. -/
  sequenceNumber : SequenceNumber

structure Mechanics (S E : Type) where
  encodeState : S → Except EncodeError Json
  encodeEvent : E → Except EncodeError Json
  apply : S → E → Attempt S

namespace Effect

variable {S E : Type}

/-- Deletion needs a reply, which an error is not. -/
def checkDeletion (effect : Effect S E) : Except Defect Unit :=
  match effect.deletes, effect.outcome with
  | true, .noReply => .error .deleteWithoutReply
  | true, .error .. => .error .deleteOnError
  | _, _ => .ok ()

/-- A successful effect changes the state only in the way of the entity's model. -/
def checkModel (effect : Effect S E) (i : Interpretation) : Except Defect Unit :=
  match i.model with
  | .eventSourced requireEvents =>
    if effect.replacement.isSome then .error .stateReplacement
    else if requireEvents && effect.events.isEmpty then .error (.missingMutation i.operation)
    else .ok ()
  | .keyValue => if effect.events.isEmpty then .ok () else .error .eventsOnKeyValue

/-- Number and encode events, the first one with the number after `last`. -/
def records (encode : E → Except EncodeError Json) (last : SequenceNumber) :
    List E → Except EncodeError (List EventRecord)
  | [] => .ok []
  | event :: rest => do
    let payload ← encode event
    let later ← records encode (last + 1) rest
    return ⟨last + 1, payload⟩ :: later

def nextState (m : Mechanics S E) (effect : Effect S E) (state : S) :
    Except Defect (Option S × Option Json) :=
  match effect.replacement with
  | some replacement =>
    match m.encodeState replacement with
    | .ok encoded => .ok (some replacement, some encoded)
    | .error e => .error (.stateEncoding e)
  | none =>
    if effect.events.isEmpty then .ok (none, none)
    else
      match effect.events.foldlM m.apply state with
      | .ok next => .ok (some next, none)
      | .error _ => .error .applyPanicked

/-- The snapshot that goes with events that end at `last`, when one is due. -/
def snapshot? (m : Mechanics S E) (effect : Effect S E) (policy : SnapshotPolicy)
    (last : SequenceNumber) : Option S → Except Defect (Option Snapshot)
  | some next =>
    if !effect.events.isEmpty && policy.isDue last then
      match m.encodeState next with
      | .ok state => .ok (some ⟨last, state⟩)
      | .error e => .error (.stateEncoding e)
    else .ok none
  | none => .ok none

/-- The result of an effect that is no rejection and does `action` for the caller. -/
def carryOut (m : Mechanics S E) (effect : Effect S E) (state : S) (i : Interpretation)
    (action : ClientAction) : Except Defect (CommandResult S) := do
  let events ← (records m.encodeEvent i.sequenceNumber effect.events).mapError .eventEncoding
  let last := i.sequenceNumber + UInt64.ofNat events.length
  let (next, stateUpdate) ← nextState m effect state
  let snapshot ← snapshot? m effect i.policy last next
  return {
    events
    clientAction := action
    snapshot
    endSequenceNumber := last
    deletes := effect.deletes
    stateUpdate
    nextState := next }

def rejection (i : Interpretation) (message : String) (code : Option ErrorCode) :
    CommandResult S where
  events := []
  clientAction := .error message code
  snapshot := none
  endSequenceNumber := i.sequenceNumber
  deletes := false
  stateUpdate := none
  nextState := none

/-- The result of an effect on `state`, or the first defect in it. -/
def interpret (m : Mechanics S E) (effect : Effect S E) (state : S) (i : Interpretation) :
    Except Defect (CommandResult S) := do
  checkDeletion effect
  match effect.outcome with
  | .error message code => return rejection i message code
  | .reply payload =>
    checkModel effect i
    carryOut m effect state i (.reply (← payload.mapError .replyEncoding))
  | .forward target =>
    checkModel effect i
    carryOut m effect state i (.forward target)
  | .noReply =>
    checkModel effect i
    carryOut m effect state i .noReply

end Effect

end EntityEngine
