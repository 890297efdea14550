import EntityEngine.Duration
import EntityEngine.Queue
import EntityEngine.Session

/-!
# Workers

A worker drives one session between two bounded queues. It takes a message, lets
the handler run, delivers the answer, and only then takes the next one. It stops
when the inbound queue is finished, when an answer cannot be delivered because its
receiver is gone, when the session is terminated, or when it has waited for a
message for as long as its passivation allows.

`Worker.step?` is one small step at a given time; there is none when the worker can
do nothing before something else happens or time passes.
-/

namespace EntityEngine

/-- A moment in nanoseconds on the clock of the engine. -/
abbrev Instant := Nat

inductive Exit where
  | inboundClosed
  | outboundClosed
  | terminated
  | passivated
deriving DecidableEq

def Exit.name : Exit → String
  | inboundClosed => "InboundClosed"
  | outboundClosed => "OutboundClosed"
  | terminated => "Terminated"
  | passivated => "Passivated"

structure Report where
  exit : Exit
  entityId : Option EntityId
  /-- The entity was deleted and not recreated. -/
  deleted : Bool
deriving DecidableEq

inductive Stage (E : Entity) where
  | starting
  | waiting (since : Instant)
  | running (call : Call E)
  | sleeping (wake : Instant) (call : Call E)
  | hanging (ticket : Ticket)
  /-- A handler has ended and its command has not. -/
  | ended (ticket : Ticket) (ending : Except CommandError (Effect E.State E.Event))
  | delivering (message : Outbound)
  | stopped (report : Report)
  | failed (crash : Crash)

structure Worker (E : Entity) where
  session : Session E
  inbound : Queue Inbound
  outbound : Queue Outbound
  passivation : Option Duration
  stage : Stage E

/-- A worker's step: the worker and the shared things afterwards, and what was written
and told. -/
structure Stride (E : Entity) where
  worker : Worker E
  shared : Shared E.Memory
  notices : List Notice
  calls : List TraceCall

inductive Received (σ : Type) where
  | message (message : Outbound) (rest : σ)
  | pending
  | closed

namespace Worker

variable {E : Entity}

/-- Why no queue can be made for so many items. -/
def capacityCrash? (capacity : Nat) : Option Crash :=
  if capacity = 0 then some ⟨"mpsc bounded channel requires buffer > 0"⟩
  else if Queue.maxCapacity < capacity then
    some ⟨s!"a semaphore may not have more than MAX_PERMITS permits ({Queue.maxCapacity})"⟩
  else none

/-- A worker before its first step, with two queues for `capacity` items each. -/
def create (options : Options) (capacity : Nat) (passivation : Option Duration) :
    Attempt (Worker E) :=
  match capacityCrash? capacity with
  | some crash => .error crash
  | none =>
    .ok {
      session := .fresh options
      inbound := .empty capacity
      outbound := .empty capacity
      passivation
      stage := .starting }

def report (w : Worker E) (exit : Exit) : Report :=
  ⟨exit, w.session.identity.orElse fun _ => w.session.options.expectedEntity, w.session.deleted⟩

def hangUp (w : Worker E) (stage : Stage E) : Worker E :=
  { w with
    inbound := w.inbound.dropReceiver
    outbound := w.outbound.dropSenders
    stage }

def stop (w : Worker E) (exit : Exit) : Worker E := w.hangUp (.stopped (w.report exit))

/-- After a message has been dealt with: stop if the session is terminated, else wait. -/
def afterMessage (now : Instant) (w : Worker E) : Worker E :=
  if w.session.phase = .terminated then w.stop .terminated
  else { w with stage := .waiting now }

def absorb (now : Instant) (w : Worker E) (step : Step E) : Stride E :=
  let w := { w with session := step.session }
  let w := match step.response with
    | .quiet => w.afterMessage now
    | .answered message => { w with stage := .delivering message }
    | .crashed crash => w.hangUp (.failed crash)
    | .calling call => { w with stage := .running call }
  ⟨w, step.shared, step.notices, step.calls⟩

def isIdle (now since : Instant) (w : Worker E) : Bool :=
  w.passivation.any fun limit => since + limit.total ≤ now

/-- Take the next message, stop if there will be none, or give up waiting. -/
def take? (now since : Instant) (w : Worker E) (shared : Shared E.Memory) : Option (Stride E) :=
  match w.inbound.pop with
  | .item message inbound =>
    some ({ w with inbound }.absorb now (w.session.begin shared message))
  | .finished => some ⟨w.stop .inboundClosed, shared, [], []⟩
  | .nothingYet =>
    if w.isIdle now since then
      some ⟨w.stop .passivated, shared, [.passivating E.name], []⟩
    else none

def runHandler (now : Instant) (w : Worker E) (shared : Shared E.Memory) (call : Call E) :
    Stride E :=
  let (advance, shared) := Session.advance shared call
  let stage := match advance with
    | .ended ending => .ended call.ticket ending
    | .sleeping span rest => .sleeping (now + span) ⟨call.ticket, rest⟩
    | .hanging => .hanging call.ticket
  ⟨{ w with stage }, shared, [], []⟩

def deliver? (now : Instant) (w : Worker E) (shared : Shared E.Memory) (message : Outbound) :
    Option (Stride E) :=
  match w.outbound.push message with
  | .ok outbound => some ⟨{ w with outbound }.afterMessage now, shared, [], []⟩
  | .error .closed => some ⟨w.stop .outboundClosed, shared, [.outboundClosed], []⟩
  | .error .full => none

def step? (now : Instant) (w : Worker E) (shared : Shared E.Memory) : Option (Stride E) :=
  match w.stage with
  | .starting => some ⟨{ w with stage := .waiting now }, shared, [], []⟩
  | .waiting since => w.take? now since shared
  | .running call => some (w.runHandler now shared call)
  | .sleeping wake call => if wake ≤ now then some (w.runHandler now shared call) else none
  | .hanging _ => none
  | .ended ticket ending => some (w.absorb now (w.session.conclude shared ticket ending))
  | .delivering message => w.deliver? now shared message
  | .stopped _ => none
  | .failed _ => none

/-- When a wait for nothing but time is over; zero when the worker does not wait so. -/
def due (w : Worker E) : Instant :=
  match w.stage with
  | .sleeping wake _ => wake
  | .waiting since => since + (w.passivation.map Duration.total).getD 0
  | _ => 0

def hasEnded (w : Worker E) : Bool :=
  match w.stage with
  | .stopped _ | .failed _ => true
  | _ => false

def report? (w : Worker E) : Option Report :=
  match w.stage with
  | .stopped report => some report
  | _ => none

def steps (now : Instant) : (limit : Nat) → Stride E → Stride E
  | 0, stride => stride
  | limit + 1, stride =>
    match stride.worker.step? now stride.shared with
    | none => stride
    | some next =>
      steps now limit
        ⟨next.worker, next.shared, stride.notices ++ next.notices, stride.calls ++ next.calls⟩

/-- More steps than the worker can make without time passing: five for each message,
and some for the message in hand and for stopping. -/
def stepLimit (w : Worker E) : Nat := 5 * (w.inbound.items.length + 3)

/-- Let the worker go on until it can do nothing more without time passing. -/
def settle (now : Instant) (w : Worker E) (shared : Shared E.Memory) : Stride E :=
  steps now w.stepLimit ⟨w, shared, [], []⟩

def send (w : Worker E) (message : Inbound) : Except Refusal (Worker E) :=
  (w.inbound.push message).map fun inbound => { w with inbound }

def receive (w : Worker E) : Received (Worker E) :=
  match w.outbound.pop with
  | .item message outbound => .message message { w with outbound }
  | .nothingYet => .pending
  | .finished => .closed

def closeInbound (w : Worker E) : Worker E := { w with inbound := w.inbound.dropSenders }

def closeOutbound (w : Worker E) : Worker E := { w with outbound := w.outbound.dropReceiver }

end Worker

end EntityEngine
