import EntityEngine.Roster
import EntityEngine.Settings

/-!
# The registry

A registry runs the workers of one entity type on a clock of its own. Hosts open
channels, send messages and take answers; `Registry.settle` lets the workers and
their supervision go on until nothing more can happen without time passing. The
work is shared out in rounds, and in each round every worker takes one turn if it
can: its handler's, its own up to the next handler, or, once it has ended, the turn
in which its end is recorded and published. Within a round the workers follow each
other as their waits were over: by the moment that a timer was due, and among equal
moments by who has waited longer.
-/

namespace EntityEngine

structure Registry (E : Entity) where
  settings : Settings
  tracer : Tracer
  roster : Roster
  /-- All workers by generation. -/
  workers : List (Worker E)
  turns : Nat
  /-- By generation, how many turns had been taken when the worker took its last one. -/
  lastTurns : List Nat
  shared : Shared E.Memory
  now : Instant

/-- What an operation leaves, with what was written and told. -/
structure Account (E : Entity) (α : Type) where
  registry : Registry E
  notices : List Notice
  calls : List TraceCall
  result : α

namespace Registry

variable {E : Entity}

def create (settings : Settings) (tracer : Tracer) (supply : Nat → Uuid) : Registry E where
  settings := settings
  tracer := tracer
  roster := .empty E.name settings.retention
  workers := []
  turns := 0
  lastTurns := []
  shared := E.share supply
  now := 0

def creationNotices (E : Entity) : List Notice :=
  E.router.notices ++ [.registryBuilt E.name E.router.size]

def shownText (r : Registry E) : String :=
  Text.partialRecordText "EntityRegistry"
    [("entity_type", Text.quoted E.name), ("config", r.settings.shownText)]

def reap (r : Registry E) : Registry E × List Notice :=
  let (roster, notices) := r.roster.reap r.now
  ({ r with roster }, notices)

/-- The settings of a channel that is opened now; a snapshot of a deleted entity is not
for it. -/
def channelOptions (r : Registry E) (id : EntityId) (tombstoned : Bool) : Options where
  policy := r.settings.policyFor E.name
  tracer := r.tracer
  expectedEntity := some id
  ignoreInitSnapshot := tombstoned

inductive Opened where
  | channel (generation : Nat)
  | refused (error : ChannelError)
  | panicked (crash : Crash)
deriving DecidableEq

def addWorker (r : Registry E) (id : EntityId) (worker : Worker E) : Registry E :=
  { r with
    roster := r.roster.enter id
    workers := r.workers ++ [worker]
    turns := r.turns + 1
    lastTurns := r.lastTurns ++ [r.turns] }

/-- Open a channel for an identity that is not taken. Its tombstone is used up even if
the settings allow no channel. -/
def openChannel (r : Registry E) (id : EntityId) : Account E Opened :=
  let (r, reaped) := r.reap
  if r.roster.isTaken id then ⟨r, reaped, [], .refused (.alreadyOpen id)⟩
  else
    let options := r.channelOptions id (r.roster.isTombstoned id)
    let (roster, consumed) := r.roster.consume id
    let r := { r with roster }
    let notices := reaped ++ consumed ++ r.settings.policyNotices E.name
    let capacity := max r.settings.channelCapacity.toNat 1
    match Worker.create options capacity r.settings.passivation with
    | .ok worker =>
      ⟨r.addWorker id worker, notices ++ [.workerSpawned E.name id], [],
        .channel r.roster.nextGeneration⟩
    | .error crash => ⟨r, notices, [], .panicked crash⟩

/-- A new handle to the worker of an identity, if it has handles left and takes
messages. -/
def handle (r : Registry E) (id : EntityId) : Account E (Option Nat) :=
  let (r, reaped) := r.reap
  let found := do
    let generation ← r.roster.generation? id
    let worker ← r.workers[generation]?
    if worker.inbound.receiving && worker.inbound.senders ≠ 0 then some generation else none
  match found with
  | some generation =>
    let workers := r.workers.modify generation fun w => { w with inbound := w.inbound.addSender }
    ⟨{ r with workers }, reaped, [], some generation⟩
  | none => ⟨r, reaped, [], none⟩

def liveEntities (r : Registry E) : Account E (List EntityId) :=
  let (r, reaped) := r.reap
  ⟨r, reaped, [], r.roster.liveEntities⟩

def isTombstoned (r : Registry E) (id : EntityId) : Account E Bool :=
  let (r, reaped) := r.reap
  ⟨r, reaped, [], r.roster.isTombstoned id⟩

inductive Wait where
  | reported (report : Option Report)
  | pending

/-- Wait for the worker of an identity, without any time. -/
def waitStopped (r : Registry E) (id : EntityId) : Registry E × Wait :=
  match r.roster.generation? id with
  | none => (r, .reported none)
  | some generation =>
    match r.roster.collect? id generation with
    | some (report, roster) => ({ r with roster }, .reported report)
    | none => (r, .pending)

def modifyWorker (r : Registry E) (generation : Nat) (f : Worker E → Worker E) : Registry E :=
  { r with workers := r.workers.modify generation f }

def send (r : Registry E) (generation : Nat) (message : Inbound) :
    Except Refusal (Registry E) :=
  match r.workers[generation]? with
  | none => .error .closed
  | some worker => (worker.send message).map fun w => r.modifyWorker generation fun _ => w

def receive (r : Registry E) (generation : Nat) : Received (Registry E) :=
  match r.workers[generation]? with
  | none => .closed
  | some worker =>
    match worker.receive with
    | .message message w => .message message (r.modifyWorker generation fun _ => w)
    | .pending => .pending
    | .closed => .closed

def isAlive (r : Registry E) (generation : Nat) : Bool :=
  r.workers[generation]?.any fun w => w.inbound.receiving

def cloneHandle (r : Registry E) (generation : Nat) : Registry E :=
  r.modifyWorker generation fun w => { w with inbound := w.inbound.addSender }

def dropHandle (r : Registry E) (generation : Nat) : Registry E :=
  r.modifyWorker generation fun w => { w with inbound := w.inbound.dropSender }

def dropReplies (r : Registry E) (generation : Nat) : Registry E :=
  r.modifyWorker generation Worker.closeOutbound

def advance (r : Registry E) (span : Nat) : Registry E := { r with now := r.now + span }

/-- Go on with a worker until it has to wait or a handler is to run. -/
def untilHandler (now : Instant) : (limit : Nat) → Stride E → Stride E
  | 0, stride => stride
  | limit + 1, stride =>
    match stride.worker.stage with
    | .running _ => stride
    | _ =>
      match stride.worker.step? now stride.shared with
      | none => stride
      | some next =>
        untilHandler now limit
          ⟨next.worker, next.shared, stride.notices ++ next.notices, stride.calls ++ next.calls⟩

/-- One turn of a worker: its handler's, or its own up to the next handler. -/
def turn? (now : Instant) (w : Worker E) (shared : Shared E.Memory) : Option (Stride E) :=
  match w.stage with
  | .running _ | .sleeping .. => w.step? now shared
  | _ => (w.step? now shared).map fun stride => untilHandler now w.stepLimit stride

def endNotices (w : Worker E) : List Notice :=
  match w.stage with
  | .stopped report => [.workerStopped E.name report.exit.name report.deleted]
  | _ => []

def moveWorker (r : Registry E) (generation : Nat) : Option (Account E Unit) := do
  let worker ← r.workers[generation]?
  let stride ← turn? r.now worker r.shared
  let w := stride.worker
  let roster := if w.hasEnded then r.roster.finish generation w.report? else r.roster
  return {
    registry := { r with
      roster
      workers := r.workers.set generation w
      turns := r.turns + 1
      lastTurns := r.lastTurns.set generation r.turns
      shared := stride.shared }
    notices := stride.notices ++ endNotices w
    calls := stride.calls
    result := () }

def failureNotices (r : Registry E) (generation : Nat) : List Notice :=
  match r.workers[generation]?, r.roster.posts[generation]? with
  | some w, some post =>
    match w.stage with
    | .failed crash =>
      [.workerFailed E.name post.entityId
        s!"task panicked with message {Text.quoted crash.message}"]
    | _ => []
  | _, _ => []

def supervise (r : Registry E) (generation : Nat) : Option (Account E Unit) :=
  match r.roster.posts[generation]? with
  | some ⟨_, .finished _⟩ =>
    let (roster, notices) := r.roster.record r.now generation
    some ⟨{ r with roster := roster.publish generation },
      r.failureNotices generation ++ notices, [], ()⟩
  | _ => none

/-- The next turn that a generation can take: its worker's, or its supervision. -/
def move? (r : Registry E) (generation : Nat) : Option (Account E Unit) :=
  (r.moveWorker generation).orElse fun _ => r.supervise generation

/-- A turn for each of some generations, where it can take one; the result tells whether
any could. -/
def sweep (r : Registry E) : List Nat → Account E Bool
  | [] => ⟨r, [], [], false⟩
  | generation :: rest =>
    match r.move? generation with
    | none => sweep r rest
    | some first =>
      let later := sweep first.registry rest
      ⟨later.registry, first.notices ++ later.notices, first.calls ++ later.calls, true⟩

/-- The wait of one generation was over before that of another: it was due earlier, or
as early and begun before. -/
def precedes (r : Registry E) (a b : Nat) : Bool :=
  let due := fun generation => (r.workers[generation]?.map Worker.due).getD 0
  let begun := fun generation => (r.lastTurns[generation]?).getD 0
  due a < due b || due a == due b && begun a < begun b

def insertInOrder (r : Registry E) (generation : Nat) : List Nat → List Nat
  | [] => [generation]
  | other :: rest =>
    if r.precedes generation other then generation :: other :: rest
    else other :: r.insertInOrder generation rest

def agenda (r : Registry E) : List Nat :=
  (List.range r.workers.length).foldr r.insertInOrder []

theorem insertInOrder_perm (r : Registry E) (generation : Nat) (order : List Nat) :
    (r.insertInOrder generation order).Perm (generation :: order) := by
  induction order with
  | nil => exact .refl _
  | cons other rest ih =>
    unfold insertInOrder
    split
    · exact .refl _
    · exact (ih.cons other).trans (.swap generation other rest)

theorem agenda_perm (r : Registry E) : r.agenda.Perm (List.range r.workers.length) := by
  unfold agenda
  induction List.range r.workers.length with
  | nil => exact .refl _
  | cons generation rest ih => exact (r.insertInOrder_perm generation _).trans (ih.cons generation)

def rounds (order : List Nat) : (limit : Nat) → Registry E → Account E Unit
  | 0, r => ⟨r, [], [], ()⟩
  | limit + 1, r =>
    let first := r.sweep order
    if first.result then
      let later := rounds order limit first.registry
      ⟨later.registry, first.notices ++ later.notices, first.calls ++ later.calls, ()⟩
    else ⟨first.registry, first.notices, first.calls, ()⟩

/-- More rounds than can move anything: the steps of all workers, and one supervision
for each. -/
def roundLimit (r : Registry E) : Nat :=
  (r.workers.map fun w => w.stepLimit + 1).foldr (· + ·) 1

/-- Let everything go on until nothing more can happen without time passing. -/
def settle (r : Registry E) : Account E Unit := rounds r.agenda r.roundLimit r

inductive Reached where
  | answered (message : Outbound)
  /-- The command is queued and there is no answer yet. -/
  | waiting
  /-- There was no room, and the command is not queued. -/
  | full
  | workerGone
deriving DecidableEq

/-- Send a command and take the next answer once everything has gone on. -/
def call (r : Registry E) (generation : Nat) (command : Command) : Account E Reached :=
  match r.send generation (.command command) with
  | .error .full => ⟨r, [], [], .full⟩
  | .error .closed => ⟨r, [], [], .workerGone⟩
  | .ok sent =>
    let settled := sent.settle
    let (registry, reached) := match settled.registry.receive generation with
      | .message message rest => (rest, .answered message)
      | .pending => (settled.registry, .waiting)
      | .closed => (settled.registry, .workerGone)
    ⟨registry, settled.notices, settled.calls, reached⟩

end Registry

end EntityEngine
