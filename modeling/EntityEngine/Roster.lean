import EntityEngine.Worker

/-!
# The roster of a registry

The roster knows every worker that was ever opened, by its generation, and which
identities are taken. An identity stays taken until its latest worker has been
published as stopped and its entry dropped. A worker that ends having deleted its
entity leaves a tombstone, recorded before it is published; the next opening of the
identity consumes it, unless it has expired before.
-/

namespace EntityEngine

/-- How far the end of a worker has been dealt with. A worker that failed has no
report. -/
inductive Status where
  | working
  | finished (report : Option Report)
  | recorded (report : Option Report)
  | published (report : Option Report)
deriving DecidableEq

structure Post where
  entityId : EntityId
  status : Status
deriving DecidableEq

structure Roster where
  entityType : String
  retention : Duration
  /-- All workers, the one of generation `n` at index `n`. -/
  posts : List Post
  /-- The generations of the identities that are taken. -/
  live : Dictionary Nat
  /-- The deleted identities with the moment of the record. -/
  tombstones : Dictionary Instant
deriving DecidableEq

namespace Roster

def empty (entityType : String) (retention : Duration) : Roster :=
  ⟨entityType, retention, [], .empty, .empty⟩

def isPublished (r : Roster) (generation : Nat) : Bool :=
  match r.posts[generation]? with
  | some ⟨_, .published _⟩ => true
  | _ => false

def stands (r : Roster) (now since : Instant) : Bool := now - since < r.retention.total

/-- Drop the entries of published workers and the expired tombstones. -/
def reap (r : Roster) (now : Instant) : Roster × List Notice :=
  let expired := r.tombstones.entries.filter fun entry => !r.stands now entry.2
  ({ r with
      live := r.live.filter fun _ generation => !r.isPublished generation
      tombstones := r.tombstones.filter fun _ since => r.stands now since },
    expired.map fun entry => .tombstoneExpired r.entityType ⟨entry.1⟩)

def isTaken (r : Roster) (id : EntityId) : Bool := r.live.contains id.text

/-- Use up the tombstone of an identity; what is written if it had one. -/
def consume (r : Roster) (id : EntityId) : Roster × List Notice :=
  ({ r with tombstones := r.tombstones.erase id.text },
    if r.tombstones.contains id.text then [.tombstoneConsumed r.entityType id] else [])

def nextGeneration (r : Roster) : Nat := r.posts.length

def enter (r : Roster) (id : EntityId) : Roster :=
  { r with
    posts := r.posts ++ [⟨id, .working⟩]
    live := r.live.insert id.text r.nextGeneration }

def generation? (r : Roster) (id : EntityId) : Option Nat := r.live.get? id.text

def liveEntities (r : Roster) : List EntityId := r.live.keys.map EntityId.mk

def isTombstoned (r : Roster) (id : EntityId) : Bool := r.tombstones.contains id.text

/-- What a wait for the worker of `generation` comes to, once that worker is published:
its report, and the entry dropped if it is still that worker's. -/
def collect? (r : Roster) (id : EntityId) (generation : Nat) : Option (Option Report × Roster) :=
  match r.posts[generation]? with
  | some ⟨_, .published report⟩ =>
    some (report,
      if r.generation? id = some generation then { r with live := r.live.erase id.text } else r)
  | _ => none

def setStatus (r : Roster) (generation : Nat) (status : Status) : Roster :=
  { r with posts := r.posts.modify generation fun post => { post with status } }

def finish (r : Roster) (generation : Nat) (report : Option Report) : Roster :=
  match r.posts[generation]? with
  | some ⟨_, .working⟩ => r.setStatus generation (.finished report)
  | _ => r

def deletedBy : Option Report → Option EntityId
  | some report => if report.deleted then report.entityId else none
  | none => none

/-- Record the end of a worker, with a tombstone if it left its entity deleted. -/
def record (r : Roster) (now : Instant) (generation : Nat) : Roster × List Notice :=
  match r.posts[generation]? with
  | some ⟨_, .finished report⟩ =>
    let r := r.setStatus generation (.recorded report)
    match deletedBy report with
    | some id =>
      ({ r with tombstones := r.tombstones.insert id.text now },
        [.tombstoneRecorded r.entityType id r.retention.seconds])
    | none => (r, [])
  | _ => (r, [])

def publish (r : Roster) (generation : Nat) : Roster :=
  match r.posts[generation]? with
  | some ⟨_, .recorded report⟩ => r.setStatus generation (.published report)
  | _ => r

end Roster

end EntityEngine
