import EntityEngine.Proofs.Crowd
import EntityEngine.Samples.Counter

/-!
# One worker for an identity

Whatever callers, hosts, workers and their supervision do, and in whatever order: an
identity has at most one worker that has not finished. A channel is opened for it if no
worker was ever opened, or if the latest one is published as stopped; otherwise the
opening is refused and leaves the registry as it is. Only the entries of published
workers are ever dropped.
-/

namespace EntityEngine

namespace Registry

variable {E : Entity} {r : Registry E} {id : EntityId}

theorem Orderly.busy_unique (orderly : r.Orderly) {generation other : Nat}
    (busy : r.Busy id generation) (busy' : r.Busy id other) : generation = other :=
  Option.some.inj ((orderly.busy busy).symm.trans (orderly.busy busy'))

theorem Orderly.untaken_iff (orderly : r.Orderly) :
    (r.roster.reap r.now).1.isTaken id = false ↔ r.roster.Free id := by
  rw [← Bool.not_eq_true, orderly.sound.isTaken_reap, not_not]

/-- No worker of the identity was opened, or it is published. -/
theorem Orderly.openChannel_free (orderly : r.Orderly) (free : r.roster.Free id)
    (fits : r.settings.channelCapacity.toNat ≤ Queue.maxCapacity) :
    (r.openChannel id).result = .channel r.roster.nextGeneration ∧
      (r.openChannel id).registry.Busy id r.roster.nextGeneration := by
  have untaken := orderly.untaken_iff.mpr free
  generalize opened : r.openChannel id = account
  have ways := r.opens id
  rw [opened] at ways
  cases ways with
  | taken taken =>
      rw [untaken] at taken
      cases taken
  | oversized _ crashed =>
      have none : Worker.capacityCrash? r.capacity = none := by
        rw [Worker.capacityCrash?_eq_none_iff, capacity]
        have positive : 1 ≤ Queue.maxCapacity := by decide
        omega
      rw [none] at crashed
      cases crashed
  | @opened notices worker _ createsWorker =>
      refine ⟨rfl, ?_, worker, ?_, Worker.hasEnded_create createsWorker⟩
      · exact (Roster.identity?_enter ..).trans (if_pos rfl)
      · rw [Roster.nextGeneration, ← orderly.paired]
        exact List.getElem?_concat_length

theorem Orderly.openChannel_oversized (orderly : r.Orderly) (free : r.roster.Free id)
    (oversized : Queue.maxCapacity < r.settings.channelCapacity.toNat) :
    ∃ crash, (r.openChannel id).result = .panicked crash ∧
      (r.openChannel id).registry.workers = r.workers ∧
      (r.openChannel id).registry.roster.live = r.reap.1.roster.live := by
  have untaken := orderly.untaken_iff.mpr free
  have crashes : Worker.capacityCrash? r.capacity ≠ none := by
    rw [Ne, Worker.capacityCrash?_eq_none_iff, capacity]
    omega
  generalize opened : r.openChannel id = account
  have ways := r.opens id
  rw [opened] at ways
  cases ways with
  | taken taken =>
      rw [untaken] at taken
      cases taken
  | @oversized _ crash _ _ => exact ⟨crash, rfl, rfl, Roster.live_consume _ id⟩
  | opened _ createsWorker =>
      exfalso
      unfold CreatesWorker Worker.create at createsWorker
      split at createsWorker
      · cases createsWorker
      · next none => exact crashes none

theorem Orderly.openChannel_reserved (orderly : r.Orderly) (reserved : ¬r.roster.Free id) :
    (r.openChannel id).result = .refused (.alreadyOpen id) ∧
      (r.openChannel id).registry = r.reap.1 := by
  rw [← orderly.untaken_iff, Bool.not_eq_false] at reserved
  generalize opened : r.openChannel id = account
  have ways := r.opens id
  rw [opened] at ways
  cases ways with
  | taken taken => exact ⟨rfl, rfl⟩
  | oversized untaken crashed =>
      rw [untaken] at reserved
      cases reserved
  | opened untaken createsWorker =>
      rw [untaken] at reserved
      cases reserved

theorem Orderly.mem_liveEntities (orderly : r.Orderly) :
    id ∈ r.liveEntities.result ↔ ¬r.roster.Free id := by
  rw [← orderly.sound.isTaken_reap r.now]
  exact Roster.mem_liveEntities

end Registry

namespace Crowd

variable {E : Entity}

/-- At every moment of every run an identity has one worker at most, and is reserved until
that worker is published as stopped. -/
theorem run_exclusive (settings : Settings) (tracer : Tracer) (supply : Nat → Uuid)
    (happenings : List Happening) :
    let c := (start settings tracer supply : Crowd E).run happenings
    let r := c.registry
    (∀ id generation other, r.Busy id generation → r.Busy id other → generation = other) ∧
    (∀ id, r.roster.Free id → settings.channelCapacity.toNat ≤ Queue.maxCapacity →
      (r.openChannel id).result = .channel r.roster.nextGeneration ∧
      (r.openChannel id).registry.Busy id r.roster.nextGeneration) ∧
    (∀ id, r.roster.Free id → Queue.maxCapacity < settings.channelCapacity.toNat →
      ∃ crash, (r.openChannel id).result = .panicked crash ∧
        (r.openChannel id).registry.workers = r.workers ∧
        (r.openChannel id).registry.roster.live = r.reap.1.roster.live) ∧
    (∀ id, ¬r.roster.Free id →
      (r.openChannel id).result = .refused (.alreadyOpen id) ∧
      (r.openChannel id).registry = r.reap.1) ∧
    (∀ happening id generation, r.roster.generation? id = some generation →
      r.roster.isPublished generation = false →
      (c.next happening).registry.roster.generation? id = some generation) ∧
    r.liveEntities.result.Pairwise (·.text < ·.text) ∧
    ∀ id, id ∈ r.liveEntities.result ↔ ¬r.roster.Free id := by
  intro c r
  have orderly : r.Orderly :=
    orderly_run (Registry.orderly_create settings tracer supply) happenings
  have same : r.settings = settings := settings_run (start settings tracer supply) happenings
  refine ⟨?_, ?_, ?_, ?_, ?_, ?_, ?_⟩
  · intro id generation other
    exact orderly.busy_unique
  · intro id free fits
    rw [← same] at fits
    exact orderly.openChannel_free free fits
  · intro id free oversized
    rw [← same] at oversized
    exact orderly.openChannel_oversized free oversized
  · intro id reserved
    exact orderly.openChannel_reserved reserved
  · intro happening id generation found unpublished
    exact (c.becomes_next happening).kept found unpublished
  · exact Roster.pairwise_liveEntities _
  · intro id
    exact orderly.mem_liveEntities

/-- No channel is opened for a free identity over queues that are larger than any can be. -/
theorem free_unopened :
    let settings := { Settings.default with channelCapacity := 2305843009213693952 }
    let c : Crowd Samples.Counter.entity := start settings .silent Uuid.ofNat
    c.registry.roster.Free ⟨"c"⟩ ∧
      (c.registry.openChannel ⟨"c"⟩).result = .panicked
        ⟨"a semaphore may not have more than MAX_PERMITS permits (2305843009213693951)"⟩ := by
  intro settings c
  constructor
  · exact .inl fun generation found => (nomatch found)
  · rfl

end Crowd

end EntityEngine
