import EntityEngine.Bench
import EntityEngine.Proofs.Retirement
import EntityEngine.Proofs.Tombstones

/-!
# A deletion is remembered

The fact that an entity was deleted goes from the session to the report of its worker,
from there to the tombstone, and with the next channel to the session that ignores the
old snapshot. Two things make the engine forget it: the live channel takes up another
command or a snapshot request, which begins a new life, or a channel is opened for the
identity, which uses up the tombstone. The main statement says that nothing else does,
as long as the tombstone stands; two runs at the end show that these two do.
-/

namespace EntityEngine

namespace Roster

variable {r : Roster} {generation other : Nat} {report : Option Report}

/-- The end of the worker is still to come or to be recorded. -/
def Unrecorded (r : Roster) (generation : Nat) : Prop :=
  r.status? generation = some .working ∨
    ∃ report, r.status? generation = some (.finished report)

theorem Unrecorded.unpublished (h : r.Unrecorded generation) :
    r.isPublished generation = false := by
  rw [isPublished_eq]
  rcases h with working | ⟨report, finished⟩
  · rw [working]
  · rw [finished]

theorem Unrecorded.finish (h : r.Unrecorded generation) (other : Nat) (report : Option Report) :
    (r.finish other report).Unrecorded generation := by
  unfold Roster.finish
  split
  · unfold Unrecorded at h ⊢
    rw [status?_setStatus]
    split
    next same =>
      rcases h with h | ⟨report, h⟩ <;> rw [h] <;> exact .inr ⟨_, rfl⟩
    · exact h
  · exact h

theorem Unrecorded.record_of_ne (h : r.Unrecorded generation) (now : Instant)
    (different : other ≠ generation) : (r.record now other).1.Unrecorded generation := by
  have same : (r.record now other).1.status? generation = r.status? generation := by
    unfold record
    split
    next entityId report post =>
      have kept := status?_setStatus_of_ne (r := r) different (.recorded report)
      cases deletedBy report with
      | none => exact kept
      | some id => exact kept
    · rfl
  rwa [Unrecorded, same]

theorem Unrecorded.record_of_working (h : r.status? generation = some .working) (now : Instant)
    (other : Nat) : (r.record now other).1.Unrecorded generation :=
  .inl (status?_record_of_working now other h)

theorem Unrecorded.publish (h : r.Unrecorded generation) (other : Nat) :
    (r.publish other).Unrecorded generation := by
  unfold Roster.publish
  split
  · next entityId report post =>
      have different : other ≠ generation := by
        rintro rfl
        rcases h with h | ⟨report, h⟩ <;> rw [status?, post] at h <;> cases h
      rwa [Unrecorded, status?_setStatus_of_ne different]
  · exact h

theorem Unrecorded.enter (h : r.Unrecorded generation) (id : EntityId) :
    (r.enter id).Unrecorded generation := by
  unfold Unrecorded
  rw [status?_enter]
  split
  · exact .inl rfl
  · exact h

end Roster

namespace Registry

variable {E : Entity} {r r' : Registry E} {id : EntityId} {generation : Nat}

theorem mem_modifyWorker {f : Worker E → Worker E} {w' : Worker E}
    (member : w' ∈ (r.modifyWorker generation f).workers) :
    w' ∈ r.workers ∨ ∃ w, r.workers[generation]? = some w ∧ w' = f w := by
  obtain ⟨other, found⟩ := List.mem_iff_getElem?.mp member
  simp only [modifyWorker, List.getElem?_modify] at found
  obtain ⟨w, held, same⟩ := Option.map_eq_some_iff.mp found
  split at same
  · next equal =>
      subst equal
      exact .inr ⟨w, held, same.symm⟩
  · rw [← same]
    exact .inl (List.mem_of_getElem? held)

/-- What holds of every new worker, and outlasts what hosts do to it and its own steps,
holds of all workers. -/
theorem Becomes.forall_mem_workers {p : Worker E → Prop}
    (created : ∀ options capacity passivation w,
      Worker.create options capacity passivation = .ok w → p w)
    (hosted : ∀ w w', w.Hosts w' → p w → p w')
    (worked : ∀ now shared w stride, Worker.Strides now w shared stride → p w → p stride.worker)
    (h : r.Becomes r') (all : ∀ w ∈ r.workers, p w) : ∀ w ∈ r'.workers, p w := by
  have modified {r : Registry E} {generation : Nat} {f : Worker E → Worker E}
      (all : ∀ w ∈ r.workers, p w) (hosts : ∀ w, r.workers[generation]? = some w → w.Hosts (f w)) :
      ∀ w ∈ (r.modifyWorker generation f).workers, p w := by
    intro w' member
    rcases mem_modifyWorker member with old | ⟨w, found, rfl⟩
    · exact all w' old
    · exact hosted w (f w) (hosts w found) (all w (List.mem_of_getElem? found))
  cases h with
  | @entered id worker untaken createsWorker =>
      intro w member
      rcases List.mem_append.mp member with old | new
      · exact all w old
      · rw [List.mem_singleton.mp new]
        exact created _ _ _ _ createsWorker
  | handled => exact modified (r := r.reap.1) all fun _ _ => .cloned
  | hosted hosts => exact modified all hosts
  | @worked generation w stride found step =>
      intro w' member
      rcases List.mem_or_eq_of_mem_set member with old | rfl
      · exact all w' old
      · exact worked _ _ w _ (Worker.strides_of_step? step) (all w (List.mem_of_getElem? found))
  | _ => exact all

theorem Becomes.identity (h : r.Becomes r') (known : r.roster.identity? generation = some id) :
    r'.roster.identity? generation = some id := by
  have follows {roster : Roster} (follows : r.roster.Follows roster) :
      roster.identity? generation = some id := (follows.identity generation).trans known
  cases h with
  | reaped => exact follows (r.roster.follows_reap r.now)
  | cleared untaken => exact follows (r.roster.follows_consume r.now _)
  | @entered other worker untaken createsWorker =>
      have kept := follows (r.roster.follows_consume r.now other)
      have earlier := Roster.lt_of_identity? kept
      exact (Roster.identity?_enter ..).trans ((if_neg (Nat.ne_of_lt earlier)).trans kept)
  | handled => exact follows (r.roster.follows_reap r.now)
  | collected collected => exact follows (Roster.follows_collect? collected)
  | worked found step => exact follows (r.follows_stepped _ _)
  | recorded => exact follows (r.roster.follows_record r.now _)
  | published => exact follows (r.roster.follows_publish _)
  | _ => exact known

theorem identity_openChannel (channel : (r.openChannel id).result = .channel generation) :
    (r.openChannel id).registry.roster.identity? generation = some id := by
  have ways := r.opens id
  generalize r.openChannel id = opening at channel ways
  cases ways with
  | taken => cases channel
  | oversized => cases channel
  | opened =>
      cases channel
      exact (Roster.identity?_enter ..).trans (if_pos rfl)

/-- A post keeps waiting for its record until it gets it. -/
theorem Becomes.unrecorded (h : r.Becomes r') (unrecorded : r.roster.Unrecorded generation) :
    r'.roster.Unrecorded generation ∨
      (∃ report, r.roster.status? generation = some (.finished report)) ∧
        r' = r.record generation := by
  cases h with
  | entered untaken createsWorker => exact .inl (Roster.Unrecorded.enter unrecorded _)
  | collected collected =>
      refine .inl ?_
      rwa [Roster.Unrecorded, Roster.status?, Roster.posts_collect? collected]
  | worked found step =>
      refine .inl ?_
      unfold stepped
      dsimp only
      split
      · exact unrecorded.finish _ _
      · exact unrecorded
  | @recorded other =>
      by_cases same : other = generation
      · subst same
        rcases unrecorded with working | finished
        · exact .inl (.record_of_working working r.now other)
        · exact .inr ⟨finished, rfl⟩
      · exact .inl (unrecorded.record_of_ne r.now same)
  | published => exact .inl (unrecorded.publish _)
  | _ => exact .inl unrecorded

end Registry

namespace Crowd

variable {E : Entity} {c : Crowd E} {id : EntityId} {generation : Nat} {since : Instant}
  {w : Worker E}

inductive WorkerBecomes (c : Crowd E) (generation : Nat) (w : Worker E) :
    Happening → Worker E → Prop
  | kept {happening : Happening} : WorkerBecomes c generation w happening w
  | hosted {happening : Happening} {w' : Worker E} (hosts : w.Hosts w') :
      WorkerBecomes c generation w happening w'
  | worked {stride : Stride E}
      (strides : Worker.Strides c.registry.now w c.registry.shared stride) :
      WorkerBecomes c generation w (.work generation) stride.worker

def WorkerBecomesIn (c : Crowd E) (generation : Nat) (w : Worker E) (happening : Happening)
    (r : Registry E) : Prop :=
  ∃ w', r.workers[generation]? = some w' ∧ c.WorkerBecomes generation w happening w'

theorem workerBecomesIn_modifyWorker {happening : Happening} {r : Registry E}
    (held : r.workers[generation]? = some w) {other : Nat} {f : Worker E → Worker E}
    (hosts : ∀ w, r.workers[other]? = some w → w.Hosts (f w)) :
    c.WorkerBecomesIn generation w happening (r.modifyWorker other f) := by
  by_cases same : other = generation
  · subst same
    exact ⟨f w, by simp [Registry.modifyWorker, held], .hosted (hosts w held)⟩
  · exact ⟨w, by simp [Registry.modifyWorker, same, held], .kept⟩

theorem workerBecomesIn_openChannel (held : c.registry.workers[generation]? = some w)
    (happening : Happening) (other : EntityId) :
    c.WorkerBecomesIn generation w happening (c.registry.openChannel other).registry := by
  have ways := c.registry.opens other
  generalize c.registry.openChannel other = opening at ways
  cases ways with
  | taken => exact ⟨w, held, .kept⟩
  | oversized => exact ⟨w, held, .kept⟩
  | opened =>
      have earlier := (List.getElem?_eq_some_iff.mp held).1
      exact ⟨w, (List.getElem?_append_left earlier).trans held, .kept⟩

theorem workerBecomesIn_stepped (held : c.registry.workers[generation]? = some w) {other : Nat}
    {worker : Worker E} {stride : Stride E} (found : c.registry.workers[other]? = some worker)
    (step : worker.step? c.registry.now c.registry.shared = some stride) :
    c.WorkerBecomesIn generation w (.work other) (c.registry.stepped other stride) := by
  by_cases same : other = generation
  · subst same
    rw [found] at held
    cases held
    have within := (List.getElem?_eq_some_iff.mp found).1
    exact ⟨stride.worker, by simp [Registry.stepped, within],
      .worked (Worker.strides_of_step? step)⟩
  · exact ⟨w, by simp [Registry.stepped, same, held], .kept⟩

theorem workerBecomes_next (held : c.registry.workers[generation]? = some w)
    (happening : Happening) :
    c.WorkerBecomesIn generation w happening (c.next happening).registry := by
  have change := c.changes_next happening
  generalize (c.next happening).registry = r at change ⊢
  cases change with
  | opened => exact workerBecomesIn_openChannel held _ _
  | handled => exact workerBecomesIn_modifyWorker (r := c.registry.reap.1) held fun _ _ => .cloned
  | hosted other hosts => exact workerBecomesIn_modifyWorker held hosts
  | worked found step => exact workerBecomesIn_stepped held found step
  | _ => exact ⟨w, held, .kept⟩

/-- The channel is about to give an answer that deletes its entity. -/
def Deletes (c : Crowd E) (id : EntityId) (generation : Nat) : Prop :=
  c.registry.roster.identity? generation = some id ∧
    ∃ w reply, c.registry.workers[generation]? = some w ∧ w.stage = .delivering (.reply reply) ∧
      reply.deleteAfter = true

def Hears (c : Crowd E) (id : EntityId) (generation : Nat) (happening : Happening) : Prop :=
  happening = .work generation ∧
    ∃ w, c.registry.workers[generation]? = some w ∧ w.TakesUp id

/-- The channel hears nothing for its entity, and no channel is opened for the identity. -/
def Quiet (id : EntityId) (generation : Nat) : Crowd E → List Happening → Prop
  | _, [] => True
  | c, happening :: later =>
    (¬c.Hears id generation happening ∧ ¬c.Opens id happening) ∧
      Quiet id generation (c.next happening) later

/-- The entity of the worker is gone, and the roster knows of it or will. -/
structure RemembersDeletion (id : EntityId) (generation : Nat) (since : Instant) (c : Crowd E) :
    Prop where
  identity : c.registry.roster.identity? generation = some id
  gone : ∃ w, c.registry.workers[generation]? = some w ∧ w.Gone id
  past : since ≤ c.registry.now
  known : c.registry.roster.Unrecorded generation ∨ TombstonedSince id since c

theorem marksDeletions_run (c : Crowd E) (happenings : List Happening)
    (marks : ∀ w ∈ c.registry.workers, w.MarksDeletions) :
    ∀ w ∈ (c.run happenings).registry.workers, w.MarksDeletions := by
  induction happenings generalizing c with
  | nil => exact marks
  | cons happening later ih =>
      refine ih (c.next happening) ?_
      refine (c.becomes_next happening).forall_mem_workers ?_ ?_ ?_ marks
      · intro options capacity passivation w created
        exact Worker.marksDeletions_create created
      · intro w w' hosts
        exact hosts.marksDeletions
      · intro now shared w stride strides
        exact strides.marksDeletions

/-- An answer that deletes is given by a worker that is at its post. -/
theorem Deletes.remembersDeletion (deletes : c.Deletes id generation) (orderly : c.registry.Orderly)
    (attributed : c.registry.Attributed) (marks : ∀ w ∈ c.registry.workers, w.MarksDeletions) :
    RemembersDeletion id generation c.registry.now c := by
  obtain ⟨identity, w, reply, held, stage, deletion⟩ := deletes
  have knows := marks w (List.mem_of_getElem? held)
  unfold Worker.MarksDeletions at knows
  rw [stage] at knows
  obtain ⟨deleted, active⟩ := knows deletion
  have bound := (attributed.serves id generation w identity held).bound
  have unfinished : w.hasEnded = false := by rw [Worker.hasEnded, stage]
  exact {
    identity
    gone := ⟨w, held, .telling stage deleted bound (.inl active)⟩
    past := Nat.le_refl _
    known := .inl (.inl (orderly.employed generation w held unfinished)) }

theorem RemembersDeletion.gone_next (remembers : RemembersDeletion id generation since c)
    {happening : Happening}
    (unheard : ¬c.Hears id generation happening) :
    ∃ w, (c.next happening).registry.workers[generation]? = some w ∧ w.Gone id := by
  obtain ⟨w, held, gone⟩ := remembers.gone
  obtain ⟨w', held', becomes⟩ := workerBecomes_next held happening
  refine ⟨w', held', ?_⟩
  cases becomes with
  | kept => exact gone
  | hosted hosts => exact gone.hosts hosts
  | worked strides => exact gone.strides strides fun takes => unheard ⟨rfl, w, held, takes⟩

theorem RemembersDeletion.deletionUnrecorded (remembers : RemembersDeletion id generation since c)
    (attributed : c.registry.Attributed)
    {report : Option Report}
    (finished : c.registry.roster.status? generation = some (.finished report)) :
    c.registry.DeletionUnrecorded id generation := by
  obtain ⟨w, held, gone⟩ := remembers.gone
  obtain ⟨w', held', ended, told⟩ := attributed.finished generation report finished
  rw [held] at held'
  cases held'
  cases gone with
  | telling stage => simp [Worker.hasEnded, stage] at ended
  | waiting stage => simp [Worker.hasEnded, stage] at ended
  | @reported last stage deleted =>
      rw [Worker.report?_eq_some_iff.mpr stage] at told
      subst told
      exact ⟨remembers.identity, w, last, held, stage, deleted, finished⟩

theorem RemembersDeletion.next (remembers : RemembersDeletion id generation since c)
    (attributed : c.registry.Attributed)
    {happening : Happening} (unheard : ¬c.Hears id generation happening)
    (unopened : ¬c.Opens id happening) :
    RemembersDeletion id generation since (c.next happening) := by
  have step := c.becomes_next happening
  refine ⟨step.identity remembers.identity, remembers.gone_next unheard,
    Nat.le_trans remembers.past step.now_le, ?_⟩
  rcases remembers.known with unrecorded | marked
  · rcases step.unrecorded unrecorded with still | ⟨⟨report, finished⟩, recorded⟩
    · exact .inl still
    · have found : (c.next happening).registry.roster.tombstones.get? id.text =
          some c.registry.now := by
        rw [recorded]
        exact attributed.get?_record (remembers.deletionUnrecorded attributed finished)
      exact .inr ⟨Nat.le_trans remembers.past step.now_le, fun _ => ⟨_, remembers.past, found⟩⟩
  · obtain ⟨w, held, -⟩ := remembers.gone
    exact .inr (marked.next attributed (attributed.fits_of_worker held) unopened)

theorem RemembersDeletion.run (remembers : RemembersDeletion id generation since c)
    (orderly : c.registry.Orderly)
    (attributed : c.registry.Attributed) {happenings : List Happening}
    (quiet : Quiet id generation c happenings) :
    RemembersDeletion id generation since (c.run happenings) := by
  induction happenings generalizing c with
  | nil => exact remembers
  | cons happening later ih =>
      obtain ⟨⟨unheard, unopened⟩, quiet⟩ := quiet
      have step := c.becomes_next happening
      exact ih (remembers.next attributed unheard unopened) (step.orderly orderly)
        (step.attributed orderly attributed) quiet

/-- While the tombstone can stand, the next channel is one for a deleted entity. -/
theorem RemembersDeletion.ignores (remembers : RemembersDeletion id generation since c)
    (orderly : c.registry.Orderly)
    (stands : c.registry.now - since < c.registry.roster.retention.total) {fresh : Nat}
    (channel : (c.registry.openChannel id).result = .channel fresh) :
    ∃ w, (c.next (.openChannel id)).registry.workers[fresh]? = some w ∧
      w.session.options.ignoreInitSnapshot = true := by
  have marked : TombstonedSince id since c := by
    refine remembers.known.resolve_left fun unrecorded => ?_
    have reserved := orderly.sound.not_free remembers.identity unrecorded.unpublished
    rw [(orderly.openChannel_reserved reserved).1] at channel
    cases channel
  obtain ⟨later, after, found⟩ := marked.found stands
  have tombstoned : (c.registry.isTombstoned id).result = true :=
    Registry.isTombstoned_iff.mpr
      ⟨later, found, Nat.lt_of_le_of_lt (Nat.sub_le_sub_left after _) stands⟩
  obtain ⟨w, held, -, told⟩ := orderly.openChannel_channel channel
  exact ⟨w, held, told.mpr tombstoned⟩

theorem WorkerBecomes.options {happening : Happening} {w' : Worker E}
    (becomes : c.WorkerBecomes generation w happening w') :
    w'.session.options = w.session.options := by
  cases becomes with
  | kept => rfl
  | hosted hosts => exact congrArg Session.options hosts.session
  | worked strides => exact strides.options

theorem options_run (held : c.registry.workers[generation]? = some w)
    (happenings : List Happening) :
    ∃ w', (c.run happenings).registry.workers[generation]? = some w' ∧
      w'.session.options = w.session.options := by
  induction happenings generalizing c w with
  | nil => exact ⟨w, held, rfl⟩
  | cons happening later ih =>
      obtain ⟨next, found, becomes⟩ := workerBecomes_next held happening
      obtain ⟨last, found', same⟩ := ih found
      exact ⟨last, found', same.trans becomes.options⟩

theorem identity_run (known : c.registry.roster.identity? generation = some id)
    (happenings : List Happening) :
    (c.run happenings).registry.roster.identity? generation = some id := by
  induction happenings generalizing c with
  | nil => exact known
  | cons happening later ih => exact ih ((c.becomes_next happening).identity known)

def opening? (c : Crowd E) (generation : Nat) : Option Init := do
  let w ← c.registry.workers[generation]?
  match w.stage, w.session.phase, w.inbound.items with
  | .waiting _, .awaitingInit, .init init :: _ => some init
  | _, _, _ => none

theorem opening?_eq_some_iff {init : Init} : c.opening? generation = some init ↔
    ∃ w since rest, c.registry.workers[generation]? = some w ∧ w.stage = .waiting since ∧
      w.session.phase = .awaitingInit ∧ w.inbound.items = .init init :: rest := by
  unfold opening?
  constructor
  · intro opening
    obtain ⟨w, held, opening⟩ := Option.bind_eq_some_iff.mp opening
    split at opening
    · next since init' rest stage waiting items =>
        cases opening
        exact ⟨w, since, rest, held, stage, waiting, items⟩
    · cases opening
  · rintro ⟨w, since, rest, held, stage, waiting, items⟩
    simp [held, stage, waiting, items]

def standing? (c : Crowd E) (generation : Nat) : Option (E.State × SequenceNumber) := do
  let w ← c.registry.workers[generation]?
  let life ← w.session.incarnation
  return (life.state, life.position.current)

theorem standing?_of_opening {blank : E.State} (empty : E.emptyState = .ok blank) {init : Init}
    (opening : c.opening? generation = some init) (named : init.entityId = id)
    (bound : ∀ w, c.registry.workers[generation]? = some w → w.session.Bound id)
    (ignoring : ∀ w, c.registry.workers[generation]? = some w →
      w.session.options.ignoreInitSnapshot = true) :
    (c.next (.work generation)).standing? generation = some (blank, 0) := by
  obtain ⟨w, since, rest, held, stage, waiting, items⟩ := opening?_eq_some_iff.mp opening
  have within := (List.getElem?_eq_some_iff.mp held).1
  have step : w.step? c.registry.now c.registry.shared = some _ :=
    Worker.step?_of_waiting stage items
  have begun := Worker.begin_of_ignoring empty waiting (bound w held) (ignoring w held) named
    c.registry.shared
  generalize stride : Worker.absorb .. = result at step
  have session : result.worker.session = w.session.opened id (.fresh blank) := by
    rw [← stride, Worker.session_absorb, begun]
  have stepped : (c.next (.work generation)).registry.workers[generation]? =
      some result.worker := by
    change (c.registry.work generation).workers[generation]? = _
    rw [Registry.work_of_step? held step]
    simp [Registry.stepped, within]
  simp only [standing?, stepped, Option.bind_eq_bind, Option.bind_some, session]
  rfl

/-- A channel answers that its entity is deleted. As long as it then hears nothing more for
its entity and no channel is opened for the identity, whatever else happens, a channel that
is opened while the tombstone stands starts empty, whatever snapshot its `Init` brings. -/
theorem run_remembered {blank : E.State} (empty : E.emptyState = .ok blank) (settings : Settings)
    (tracer : Tracer) (supply : Nat → Uuid) (before after later : List Happening)
    {id : EntityId} {generation fresh : Nat} {init : Init} :
    let c := (start settings tracer supply : Crowd E).run before
    let d := c.run after
    let e := (d.next (.openChannel id)).run later
    c.Deletes id generation → Quiet id generation c after →
    d.registry.now - c.registry.now < settings.retention.total →
    (d.registry.openChannel id).result = .channel fresh →
    e.opening? fresh = some init → init.entityId = id →
      (e.next (.work fresh)).standing? fresh = some (blank, 0) := by
  intro c d e deletes quiet stands channel opening named
  have began := Registry.orderly_create (E := E) settings tracer supply
  have orderly : c.registry.Orderly := orderly_run began before
  have attributed : c.registry.Attributed :=
    attributed_run began (Registry.attributed_create settings tracer supply) before
  have marks : ∀ w ∈ c.registry.workers, w.MarksDeletions :=
    marksDeletions_run (start settings tracer supply) before fun w member => (nomatch member)
  have remembers :=
    (deletes.remembersDeletion orderly attributed marks).run orderly attributed quiet
  have orderly_then := orderly_run orderly after
  have attributed_then := attributed_run orderly attributed after
  have retention : d.registry.roster.retention = settings.retention :=
    (c.retention_run after).trans (retention_run _ before)
  rw [← retention] at stands
  obtain ⟨w, held, ignoring⟩ := remembers.ignores orderly_then stands channel
  obtain ⟨last, held_then, same⟩ := options_run held later
  refine standing?_of_opening empty opening named (fun w held => ?_) (fun w held => ?_)
  · have identity : e.registry.roster.identity? fresh = some id :=
      identity_run (Registry.identity_openChannel channel) later
    have step := d.becomes_next (.openChannel id)
    have attributed := step.attributed orderly_then attributed_then
    have attributed : e.registry.Attributed :=
      attributed_run (step.orderly orderly_then) attributed later
    exact (attributed.serves id fresh w identity held).bound
  · rw [held_then] at held
    cases held
    rw [same]
    exact ignoring

end Crowd

namespace Samples.Counter

instance : DecidableEq entity.State := inferInstanceAs (DecidableEq Counter)

/-- A counter is brought to five and deleted, up to the moment before the last answer. -/
def deletion : List Happening :=
  [.openChannel ⟨"c"⟩, .send 0 (.init ⟨⟨"c"⟩, none⟩),
    .send 0 (.command (.plain 1 "c" "increaseBy" (payload 5))),
    .send 0 (.command (.plain 2 "c" "delete" none))] ++ List.replicate 9 (.work 0)

def close (generation : Nat) : List Happening :=
  [.work generation, .dropHandle generation, .work generation, .record generation,
    .publish generation]

def questions : List Inbound :=
  [.command (.plain 3 "c" "get" none), .snapshotRequest ⟨3⟩,
    .command (.plain 3 "c" "increaseBy" (payload (-1))), .command (.plain 3 "c" "explode" none)]

def asking (question : Inbound) : List Happening :=
  [.work 0, .send 0 question] ++ List.replicate 3 (.work 0)

/-- The `Init` of a host that still has the counter at five. -/
def staleInit : Init := ⟨⟨"c"⟩, some ⟨1, toJson ⟨5⟩⟩⟩

def reopening (generation : Nat) : List Happening :=
  [.send generation (.init staleInit), .work generation]

end Samples.Counter

namespace Crowd

open Samples.Counter in
theorem run_remembered_deletion :
    let c := (start .default .silent Uuid.ofNat : Crowd entity).run deletion
    let d := c.run (close 0)
    let e := (d.next (.openChannel ⟨"c"⟩)).run (reopening 1)
    c.Deletes ⟨"c"⟩ 0 ∧ Quiet ⟨"c"⟩ 0 c (close 0) ∧
      d.registry.now - c.registry.now < Settings.default.retention.total ∧
      (d.registry.openChannel ⟨"c"⟩).result = .channel 1 ∧ e.opening? 1 = some staleInit ∧
      (e.next (.work 1)).standing? 1 = some (⟨0⟩, 0) := by
  intro c d e
  have deletes : c.Deletes ⟨"c"⟩ 0 := ⟨rfl, _, _, rfl, rfl, rfl⟩
  have quiet : Quiet ⟨"c"⟩ 0 c (close 0) := by
    have delivering : ¬c.Hears ⟨"c"⟩ 0 (.work 0) := by
      rintro ⟨-, w, held, since, message, rest, stage, -⟩
      cases held
      cases stage
    have drained : ¬((c.next (.work 0)).next (.dropHandle 0)).Hears ⟨"c"⟩ 0 (.work 0) := by
      rintro ⟨-, w, held, since, message, rest, -, items, -⟩
      cases held
      cases items
    exact ⟨⟨delivering, (nomatch ·.1)⟩, ⟨(nomatch ·.1), (nomatch ·.1)⟩,
      ⟨drained, (nomatch ·.1)⟩, ⟨(nomatch ·.1), (nomatch ·.1)⟩,
      ⟨(nomatch ·.1), (nomatch ·.1)⟩, trivial⟩
  have stands : d.registry.now - c.registry.now < Settings.default.retention.total := by decide
  have channel : (d.registry.openChannel ⟨"c"⟩).result = .channel 1 := rfl
  have opening : e.opening? 1 = some staleInit := by decide +kernel
  exact ⟨deletes, quiet, stands, channel, opening, @run_remembered entity ⟨0⟩ rfl .default .silent
    Uuid.ofNat deletion (close 0) (reopening 1) _ _ _ _ deletes quiet stands channel opening rfl⟩

def answers {E : Entity} (c : Crowd E) (generation : Nat) : List Outbound :=
  (c.registry.workers[generation]?.map fun w => w.outbound.items).getD []

open Samples.Counter in
/-- An old snapshot comes back to life, once because the deleted counter was asked something,
and once because a channel was opened and closed before. In neither case has an answer since
the deletion changed anything. -/
theorem run_resurrects :
    let c := (start .default .silent Uuid.ofNat : Crowd entity).run deletion
    let asked (question : Inbound) := c.run (asking question ++ close 0)
    let reopened := c.run (close 0 ++ .openChannel ⟨"c"⟩ :: close 1)
    let revived (d : Crowd entity) (generation : Nat) :=
      ((d.next (.openChannel ⟨"c"⟩)).run (reopening generation)).next (.work generation)
    c.Deletes ⟨"c"⟩ 0 ∧ entity.emptyState = .ok ⟨0⟩ ∧
      (∀ question ∈ questions,
        ((asked question).answers 0).length = 3 ∧
        (∀ answer ∈ ((asked question).answers 0).drop 2,
          answer.eventPayloads = [] ∧ answer.stateUpdate? = none) ∧
        (asked question).registry.now - c.registry.now < Settings.default.retention.total ∧
        ((asked question).registry.openChannel ⟨"c"⟩).result = .channel 1 ∧
        (revived (asked question) 1).standing? 1 = some (⟨5⟩, 1)) ∧
      (reopened.answers 0).drop 2 = [] ∧ reopened.answers 1 = [] ∧
        reopened.registry.now - c.registry.now < Settings.default.retention.total ∧
        (reopened.registry.openChannel ⟨"c"⟩).result = .channel 2 ∧
        (revived reopened 2).standing? 2 = some (⟨5⟩, 1) := by
  intro c asked reopened revived
  have deletes : c.Deletes ⟨"c"⟩ 0 := ⟨rfl, _, _, rfl, rfl, rfl⟩
  refine ⟨deletes, rfl, ?_, ?_, ?_, ?_, ?_, ?_⟩ <;> decide +kernel

end Crowd

end EntityEngine
