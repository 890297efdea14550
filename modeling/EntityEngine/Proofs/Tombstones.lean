import Mathlib.Data.List.Induction
import EntityEngine.Proofs.Attribution
import EntityEngine.Proofs.Exclusion

/-!
# Tombstones

The registry remembers a deletion by a tombstone. It is set when the end of the worker
is recorded, stands for a fixed time, and is used up by the next channel that is opened
for the identity. The main statement says that an identity has a tombstone exactly when
the history of the registry says so, whenever expired tombstones are dropped in fact, and
that a new channel is told to ignore an old snapshot exactly in that case. Until the end
of a worker is published no channel is opened for its identity, so no opening can come
between the end and the tombstone.
-/

namespace EntityEngine

namespace Roster

variable {r : Roster} {id : EntityId} {now : Instant}

/-- Neither the tombstones nor how long they stand have changed. -/
structure Untouched (r r' : Roster) : Prop where
  tombstones : r'.tombstones = r.tombstones
  retention : r'.retention = r.retention

theorem untouched_finish (r : Roster) (generation : Nat) (report : Option Report) :
    r.Untouched (r.finish generation report) := by
  unfold finish
  split <;> exact ⟨rfl, rfl⟩

theorem untouched_publish (r : Roster) (generation : Nat) :
    r.Untouched (r.publish generation) := by
  unfold publish
  split <;> exact ⟨rfl, rfl⟩

theorem untouched_collect? {r' : Roster} {generation : Nat} {report : Option Report}
    (h : r.collect? id generation = some (report, r')) : r.Untouched r' := by
  unfold collect? at h
  split at h
  · cases h
    split <;> exact ⟨rfl, rfl⟩
  · cases h

theorem retention_record (r : Roster) (now : Instant) (generation : Nat) :
    (r.record now generation).1.retention = r.retention := by
  unfold record
  split
  · dsimp only
    split <;> rfl
  · rfl

theorem get?_reap (r : Roster) (now : Instant) (key : String) :
    (r.reap now).1.tombstones.get? key =
      (r.tombstones.get? key).filter fun since => r.stands now since :=
  Dictionary.get?_filter _ _ _

theorem get?_consume (r : Roster) (id other : EntityId) :
    (r.consume id).1.tombstones.get? other.text =
      if other = id then none else r.tombstones.get? other.text := by
  simp only [consume, Dictionary.get?_erase, text_eq_iff]

/-- A worker that is not published reserves its identity. -/
theorem Sound.not_free {generation : Nat} (sound : r.Sound)
    (identity : r.identity? generation = some id) (unpublished : r.isPublished generation = false) :
    ¬r.Free id := by
  have latest := sound.latest id generation (sound.reserved id generation identity unpublished)
  rintro (unopened | ⟨other, latest', published⟩)
  · exact unopened generation identity
  · rw [← latest.unique latest', unpublished] at published
    cases published

theorem stands_iff {since : Instant} :
    r.stands now since = true ↔ now - since < r.retention.total := by
  simp [stands]

theorem deletedBy_eq_some_iff {last : Option Report} : deletedBy last = some id ↔
    ∃ report, last = some report ∧ report.deleted = true ∧ report.entityId = some id := by
  cases last with
  | none => simp [deletedBy]
  | some report => cases deleted : report.deleted <;> simp [deletedBy, deleted]

theorem tombstones_record (now : Instant) {generation : Nat} {post : Post} {last : Option Report}
    (found : r.posts[generation]? = some post) (ended : post.status = .finished last) :
    (r.record now generation).1.tombstones =
      match deletedBy last with
      | some id => r.tombstones.insert id.text now
      | none => r.tombstones := by
  obtain ⟨id, status⟩ := post
  cases ended
  simp only [record, found]
  cases deletedBy last <;> rfl

end Roster

namespace Registry

variable {E : Entity} {r r' : Registry E} {id : EntityId} {generation : Nat}

theorem Becomes.retention (h : r.Becomes r') : r'.roster.retention = r.roster.retention := by
  cases h with
  | collected collected => exact (Roster.untouched_collect? collected).retention
  | worked found step =>
      unfold stepped
      dsimp only
      split
      · exact (Roster.untouched_finish _ _ _).retention
      · rfl
  | recorded => exact Roster.retention_record _ _ _
  | published => exact (Roster.untouched_publish _ _).retention
  | _ => rfl

theorem Becomes.now_le (h : r.Becomes r') : r.now ≤ r'.now := by
  cases h with
  | passed => exact Nat.le_add_right _ _
  | _ => exact Nat.le_refl _

/-- The worker that is opened begins afresh, and is told whether there was a tombstone. -/
theorem Orderly.openChannel_channel (orderly : r.Orderly)
    (channel : (r.openChannel id).result = .channel generation) :
    ∃ w, (r.openChannel id).registry.workers[generation]? = some w ∧
      w.session = .fresh w.session.options ∧
      (w.session.options.ignoreInitSnapshot = true ↔ (r.isTombstoned id).result = true) := by
  generalize account : r.openChannel id = opening at channel
  have ways := r.opens id
  rw [account] at ways
  cases ways with
  | taken => cases channel
  | oversized => cases channel
  | @opened notices worker untaken createsWorker =>
      cases channel
      have found : ((r.cleared id).addWorker id worker).workers[r.roster.nextGeneration]? =
          some worker := by
        rw [Roster.nextGeneration, ← orderly.paired]
        exact List.getElem?_concat_length
      refine ⟨worker, found, ?_⟩
      unfold CreatesWorker Worker.create at createsWorker
      split at createsWorker <;> cases createsWorker
      exact ⟨rfl, Iff.rfl⟩

/-- A worker of the identity has left it deleted, and its end is still to be recorded. -/
structure DeletionUnrecorded (r : Registry E) (id : EntityId) (generation : Nat) : Prop where
  identity : r.roster.identity? generation = some id
  deleted : ∃ w report, r.workers[generation]? = some w ∧ w.stage = .stopped report ∧
    report.deleted = true ∧ r.roster.status? generation = some (.finished (some report))

/-- Only a worker of the identity itself brings it a tombstone. -/
theorem Attributed.deletionUnrecorded (attributed : r.Attributed) {named buried : EntityId}
    {last : Option Report} (found : r.roster.posts[generation]? = some ⟨named, .finished last⟩)
    (deleted : Roster.deletedBy last = some buried) :
    buried = named ∧ r.DeletionUnrecorded named generation := by
  obtain ⟨report, rfl, gone, whose⟩ := Roster.deletedBy_eq_some_iff.mp deleted
  have identity : r.roster.identity? generation = some named := congrArg (Option.map _) found
  have status : r.roster.status? generation = some (.finished (some report)) :=
    congrArg (Option.map _) found
  obtain ⟨w, held, -, told⟩ := attributed.finished generation (some report) status
  have stage := Worker.report?_eq_some_iff.mp told
  have named' := (attributed.serves named generation w identity held).reported report stage
  refine ⟨?_, identity, w, report, held, stage, gone, status⟩
  exact Option.some.inj (whose.symm.trans named')

theorem Attributed.get?_record (attributed : r.Attributed)
    (deletionUnrecorded : r.DeletionUnrecorded id generation) :
    (r.record generation).roster.tombstones.get? id.text = some r.now := by
  obtain ⟨identity, w, report, held, stage, gone, status⟩ := deletionUnrecorded
  have whose := (attributed.serves id generation w identity held).reported report stage
  have deleted : Roster.deletedBy (some report) = some id :=
    Roster.deletedBy_eq_some_iff.mpr ⟨report, rfl, gone, whose⟩
  obtain ⟨post, found, ended⟩ := Option.map_eq_some_iff.mp status
  rw [Registry.record, Roster.tombstones_record r.now found ended, deleted]
  exact (Dictionary.get?_insert ..).trans (if_pos rfl)

theorem isTombstoned_iff : (r.isTombstoned id).result = true ↔
    ∃ since, r.roster.tombstones.get? id.text = some since ∧
      r.now - since < r.roster.retention.total := by
  change ((r.roster.reap r.now).1.tombstones.get? id.text).isSome = true ↔ _
  rw [Roster.get?_reap, Option.isSome_iff_exists]
  simp only [Option.filter_eq_some_iff, Roster.stands_iff]

end Registry

namespace Crowd

variable {E : Entity} {c : Crowd E} {id : EntityId} {generation : Nat}

/-- A channel is opened for the identity. -/
def Opens (c : Crowd E) (id : EntityId) (happening : Happening) : Prop :=
  happening = .openChannel id ∧
    ∃ generation, (c.registry.openChannel id).result = .channel generation

/-- No channel is opened for the identity. -/
def Unopened (id : EntityId) : Crowd E → List Happening → Prop
  | _, [] => True
  | c, happening :: later => ¬c.Opens id happening ∧ Unopened id (c.next happening) later

/-- What can become of the tombstone of an identity. -/
inductive TombstoneBecomes (c : Crowd E) (id : EntityId) : Happening → Option Instant → Prop
  | kept {happening : Happening} (unopened : ¬c.Opens id happening) :
      TombstoneBecomes c id happening (c.registry.roster.tombstones.get? id.text)
  | lapsed {happening : Happening} {since : Instant}
      (found : c.registry.roster.tombstones.get? id.text = some since)
      (expired : ¬c.registry.now - since < c.registry.roster.retention.total) :
      TombstoneBecomes c id happening none
  | opened {happening : Happening} (opened : c.Opens id happening) :
      TombstoneBecomes c id happening none
  | voided {happening : Happening} {crash : Crash}
      (crashed : Worker.capacityCrash? c.registry.capacity = some crash) :
      TombstoneBecomes c id happening none
  | marked {generation : Nat} (deletionUnrecorded : c.registry.DeletionUnrecorded id generation) :
      TombstoneBecomes c id (.record generation) (some c.registry.now)

theorem tombstoneBecomes_reap {happening : Happening} (unopened : ¬c.Opens id happening) :
    c.TombstoneBecomes id happening (c.registry.reap.1.roster.tombstones.get? id.text) := by
  have reaped : c.registry.reap.1.roster.tombstones.get? id.text = _ :=
    c.registry.roster.get?_reap c.registry.now id.text
  rw [reaped]
  cases found : c.registry.roster.tombstones.get? id.text with
  | none =>
      rw [Option.filter_none, ← found]
      exact .kept unopened
  | some since =>
      cases stands : c.registry.roster.stands c.registry.now since with
      | true =>
          rw [Option.filter_some, if_pos stands, ← found]
          exact .kept unopened
      | false =>
          rw [Option.filter_some, if_neg (by simp [stands])]
          refine .lapsed found ?_
          rw [← Roster.stands_iff, stands]
          exact Bool.false_ne_true

theorem tombstoneBecomes_of_same {happening : Happening} {r : Registry E}
    (unopened : ¬c.Opens id happening)
    (same : r.roster.tombstones = c.registry.roster.tombstones) :
    c.TombstoneBecomes id happening (r.roster.tombstones.get? id.text) := by
  rw [same]
  exact .kept unopened

/-- Opening a channel uses up the tombstone of its identity and of no other. -/
theorem tombstoneBecomes_openChannel (c : Crowd E) (id other : EntityId) :
    c.TombstoneBecomes id (.openChannel other)
      ((c.registry.openChannel other).registry.roster.tombstones.get? id.text) := by
  have cleared : (c.registry.cleared other).roster.tombstones.get? id.text =
      if id = other then none else c.registry.reap.1.roster.tombstones.get? id.text :=
    Roster.get?_consume _ other id
  have unopened (distinct : id ≠ other) : ¬c.Opens id (.openChannel other) := by
    rintro ⟨same, -⟩
    cases same
    exact distinct rfl
  generalize account : c.registry.openChannel other = opening
  have ways := c.registry.opens other
  rw [account] at ways
  cases ways with
  | taken taken =>
      refine tombstoneBecomes_reap ?_
      rintro ⟨same, generation, channel⟩
      cases same
      rw [account] at channel
      cases channel
  | oversized untaken crashed =>
      rw [cleared]
      split
      · exact .voided crashed
      next distinct => exact tombstoneBecomes_reap (unopened distinct)
  | opened untaken createsWorker =>
      change c.TombstoneBecomes id _ ((c.registry.cleared other).roster.tombstones.get? id.text)
      rw [cleared]
      split
      next same =>
        subst same
        exact .opened ⟨rfl, _, congrArg Account.result account⟩
      next distinct => exact tombstoneBecomes_reap (unopened distinct)

/-- Recording the end of a worker sets the tombstone of its identity, if it left that
deleted, and of no other. -/
theorem tombstoneBecomes_record (attributed : c.registry.Attributed) (id : EntityId)
    (generation : Nat) :
    c.TombstoneBecomes id (.record generation)
      ((c.registry.record generation).roster.tombstones.get? id.text) := by
  have unopened : ¬c.Opens id (.record generation) := fun opens => by cases opens.1
  simp only [Registry.record]
  cases found : c.registry.roster.posts[generation]? with
  | none => simpa only [Roster.record, found] using .kept unopened
  | some post =>
      obtain ⟨named, status⟩ := post
      cases status with
      | finished last =>
          rw [Roster.tombstones_record c.registry.now found rfl]
          cases deleted : Roster.deletedBy last with
          | none => exact .kept unopened
          | some buried =>
              obtain ⟨rfl, deletionUnrecorded⟩ := attributed.deletionUnrecorded found deleted
              simp only [Dictionary.get?_insert, Roster.text_eq_iff]
              split
              next same =>
                subst same
                exact .marked deletionUnrecorded
              · exact .kept unopened
      | _ => simpa only [Roster.record, found] using .kept unopened

theorem tombstoneBecomes_next (attributed : c.registry.Attributed) (id : EntityId)
    (happening : Happening) :
    c.TombstoneBecomes id happening
      ((c.next happening).registry.roster.tombstones.get? id.text) := by
  have unopened {happening : Happening} (other : ∀ id, happening ≠ .openChannel id) :
      ¬c.Opens id happening := fun opens => other id opens.1
  have change := c.changes_next happening
  generalize (c.next happening).registry = r at change ⊢
  cases change with
  | idle other => exact .kept (unopened other)
  | reaped other => exact tombstoneBecomes_reap (unopened other)
  | @opened other => exact c.tombstoneBecomes_openChannel id other
  | handled => exact tombstoneBecomes_reap (unopened (by simp))
  | hosted other hosts => exact .kept (unopened other)
  | collected collected =>
      exact tombstoneBecomes_of_same (unopened (by simp))
        (Roster.untouched_collect? collected).tombstones
  | @worked generation w stride found step =>
      refine tombstoneBecomes_of_same (unopened (by simp)) ?_
      simp only [Registry.stepped]
      split
      · exact (Roster.untouched_finish _ _ _).tombstones
      · rfl
  | @recorded generation => exact tombstoneBecomes_record attributed id generation
  | published =>
      exact tombstoneBecomes_of_same (unopened (by simp)) (Roster.untouched_publish _ _).tombstones
  | passed => exact .kept (unopened (by simp))

theorem unopened_append (id : EntityId) (c : Crowd E) (earlier later : List Happening) :
    Unopened id c (earlier ++ later) ↔
      Unopened id c earlier ∧ Unopened id (c.run earlier) later := by
  induction earlier generalizing c with
  | nil => simp [Unopened, run]
  | cons happening rest ih => simp only [List.cons_append, Unopened, ih, and_assoc]; rfl

theorem run_append (c : Crowd E) (earlier later : List Happening) :
    c.run (earlier ++ later) = (c.run earlier).run later :=
  List.foldl_append

/-- The identity has been given a tombstone at this moment or later, if it still stands. -/
structure TombstonedSince (id : EntityId) (since : Instant) (c : Crowd E) : Prop where
  past : since ≤ c.registry.now
  found : c.registry.now - since < c.registry.roster.retention.total →
    ∃ later, since ≤ later ∧ c.registry.roster.tombstones.get? id.text = some later

theorem TombstonedSince.next {since : Instant} (marked : TombstonedSince id since c)
    (attributed : c.registry.Attributed) (fits : Worker.capacityCrash? c.registry.capacity = none)
    {happening : Happening} (unopened : ¬c.Opens id happening) :
    TombstonedSince id since (c.next happening) := by
  have step := c.becomes_next happening
  refine ⟨Nat.le_trans marked.past step.now_le, fun stands => ?_⟩
  rw [step.retention] at stands
  have stood : c.registry.now - since < c.registry.roster.retention.total :=
    Nat.lt_of_le_of_lt (Nat.sub_le_sub_right step.now_le since) stands
  obtain ⟨later, after, found⟩ := marked.found stood
  have fate := tombstoneBecomes_next attributed id happening
  generalize (c.next happening).registry.roster.tombstones.get? id.text = entry at fate
  cases fate with
  | kept => exact ⟨later, after, found⟩
  | lapsed found' expired =>
      rw [found] at found'
      cases found'
      exact (expired (Nat.lt_of_le_of_lt (Nat.sub_le_sub_left after _) stood)).elim
  | opened opened => exact (unopened opened).elim
  | voided crashed =>
      rw [fits] at crashed
      cases crashed
  | marked => exact ⟨_, marked.past, rfl⟩

theorem TombstonedSince.run {since : Instant} (marked : TombstonedSince id since c)
    (orderly : c.registry.Orderly) (attributed : c.registry.Attributed)
    (fits : Worker.capacityCrash? c.registry.capacity = none) {happenings : List Happening}
    (unopened : Unopened id c happenings) : TombstonedSince id since (c.run happenings) := by
  induction happenings generalizing c with
  | nil => exact marked
  | cons happening later ih =>
      have step := c.becomes_next happening
      refine ih (marked.next attributed fits unopened.1) (step.orderly orderly)
        (step.attributed orderly attributed) ?_ unopened.2
      rw [Registry.capacity, step.settings]
      exact fits

/-- Every tombstone goes back to the record of a deletion, and no channel was opened since. -/
theorem exists_record (began : c.registry.roster.tombstones = .empty)
    (orderly : c.registry.Orderly) (attributed : c.registry.Attributed)
    {happenings : List Happening} {since : Instant}
    (found : (c.run happenings).registry.roster.tombstones.get? id.text = some since) :
    ∃ before generation after, happenings = before ++ .record generation :: after ∧
      (c.run before).registry.DeletionUnrecorded id generation ∧
        (c.run before).registry.now = since ∧
      Unopened id ((c.run before).next (.record generation)) after := by
  induction happenings using List.reverseRecOn with
  | nil =>
      rw [run, List.foldl_nil, began] at found
      cases found
  | append_singleton before happening ih =>
      have attributed' := attributed_run orderly attributed before
      have fate := tombstoneBecomes_next attributed' id happening
      rw [run_append] at found
      change ((c.run before).next happening).registry.roster.tombstones.get? id.text = _ at found
      rw [found] at fate
      generalize entry : some since = value at fate
      cases fate with
      | kept unopened =>
          obtain ⟨first, generation, after, rfl, deletionUnrecorded, moment, since_then⟩ :=
            ih entry.symm
          refine ⟨first, generation, after ++ [happening], by simp, deletionUnrecorded, moment, ?_⟩
          refine (unopened_append ..).mpr ⟨since_then, ?_, trivial⟩
          rwa [run_append] at unopened
      | lapsed => cases entry
      | opened => cases entry
      | voided => cases entry
      | marked deletionUnrecorded =>
          cases entry
          exact ⟨before, _, [], rfl, deletionUnrecorded, rfl, trivial⟩

theorem retention_run (c : Crowd E) (happenings : List Happening) :
    (c.run happenings).registry.roster.retention = c.registry.roster.retention := by
  induction happenings generalizing c with
  | nil => rfl
  | cons happening later ih =>
      exact (ih (c.next happening)).trans (c.becomes_next happening).retention

/-- A recorded deletion leaves a tombstone until a channel is opened. -/
theorem tombstonedSince_of_record (orderly : c.registry.Orderly)
    (attributed : c.registry.Attributed)
    (deletionUnrecorded : c.registry.DeletionUnrecorded id generation) {after : List Happening}
    (unopened : Unopened id (c.next (.record generation)) after) :
    TombstonedSince id c.registry.now ((c.next (.record generation)).run after) := by
  have step := c.becomes_next (.record generation)
  obtain ⟨w, report, held, -⟩ := deletionUnrecorded.deleted
  have fits := attributed.fits_of_worker held
  have marked : TombstonedSince id c.registry.now (c.next (.record generation)) :=
    ⟨step.now_le, fun _ => ⟨_, Nat.le_refl _, attributed.get?_record deletionUnrecorded⟩⟩
  exact marked.run (step.orderly orderly) (step.attributed orderly attributed) fits unopened

/-- Whether an identity has a tombstone can be read off the history: a deletion was recorded
within the retention time, and no channel was opened for the identity since. A channel that
is opened is told just that, and none is opened before the last worker is published. -/
theorem run_tombstoned (settings : Settings) (tracer : Tracer) (supply : Nat → Uuid)
    (happenings : List Happening) :
    let began : Crowd E := start settings tracer supply
    let r := (began.run happenings).registry
    (∀ id, (r.isTombstoned id).result = true ↔
      ∃ before generation after, happenings = before ++ .record generation :: after ∧
        (began.run before).registry.DeletionUnrecorded id generation ∧
        r.now - (began.run before).registry.now < settings.retention.total ∧
        Unopened id ((began.run before).next (.record generation)) after) ∧
    (∀ id generation, (r.openChannel id).result = .channel generation →
      ∃ w, (r.openChannel id).registry.workers[generation]? = some w ∧
        w.session = .fresh w.session.options ∧
        (w.session.options.ignoreInitSnapshot = true ↔ (r.isTombstoned id).result = true)) ∧
    ∀ id generation, r.roster.identity? generation = some id →
      r.roster.isPublished generation = false →
      (r.openChannel id).result = .refused (.alreadyOpen id) ∧
        (r.openChannel id).registry = r.reap.1 := by
  intro began r
  have orderly : began.registry.Orderly := Registry.orderly_create settings tracer supply
  have attributed : began.registry.Attributed :=
    Registry.attributed_create settings tracer supply
  have orderly_now : r.Orderly := orderly_run orderly happenings
  have retention : r.roster.retention = settings.retention := began.retention_run happenings
  refine ⟨fun id => ?_, fun id generation => orderly_now.openChannel_channel, ?_⟩
  · rw [Registry.isTombstoned_iff, retention]
    constructor
    · rintro ⟨since, found, stands⟩
      obtain ⟨before, generation, after, split, deletionUnrecorded, moment, unopened⟩ :=
        exists_record rfl orderly attributed found
      rw [← moment] at stands
      exact ⟨before, generation, after, split, deletionUnrecorded, stands, unopened⟩
    · rintro ⟨before, generation, after, rfl, deletionUnrecorded, stands, unopened⟩
      have marked := tombstonedSince_of_record (orderly_run orderly before)
        (attributed_run orderly attributed before) deletionUnrecorded unopened
      have here : ((began.run before).next (.record generation)).run after =
          began.run (before ++ .record generation :: after) :=
        (began.run_append before (.record generation :: after)).symm
      rw [here] at marked
      obtain ⟨later, after_then, found⟩ := marked.found (retention ▸ stands)
      exact ⟨later, found, Nat.lt_of_le_of_lt (Nat.sub_le_sub_left after_then _) stands⟩
  · intro id generation identity unpublished
    exact orderly_now.openChannel_reserved (orderly_now.sound.not_free identity unpublished)

end Crowd

end EntityEngine
