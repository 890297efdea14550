import EntityEngine.Proofs.Crowd
import EntityEngine.Proofs.Serving

/-!
# Whose worker it is

A worker is opened for one identity. Whatever messages it is sent, and however its
entity behaves, it never takes on another one, and the report of its end names the
identity it was opened for. This is carried through every run of a registry, together
with what else a report and a tombstone rest on: that a finished worker is the one that
its post says, and that no worker was ever opened over queues that cannot be made.
-/

namespace EntityEngine

namespace Session

variable {E : Entity} {s t u : Session E} {id : EntityId}

/-- The channel is for one identity and has taken on no other. -/
structure Bound (id : EntityId) (s : Session E) : Prop where
  expected : s.options.expectedEntity = some id
  own : ∀ other, s.identity = some other → other = id

/-- The options and the identity are left as they are. -/
structure Frame (s t : Session E) : Prop where
  options : t.options = s.options
  identity : t.identity = s.identity

theorem Frame.refl (s : Session E) : Frame s s := ⟨rfl, rfl⟩

theorem Frame.trans (h : Frame s t) (h' : Frame t u) : Frame s u :=
  ⟨h'.options.trans h.options, h'.identity.trans h.identity⟩

theorem Bound.frame (h : s.Bound id) (frame : Frame s t) : t.Bound id where
  expected := (congrArg Options.expectedEntity frame.options).trans h.expected
  own := fun other own => h.own other (frame.identity.symm.trans own)

theorem frame_endIfFatal (s : Session E) (severity : Severity) :
    Frame s (s.endIfFatal severity) := by
  unfold endIfFatal
  split <;> exact ⟨rfl, rfl⟩

theorem frame_violate (s : Session E) (shared : Shared E.Memory) (violation : Violation)
    (commandId : Option UInt64) : Frame s (s.violate shared violation commandId).session :=
  s.frame_endIfFatal .protocol

theorem frame_failRecovery (s : Session E) (shared : Shared E.Memory) (error : RecoveryError) :
    Frame s (s.failRecovery shared error).session :=
  s.frame_endIfFatal .unexpected

theorem frame_receiveEvent (s : Session E) (shared : Shared E.Memory) (record : EventRecord) :
    Frame s (s.receiveEvent shared record).session := by
  unfold receiveEvent
  split
  · exact .refl s
  next incarnation _ =>
    have begun : Frame s { s with incarnation := some incarnation } := ⟨rfl, rfl⟩
    dsimp only
    split
    · exact begun.trans (frame_violate _ _ _ _)
    next position _ =>
      have moved : Frame s { s with incarnation := some { incarnation with position } } :=
        ⟨rfl, rfl⟩
      split
      · exact moved.trans (frame_failRecovery _ _ _)
      split
      · exact moved
      next blank _ =>
        have emptied : Frame s { s with incarnation := some ⟨blank, position⟩ } := ⟨rfl, rfl⟩
        split
        · exact ⟨rfl, rfl⟩
        · exact emptied.trans (frame_failRecovery _ _ _)

theorem frame_revive (s : Session E) : Frame s s.revive.1 := by
  unfold revive
  dsimp only
  split <;> split <;> exact ⟨rfl, rfl⟩

theorem frame_receiveSnapshotRequest (s : Session E) (shared : Shared E.Memory)
    (request : SnapshotRequest) : Frame s (s.receiveSnapshotRequest shared request).session := by
  have revived := s.frame_revive
  unfold receiveSnapshotRequest
  generalize s.revive = result at revived
  obtain ⟨t, notices, crash | incarnation⟩ := result
  · exact revived
  · dsimp only
    split
    · exact revived
    next e _ => exact revived.trans (t.frame_failRecovery shared (.stateUnencodable e))

theorem frame_refuse (s : Session E) (shared : Shared E.Memory) (ticket : Ticket)
    (error : CommandError) : Frame s (s.refuse shared ticket error).session := by
  unfold refuse
  split
  · exact s.frame_endIfFatal .validation
  · exact s.frame_endIfFatal _

theorem frame_commit (s : Session E) (result : CommandResult E.State) :
    Frame s (s.commit result) := by
  unfold commit
  dsimp only
  split <;> exact ⟨rfl, rfl⟩

theorem frame_conclude (s : Session E) (shared : Shared E.Memory) (ticket : Ticket)
    (ending : Except CommandError (Effect E.State E.Event)) :
    Frame s (s.conclude shared ticket ending).session := by
  unfold conclude
  dsimp only
  split
  · exact s.frame_refuse _ _ _
  split
  · exact .refl s
  next incarnation _ =>
    have begun : Frame s { s with incarnation := some incarnation } := ⟨rfl, rfl⟩
    split
    · exact begun.trans (frame_commit _ _)
    · exact begun.trans (frame_refuse _ _ _ _)

theorem frame_launch (s : Session E) (shared : Shared E.Memory) (command : Command)
    (incarnation : Incarnation E.State) :
    Frame s (s.launch shared command incarnation).session := by
  unfold launch
  dsimp only
  split
  · exact .refl s
  · exact .refl s
  · exact s.frame_conclude _ _ _

theorem frame_receiveCommand (s : Session E) (shared : Shared E.Memory) (command : Command) :
    Frame s (s.receiveCommand shared command).session := by
  have revived := s.frame_revive
  unfold receiveCommand
  split
  · generalize s.revive = result at revived
    obtain ⟨t, notices, crash | incarnation⟩ := result
    · exact revived
    · exact revived.trans (t.frame_launch _ _ _)
  · exact s.frame_violate _ _ _

/-- An `Init` is refused, or it names the identity that the channel expects. -/
theorem frame_receiveInit (s : Session E) (shared : Shared E.Memory) (init : Init) :
    Frame s (s.receiveInit shared init).session ∨
      s.options.expectedEntity.filter (· ≠ init.entityId) = none ∧
        Frame { s with identity := some init.entityId } (s.receiveInit shared init).session := by
  unfold receiveInit
  split
  · exact .inl (s.frame_violate _ _ _)
  next matching =>
    refine .inr ⟨matching, ?_⟩
    dsimp only
    split
    next e _ => exact frame_failRecovery _ shared e
    · exact .refl _
    · exact ⟨rfl, rfl⟩

/-- Only an `Init` can name an identity. -/
theorem frame_begin (s : Session E) (shared : Shared E.Memory) (message : Inbound) :
    Frame s (s.begin shared message).session ∨
      ∃ init, (s.begin shared message).session = (s.receiveInit shared init).session := by
  have awake : Frame s { s with phase := .active } := ⟨rfl, rfl⟩
  unfold Session.begin
  split
  · exact .inl (.refl s)
  · exact .inr ⟨_, rfl⟩
  · exact .inl (s.frame_violate _ _ _)
  · exact .inl (s.frame_violate _ _ _)
  · exact .inl (s.frame_receiveEvent _ _)
  · exact .inl (s.frame_violate _ _ _)
  · exact .inl (awake.trans (frame_receiveCommand _ _ _))
  · exact .inl (awake.trans (frame_receiveSnapshotRequest _ _ _))

theorem options_begin (s : Session E) (shared : Shared E.Memory) (message : Inbound) :
    (s.begin shared message).session.options = s.options := by
  rcases s.frame_begin shared message with frame | ⟨init, received⟩
  · exact frame.options
  · rw [received]
    rcases s.frame_receiveInit shared init with frame | ⟨-, frame⟩
    · exact frame.options
    · exact frame.options

theorem Bound.begin (h : s.Bound id) (shared : Shared E.Memory) (message : Inbound) :
    (s.begin shared message).session.Bound id := by
  rcases s.frame_begin shared message with frame | ⟨init, received⟩
  · exact h.frame frame
  · rw [received]
    rcases s.frame_receiveInit shared init with frame | ⟨matching, frame⟩
    · exact h.frame frame
    · have named : init.entityId = id := by
        by_contra differ
        simp [h.expected, Option.filter, Ne.symm differ] at matching
      have taken : Bound id { s with identity := some init.entityId } :=
        ⟨h.expected, fun other own => (Option.some.inj own).symm.trans named⟩
      exact taken.frame frame

end Session

namespace Worker

variable {E : Entity} {w w' : Worker E} {id : EntityId} {now : Instant} {shared : Shared E.Memory}

@[simp] theorem session_afterMessage (now : Instant) (w : Worker E) :
    (w.afterMessage now).session = w.session := by
  unfold afterMessage
  split <;> rfl

@[simp] theorem session_absorb (now : Instant) (w : Worker E) (step : Step E) :
    (w.absorb now step).worker.session = step.session := by
  obtain ⟨session, shared, notices, calls, response⟩ := step
  cases response with
  | quiet => exact session_afterMessage now _
  | _ => rfl

/-- The worker is for one identity, and its report names that one. -/
structure Serves (id : EntityId) (w : Worker E) : Prop where
  bound : w.session.Bound id
  reported : ∀ report, w.stage = .stopped report → report.entityId = some id

theorem serves_create {options : Options} {capacity : Nat} {passivation : Option Duration}
    (expected : options.expectedEntity = some id)
    (created : create options capacity passivation = .ok w) : w.Serves id := by
  unfold create at created
  split at created
  · cases created
  · cases created
    exact ⟨⟨expected, fun _ own => (nomatch own)⟩, fun _ stopped => (nomatch stopped)⟩

theorem entityId_report (bound : w.session.Bound id) (exit : Exit) :
    (w.report exit).entityId = some id := by
  cases own : w.session.identity with
  | none => simp [report, own, bound.expected]
  | some other => simp [report, own, bound.own other own]

theorem serves_stop (bound : w.session.Bound id) (exit : Exit) : (w.stop exit).Serves id where
  bound := bound
  reported := by
    rintro report ⟨⟩
    exact entityId_report bound exit

theorem serves_afterMessage (bound : w.session.Bound id) : (w.afterMessage now).Serves id := by
  unfold afterMessage
  split
  · exact serves_stop bound _
  · exact ⟨bound, fun _ stopped => (nomatch stopped)⟩

theorem serves_absorb {step : Step E} (bound : step.session.Bound id) :
    (w.absorb now step).worker.Serves id := by
  obtain ⟨session, shared, notices, calls, response⟩ := step
  cases response with
  | quiet => exact serves_afterMessage bound
  | _ => exact ⟨bound, fun _ stopped => (nomatch stopped)⟩

theorem serves_runHandler (bound : w.session.Bound id) (call : Call E) :
    (w.runHandler now shared call).worker.Serves id := by
  unfold runHandler
  cases Session.advance shared call with
  | mk progress after => cases progress <;> exact ⟨bound, fun _ stopped => (nomatch stopped)⟩

theorem Strides.serves {stride : Stride E} (h : Strides now w shared stride)
    (bound : w.session.Bound id) : stride.worker.Serves id := by
  cases h with
  | started stage => exact ⟨bound, fun _ stopped => (nomatch stopped)⟩
  | took stage items => exact serves_absorb (bound.begin shared _)
  | emptied stage items closed => exact serves_stop bound _
  | idled stage items idle => exact serves_stop bound _
  | ran stage => exact serves_runHandler bound _
  | woke stage due => exact serves_runHandler bound _
  | concluded stage => exact serves_absorb (bound.frame (w.session.frame_conclude shared _ _))
  | delivered stage receiving => exact serves_afterMessage bound
  | undelivered stage closed => exact serves_stop bound _

theorem Hosts.serves (h : w.Hosts w') (serves : w.Serves id) : w'.Serves id where
  bound := by
    rw [h.session]
    exact serves.bound
  reported := by
    rw [h.stage]
    exact serves.reported

end Worker

namespace Roster

variable {r r' : Roster} {generation other : Nat} {report : Option Report}

/-- A change of status that is not the end of a worker brings no post to its record. -/
theorem finished_of_setStatus {status : Status} (h : status ≠ .finished report)
    (finished : (r.setStatus generation status).status? other = some (.finished report)) :
    r.status? other = some (.finished report) := by
  rw [status?_setStatus] at finished
  split at finished
  · obtain ⟨before, -, same⟩ := Option.map_eq_some_iff.mp finished
    exact (h same).elim
  · exact finished

theorem finished_of_finish {last : Option Report}
    (finished : (r.finish generation last).status? other = some (.finished report)) :
    generation = other ∧ last = report ∨ r.status? other = some (.finished report) := by
  unfold finish at finished
  split at finished
  · rw [status?_setStatus] at finished
    split at finished
    · next same =>
        obtain ⟨before, -, ended⟩ := Option.map_eq_some_iff.mp finished
        cases ended
        exact .inl ⟨same, rfl⟩
    · exact .inr finished
  · exact .inr finished

theorem posts_record (now : Instant) {post : Post} {last : Option Report}
    (found : r.posts[generation]? = some post) (ended : post.status = .finished last) :
    (r.record now generation).1.posts = (r.setStatus generation (.recorded last)).posts := by
  obtain ⟨id, status⟩ := post
  cases ended
  simp only [record, found]
  cases deletedBy last <;> rfl

theorem finished_of_record {now : Instant}
    (finished : (r.record now generation).1.status? other = some (.finished report)) :
    r.status? other = some (.finished report) := by
  cases found : r.posts[generation]? with
  | none => simpa only [record, found] using finished
  | some post =>
      obtain ⟨id, status⟩ := post
      cases status with
      | finished last =>
          rw [status?, posts_record now found rfl, ← status?] at finished
          exact finished_of_setStatus (fun same => by cases same) finished
      | _ => simpa only [record, found] using finished

theorem finished_of_publish
    (finished : (r.publish generation).status? other = some (.finished report)) :
    r.status? other = some (.finished report) := by
  unfold publish at finished
  split at finished
  · exact finished_of_setStatus (fun same => by cases same) finished
  · exact finished

theorem finished_of_enter {id : EntityId}
    (finished : (r.enter id).status? other = some (.finished report)) :
    r.status? other = some (.finished report) := by
  rw [status?_enter] at finished
  split at finished
  · cases finished
  · exact finished

end Roster

namespace Registry

variable {E : Entity} {r r' : Registry E} {id : EntityId} {generation : Nat}

/-- Every worker is for the identity of its post, and a post that waits for its record has
the report of its worker. -/
structure Attributed (r : Registry E) : Prop where
  serves : ∀ id generation w, r.roster.identity? generation = some id →
    r.workers[generation]? = some w → w.Serves id
  finished : ∀ generation report, r.roster.status? generation = some (.finished report) →
    ∃ w, r.workers[generation]? = some w ∧ w.hasEnded = true ∧ w.report? = report
  fits : r.workers ≠ [] → Worker.capacityCrash? r.capacity = none

theorem attributed_create (settings : Settings) (tracer : Tracer) (supply : Nat → Uuid) :
    (create settings tracer supply : Registry E).Attributed :=
  ⟨fun _ _ _ h => (nomatch h), fun _ _ h => (nomatch h), fun h => (h rfl).elim⟩

/-- A registry that has opened a worker has queues that can be made. -/
theorem Attributed.fits_of_worker (h : r.Attributed) {w : Worker E}
    (held : r.workers[generation]? = some w) : Worker.capacityCrash? r.capacity = none :=
  h.fits (List.ne_nil_of_mem (List.mem_of_getElem? held))

/-- A change of the roster that ends no worker and gives none away. -/
theorem Attributed.follows (h : r.Attributed) {roster : Roster} (follows : r.roster.Follows roster)
    (finished : ∀ generation report, roster.status? generation = some (.finished report) →
      r.roster.status? generation = some (.finished report)) :
    ({ r with roster } : Registry E).Attributed where
  serves := by
    intro id generation w identity found
    rw [follows.identity] at identity
    exact h.serves id generation w identity found
  finished := fun generation report stopped =>
    h.finished generation report (finished generation _ stopped)
  fits := h.fits

theorem Attributed.modifyWorker (h : r.Attributed) {f : Worker E → Worker E}
    (hosts : ∀ w, r.workers[generation]? = some w → w.Hosts (f w)) :
    (r.modifyWorker generation f).Attributed where
  serves := by
    intro id other w identity found
    simp only [Registry.modifyWorker, List.getElem?_modify] at identity found
    obtain ⟨before, held, same⟩ := Option.map_eq_some_iff.mp found
    have serves := h.serves id other before identity held
    split at same
    · next equal =>
        subst equal same
        exact (hosts before held).serves serves
    · rwa [← same]
  finished := by
    intro other report stopped
    obtain ⟨w, held, ended, told⟩ := h.finished other report stopped
    simp only [Registry.modifyWorker, List.getElem?_modify, held]
    by_cases equal : generation = other
    · subst equal
      have stage := (hosts w held).stage
      refine ⟨f w, by simp, (Worker.hasEnded_congr stage).trans ended, ?_⟩
      rw [Worker.report?, stage]
      exact told
    · exact ⟨w, by simp [equal], ended, told⟩
  fits := by
    intro occupied
    refine h.fits ?_
    rintro none
    simp [Registry.modifyWorker, none] at occupied

theorem Attributed.addWorker (h : r.Attributed) (orderly : r.Orderly) {worker : Worker E}
    (serves : worker.Serves id) (fits : Worker.capacityCrash? r.capacity = none) :
    (r.addWorker id worker).Attributed where
  serves := by
    intro other generation w identity found
    have length : r.workers.length = r.roster.nextGeneration := orderly.paired
    simp only [Registry.addWorker] at identity found
    rw [Roster.identity?_enter] at identity
    rw [List.getElem?_append] at found
    split at identity
    · next last =>
        cases identity
        rw [if_neg (by omega), last, length, Nat.sub_self] at found
        cases found
        exact serves
    · next earlier =>
        split at found
        · exact h.serves other generation w identity found
        · next beyond =>
            have bound := Roster.lt_of_identity? identity
            rw [← orderly.paired] at bound
            exact (beyond bound).elim
  finished := by
    intro generation report stopped
    obtain ⟨w, held, told⟩ := h.finished generation report (Roster.finished_of_enter stopped)
    have bound := (List.getElem?_eq_some_iff.mp held).1
    exact ⟨w, (List.getElem?_append_left bound).trans held, told⟩
  fits := fun _ => fits

theorem Attributed.stepped (h : r.Attributed) {w : Worker E} {stride : Stride E}
    (found : r.workers[generation]? = some w) (step : w.step? r.now r.shared = some stride) :
    (r.stepped generation stride).Attributed where
  serves := by
    intro id other w' identity held
    rw [(r.follows_stepped generation stride).identity] at identity
    simp only [Registry.stepped, List.getElem?_set] at held
    split at held
    · next same =>
        subst same
        split at held
        · cases held
          have bound := (h.serves id generation w identity found).bound
          exact (Worker.strides_of_step? step).serves bound
        · cases held
    · exact h.serves id other w' identity held
  finished := by
    intro other report stopped
    have bound := (List.getElem?_eq_some_iff.mp found).1
    have earlier (before : r.roster.status? other = some (.finished report)) :
        ∃ w', (r.stepped generation stride).workers[other]? = some w' ∧
          w'.hasEnded = true ∧ w'.report? = report := by
      obtain ⟨w', held, ended, told⟩ := h.finished other report before
      have different : generation ≠ other := by
        rintro rfl
        rw [found] at held
        cases held
        rw [Worker.hasEnded_of_step? step] at ended
        cases ended
      exact ⟨w', by simpa [Registry.stepped, List.getElem?_set, different] using held, ended, told⟩
    unfold Registry.stepped at stopped
    dsimp only at stopped
    split at stopped
    · next ended =>
        rcases Roster.finished_of_finish stopped with ⟨rfl, last⟩ | before
        · exact ⟨stride.worker, by simp [Registry.stepped, bound], ended, last⟩
        · exact earlier before
    · exact earlier stopped
  fits := by
    intro occupied
    refine h.fits ?_
    rintro none
    simp [none] at found

theorem Becomes.attributed (h : r.Becomes r') (orderly : r.Orderly) (attributed : r.Attributed) :
    r'.Attributed := by
  have reaped : r.reap.1.Attributed :=
    attributed.follows (r.roster.follows_reap r.now) fun _ _ stopped => stopped
  have cleared (id : EntityId) : (r.cleared id).Attributed :=
    attributed.follows (r.roster.follows_consume r.now id) fun _ _ stopped => stopped
  cases h with
  | same => exact attributed
  | reaped => exact reaped
  | cleared untaken => exact cleared _
  | @entered id worker untaken createsWorker =>
      have fits : Worker.capacityCrash? r.capacity = none := by
        unfold CreatesWorker Worker.create at createsWorker
        split at createsWorker
        · cases createsWorker
        · next none => exact none
      exact (cleared id).addWorker (orderly.cleared id) (Worker.serves_create rfl createsWorker)
        fits
  | handled => exact reaped.modifyWorker fun _ _ => .cloned
  | hosted hosts => exact attributed.modifyWorker hosts
  | collected collected =>
      refine attributed.follows (Roster.follows_collect? collected) fun other report stopped => ?_
      rw [Roster.status?, Roster.posts_collect? collected] at stopped
      exact stopped
  | worked found step => exact attributed.stepped found step
  | recorded =>
      exact attributed.follows (r.roster.follows_record r.now _)
        fun _ _ stopped => Roster.finished_of_record stopped
  | published =>
      exact attributed.follows (r.roster.follows_publish _)
        fun _ _ stopped => Roster.finished_of_publish stopped
  | passed => exact ⟨attributed.serves, attributed.finished, attributed.fits⟩

end Registry

theorem Crowd.attributed_run {E : Entity} {c : Crowd E} (orderly : c.registry.Orderly)
    (attributed : c.registry.Attributed) (happenings : List Happening) :
    (c.run happenings).registry.Attributed := by
  induction happenings generalizing c with
  | nil => exact attributed
  | cons happening later ih =>
      have step := c.becomes_next happening
      exact ih (step.orderly orderly) (step.attributed orderly attributed)

end EntityEngine
