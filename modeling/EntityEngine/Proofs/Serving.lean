import EntityEngine.Proofs.Verdict

/-!
# What serving one message can do

A message fits a session when the channel allows it at this point: the first `Init`,
then events that continue the life, then commands for the channel's own entity and
snapshot requests. The main statement lists the ways in which a message can be served.
A message that does not fit ends the session; one that fits never does, whatever the
handlers of the entity do.
-/

namespace EntityEngine

/-- The channel is open to an `Init` for this entity. -/
def Options.Admits (o : Options) (id : EntityId) : Prop :=
  ∀ expected, o.expectedEntity = some expected → expected = id

/-- The life that a channel begins with, by what its `Init` brings. -/
inductive Seeded {E : Entity} (o : Options) (blank : E.State) :
    Option Snapshot → Incarnation E.State → Prop
  | none : Seeded o blank none (.fresh blank)
  | ignored {snapshot : Snapshot} (ignoring : o.ignoreInitSnapshot = true) :
      Seeded o blank (some snapshot) (.fresh blank)
  | decoded {snapshot : Snapshot} {state : E.State} (heeding : o.ignoreInitSnapshot = false)
      (decodes : E.states.decode snapshot.state = .ok state) :
      Seeded o blank (some snapshot) ⟨state, .ofSnapshot snapshot.sequenceNumber⟩

/-- A life goes on to another one by a recorded event. -/
inductive Replays {E : Entity} (life : Incarnation E.State) (record : EventRecord) :
    Incarnation E.State → Prop
  | step {event : E.Event} {state : E.State}
      (next : record.sequenceNumber = life.position.current + 1)
      (decodes : E.events.decode record.payload = .ok event)
      (applies : E.apply life.state event = .ok state) :
      Replays life record ⟨state, { life.position with current := record.sequenceNumber }⟩

theorem Seeded.unique {E : Entity} {o : Options} {blank : E.State} {snapshot : Option Snapshot}
    {life other : Incarnation E.State} (h : Seeded o blank snapshot life)
    (h' : Seeded o blank snapshot other) : life = other := by
  cases h with
  | none => cases h'; rfl
  | ignored ignoring =>
      cases h' with
      | ignored _ => rfl
      | decoded heeding _ => rw [ignoring] at heeding; cases heeding
  | decoded heeding decodes =>
      cases h' with
      | ignored ignoring => rw [ignoring] at heeding; cases heeding
      | decoded _ decodes' => rw [decodes] at decodes'; cases decodes'; rfl

theorem Replays.unique {E : Entity} {life : Incarnation E.State} {record : EventRecord}
    {next other : Incarnation E.State} (h : Replays life record next)
    (h' : Replays life record other) : next = other := by
  obtain ⟨-, decodes, applies⟩ := h
  obtain ⟨-, decodes', applies'⟩ := h'
  rw [decodes] at decodes'
  cases decodes'
  rw [applies] at applies'
  cases applies'
  rfl

namespace Session

variable {E : Entity} {blank : E.State} {s : Session E}

/-- The channel allows the message at this point. -/
inductive Fits (blank : E.State) (s : Session E) : Inbound → Prop
  | init {init : Init} {life : Incarnation E.State} (waiting : s.phase = .awaitingInit)
      (admits : s.options.Admits init.entityId)
      (seeded : Seeded s.options blank init.snapshot life) : Fits blank s (.init init)
  | event {record : EventRecord} {life : Incarnation E.State} (replaying : s.phase = .replaying)
      (replays : Replays (s.life blank) record life) : Fits blank s (.event record)
  | command {command : Command} (live : s.Live) (own : s.identity = some command.entityId) :
      Fits blank s (.command command)
  | snapshotRequest {request : SnapshotRequest} (live : s.Live) :
      Fits blank s (.snapshotRequest request)

def opened (s : Session E) (id : EntityId) (life : Incarnation E.State) : Session E :=
  { s with identity := some id, incarnation := some life, phase := .replaying }

def replayed (s : Session E) (life : Incarnation E.State) : Session E :=
  { s with incarnation := some life }

def portrait (life : Incarnation E.State) (requestId : UInt64) (id : Uuid) : Outbound :=
  match E.states.encode life.state with
  | .ok state => .snapshotReply ⟨requestId, ⟨life.position.current, state⟩⟩
  | .error _ => .failure ⟨none, s!"unexpected error [{id.text}]", some id⟩

/-- The ways in which a message can be served. -/
inductive Served (blank : E.State) (s : Session E) (shared : Shared E.Memory) :
    Turn → Ending → Session E → Prop
  | closed {turn : Turn} (closed : s.phase = .terminated) :
      Served blank s shared turn (closing turn.message) s
  | broken {turn : Turn} {description : String} {id : Uuid} {after : Session E}
      (open_ : s.phase ≠ .terminated) (unfit : ¬ s.Fits blank turn.message)
      (closed : after.phase = .terminated) :
      Served blank s shared turn
        (.answered (.failure ⟨turn.message.commandId?, description, some id⟩)) after
  | opened {init : Init} {patience : Nat} {life : Incarnation E.State}
      (waiting : s.phase = .awaitingInit) (admits : s.options.Admits init.entityId)
      (seeded : Seeded s.options blank init.snapshot life) :
      Served blank s shared ⟨.init init, patience⟩ .quiet (s.opened init.entityId life)
  | replayed {record : EventRecord} {patience : Nat} {life : Incarnation E.State}
      (replaying : s.phase = .replaying) (replays : Replays (s.life blank) record life) :
      Served blank s shared ⟨.event record, patience⟩ .quiet (s.replayed life)
  | portrayed {request : SnapshotRequest} {patience : Nat} {id : Uuid} (live : s.Live) :
      Served blank s shared ⟨.snapshotRequest request, patience⟩
        (.answered (portrait (s.life blank) request.requestId id)) (s.awake blank)
  | decided {command : Command} {patience : Nat} {id : Uuid} (live : s.Live)
      (own : s.identity = some command.entityId) :
      Served blank s shared ⟨.command command, patience⟩
        ((s.verdict blank shared command patience).ending command.commandId id)
        ((s.awake blank).settle (s.verdict blank shared command patience))

theorem session_failRecovery (inactive : s.phase ≠ .active) (shared : Shared E.Memory)
    (error : RecoveryError) :
    (s.failRecovery shared error).session = { s with phase := .terminated } := by
  simp [failRecovery, endIfFatal, Severity.isFatalIn, inactive]

theorem served_failRecovery {t : Session E} {shared after : Shared E.Memory} {turn : Turn}
    {patience : Nat} {error : RecoveryError} (opening : s.phase ≠ .terminated)
    (unfit : ¬ s.Fits blank turn.message) (inactive : t.phase ≠ .active)
    (uncommanded : turn.message.commandId? = none) :
    Served blank s shared turn (carry (t.failRecovery after error) patience).response.ending
      (carry (t.failRecovery after error) patience).session := by
  have closed : (carry (t.failRecovery after error) patience).session.phase = .terminated :=
    congrArg Session.phase (session_failRecovery inactive after error)
  have broken : Served blank s shared turn
      (.answered (.failure ⟨turn.message.commandId?, s!"unexpected error [{after.draw.1.text}]",
        some after.draw.1⟩)) (carry (t.failRecovery after error) patience).session :=
    .broken opening unfit closed
  rw [uncommanded] at broken
  exact broken

theorem filter_ne_eq_none_iff (o : Options) (id : EntityId) :
    o.expectedEntity.filter (· ≠ id) = none ↔ o.Admits id := by
  simp only [Option.filter_eq_none_iff, Options.Admits, decide_eq_true_eq, ne_eq,
    Decidable.not_not]

theorem begin_init (waiting : s.phase = .awaitingInit) (shared : Shared E.Memory) (init : Init) :
    s.begin shared (.init init) = s.receiveInit shared init := by
  simp only [begin, waiting]

/-- The snapshot that is admitted seeds the session as it should. -/
theorem seed_admitted (empty : E.emptyState = .ok blank) (t : Session E)
    (snapshot : Option Snapshot) :
    (∃ e, seed (E := E) (t.admitSnapshot snapshot).1 = .error e ∧
        ∀ life, ¬ Seeded t.options blank snapshot life) ∨
      ∃ life, seed (E := E) (t.admitSnapshot snapshot).1 = .ok (.ok life) ∧
        Seeded t.options blank snapshot life := by
  have fresh : seed (E := E) none = .ok (.ok (.fresh blank)) := by
    simp only [seed, empty, Except.map]
  cases snapshot with
  | none => exact .inr ⟨_, fresh, .none⟩
  | some snapshot =>
      cases ignoring : t.options.ignoreInitSnapshot with
      | true =>
          refine .inr ⟨_, ?_, .ignored ignoring⟩
          simpa only [admitSnapshot, ignoring, if_true] using fresh
      | false =>
          have startingState? : (t.admitSnapshot (some snapshot)).1 = some snapshot := by
            simp [admitSnapshot, ignoring]
          rw [startingState?]
          cases decodes : E.states.decode snapshot.state with
          | ok state =>
              exact .inr ⟨_, by simp only [seed, decodes], .decoded ignoring decodes⟩
          | error e =>
              refine .inl ⟨_, by simp only [seed, decodes]; rfl, ?_⟩
              intro life seeded
              cases seeded with
              | ignored ignored => rw [ignoring] at ignored; cases ignored
              | decoded _ decoded => rw [decodes] at decoded; cases decoded

theorem served_init (empty : E.emptyState = .ok blank) (waiting : s.phase = .awaitingInit)
    (shared : Shared E.Memory) (init : Init) (patience : Nat) :
    Served blank s shared ⟨.init init, patience⟩
      (s.serve shared ⟨.init init, patience⟩).response.ending
      (s.serve shared ⟨.init init, patience⟩).session := by
  have served : s.serve shared ⟨.init init, patience⟩ =
      carry (s.receiveInit shared init) patience := by
    rw [← begin_init waiting]
    rfl
  have opening : s.phase ≠ .terminated := by simp [waiting]
  rw [served]
  cases expected : s.options.expectedEntity.filter (· ≠ init.entityId) with
  | some other =>
      have unfit : ¬ s.Fits blank (.init init) := by
        rintro (⟨-, admits, -⟩ | _)
        rw [(filter_ne_eq_none_iff _ _).mpr admits] at expected
        cases expected
      have received : s.receiveInit shared init =
          s.violate shared (.entityMismatch other init.entityId) none := by
        rw [receiveInit, expected]
      rw [received]
      exact .broken opening unfit rfl
  | none =>
      have admits := (filter_ne_eq_none_iff _ _).mp expected
      let t : Session E := { s with identity := some init.entityId }
      rcases seed_admitted empty t init.snapshot with ⟨e, failed, unseeded⟩ | ⟨life, ok, seeded⟩
      · have unfit : ¬ s.Fits blank (.init init) := by
          rintro (⟨-, -, seeded⟩ | _)
          exact unseeded _ seeded
        have received : s.receiveInit shared init =
            (t.failRecovery shared e).preceded (t.admitSnapshot init.snapshot).2 [] := by
          rw [receiveInit, expected]
          simp only [t, failed]
        rw [received, session_carry_preceded, response_carry_preceded]
        exact served_failRecovery opening unfit (by simp [t, waiting]) rfl
      · have received : s.receiveInit shared init =
            ⟨s.opened init.entityId life, shared, (t.admitSnapshot init.snapshot).2 ++
              [.seeded E.name t.identityOrBlank life.position.current], [], .quiet⟩ := by
          rw [receiveInit, expected]
          simp only [t, ok]
          rfl
        rw [received]
        exact .opened waiting admits seeded

theorem served_event (empty : E.emptyState = .ok blank) (replaying : s.phase = .replaying)
    (shared : Shared E.Memory) (record : EventRecord) (patience : Nat) :
    Served blank s shared ⟨.event record, patience⟩
      (s.serve shared ⟨.event record, patience⟩).response.ending
      (s.serve shared ⟨.event record, patience⟩).session := by
  have served : s.serve shared ⟨.event record, patience⟩ =
      carry (s.receiveEvent shared record) patience := by
    simp only [serve, begin, replaying]
  have opening : s.phase ≠ .terminated := by simp [replaying]
  have inactive : s.phase ≠ .active := by simp [replaying]
  rw [served, receiveEvent, present_eq empty]
  simp only
  cases advanced : (s.life blank).position.replay record.sequenceNumber with
  | error violation =>
      have unfit : ¬ s.Fits blank (.event record) := by
        rintro (_ | ⟨-, next, -, -⟩)
        rw [LogPosition.replay, if_pos next] at advanced
        cases advanced
      exact .broken opening unfit rfl
  | ok position =>
      obtain ⟨next, rfl⟩ := LogPosition.replay_eq_ok_iff.mp advanced
      simp only
      cases decodes : E.events.decode record.payload with
      | error e =>
          have unfit : ¬ s.Fits blank (.event record) := by
            rintro (_ | ⟨-, -, decoded, -⟩)
            rw [decodes] at decoded
            cases decoded
          exact served_failRecovery opening unfit inactive rfl
      | ok event =>
          simp only [empty]
          cases applies : E.apply (s.life blank).state event with
          | error crash =>
              have unfit : ¬ s.Fits blank (.event record) := by
                rintro (_ | ⟨-, -, decoded, applied⟩)
                rw [decodes] at decoded
                cases decoded
                rw [applies] at applied
                cases applied
              exact served_failRecovery opening unfit inactive rfl
          | ok state => exact .replayed replaying (.step next decodes applies)

/-- A snapshot request to a live session is answered by a portrait of its life. -/
theorem serve_snapshotRequest (empty : E.emptyState = .ok blank) (live : s.Live)
    (request : SnapshotRequest) (shared : Shared E.Memory) (patience : Nat) :
    ∃ id, (s.serve shared ⟨.snapshotRequest request, patience⟩).session = s.awake blank ∧
      (s.serve shared ⟨.snapshotRequest request, patience⟩).response.ending =
        .answered (portrait (s.life blank) request.requestId id) := by
  obtain ⟨notices, revived⟩ := revive_eq (s := s) empty
  simp only [serve, begin_snapshotRequest_of_live live, receiveSnapshotRequest, revived, portrait]
  cases E.states.encode (s.life blank).state with
  | ok state => exact ⟨shared.draw.1, rfl, rfl⟩
  | error e =>
      refine ⟨shared.draw.1, ?_, rfl⟩
      simp [carry, Step.preceded, failRecovery, endIfFatal, Severity.isFatalIn]

theorem served_snapshotRequest (empty : E.emptyState = .ok blank) (live : s.Live)
    (shared : Shared E.Memory) (request : SnapshotRequest) (patience : Nat) :
    Served blank s shared ⟨.snapshotRequest request, patience⟩
      (s.serve shared ⟨.snapshotRequest request, patience⟩).response.ending
      (s.serve shared ⟨.snapshotRequest request, patience⟩).session := by
  obtain ⟨id, same, ended⟩ := serve_snapshotRequest empty live request shared patience
  rw [same, ended]
  exact .portrayed live

/-- A command for another entity is a violation. -/
theorem begin_foreign (live : s.Live) {command : Command}
    (foreign : s.identity ≠ some command.entityId) (shared : Shared E.Memory) :
    s.begin shared (.command command) =
      ({ s with phase := .active } : Session E).violate shared
        (.entityMismatch s.identityOrBlank command.entityId) (some command.commandId) := by
  rw [begin_command_of_live live, receiveCommand, if_neg foreign]
  rfl

/-- A command for another entity is answered by a failure and ends the session. -/
theorem serve_foreign (live : s.Live) {command : Command}
    (foreign : s.identity ≠ some command.entityId) (shared : Shared E.Memory) (patience : Nat) :
    (s.serve shared ⟨.command command, patience⟩).session.phase = .terminated ∧
      ∃ id : Uuid, (s.serve shared ⟨.command command, patience⟩).response.ending =
        .answered (.failure ⟨some command.commandId, s!"protocol violation: {
          (Violation.entityMismatch s.identityOrBlank command.entityId).message} [{id.text}]",
          some id⟩) := by
  rw [serve, begin_foreign live foreign]
  exact ⟨rfl, shared.draw.1, rfl⟩

theorem served_command (empty : E.emptyState = .ok blank) (live : s.Live)
    (shared : Shared E.Memory) (command : Command) (patience : Nat) :
    Served blank s shared ⟨.command command, patience⟩
      (s.serve shared ⟨.command command, patience⟩).response.ending
      (s.serve shared ⟨.command command, patience⟩).session := by
  by_cases own : s.identity = some command.entityId
  · obtain ⟨id, same, ended⟩ := serve_command empty live own shared patience
    rw [same, ended]
    exact .decided live own
  · obtain ⟨closed, id, ended⟩ := serve_foreign live own shared patience
    have opening : s.phase ≠ .terminated := by
      rcases live with h | h <;> simp [h]
    have unfit : ¬ s.Fits blank (.command command) := by
      rintro (_ | _ | ⟨-, fit⟩)
      exact own fit
    rw [ended]
    exact .broken opening unfit closed

/-- The phase allows messages of this kind. -/
def Allows (s : Session E) : Inbound → Prop
  | .init _ => s.phase = .awaitingInit
  | .event _ => s.phase = .replaying
  | .command _ => s.Live
  | .snapshotRequest _ => s.Live

theorem Fits.allows {message : Inbound} (fit : s.Fits blank message) : s.Allows message := by
  cases fit with
  | init waiting => exact waiting
  | event replaying => exact replaying
  | command live => exact live
  | snapshotRequest live => exact live

/-- A message in a phase that does not allow it is a violation. -/
theorem begin_misplaced (opening : s.phase ≠ .terminated) (shared : Shared E.Memory)
    {message : Inbound} (misplaced : ¬ s.Allows message) :
    ∃ violation, s.begin shared message = s.violate shared violation message.commandId? := by
  cases phase : s.phase with
  | terminated => exact (opening phase).elim
  | awaitingInit =>
      cases message with
      | init init => exact (misplaced phase).elim
      | _ => exact ⟨_, by simp only [begin, phase]; rfl⟩
  | replaying =>
      cases message with
      | init init => exact ⟨_, by simp only [begin, phase]; rfl⟩
      | event record => exact (misplaced phase).elim
      | command command => exact (misplaced (.inl phase)).elim
      | snapshotRequest request => exact (misplaced (.inl phase)).elim
  | active =>
      cases message with
      | init init => exact ⟨_, by simp only [begin, phase]; rfl⟩
      | event record => exact ⟨_, by simp only [begin, phase]; rfl⟩
      | command command => exact (misplaced (.inr phase)).elim
      | snapshotRequest request => exact (misplaced (.inr phase)).elim

theorem served_misplaced (opening : s.phase ≠ .terminated) (shared : Shared E.Memory)
    {turn : Turn} (misplaced : ¬ s.Allows turn.message) :
    Served blank s shared turn (s.serve shared turn).response.ending
      (s.serve shared turn).session := by
  obtain ⟨violation, begun⟩ := begin_misplaced opening shared misplaced
  rw [serve, begun]
  exact .broken opening (fun fit => misplaced fit.allows) rfl

theorem serve_served (empty : E.emptyState = .ok blank) (s : Session E)
    (shared : Shared E.Memory) (turn : Turn) :
    Served blank s shared turn (s.serve shared turn).response.ending
      (s.serve shared turn).session := by
  by_cases closed : s.phase = .terminated
  · obtain ⟨same, ended⟩ := serve_terminated closed shared turn
    rw [same, ended]
    exact .closed closed
  by_cases allowed : s.Allows turn.message
  · obtain ⟨message, patience⟩ := turn
    cases message with
    | init init => exact served_init empty allowed shared init patience
    | event record => exact served_event empty allowed shared record patience
    | command command => exact served_command empty allowed shared command patience
    | snapshotRequest request =>
        exact served_snapshotRequest empty allowed shared request patience
  · exact served_misplaced closed shared allowed

theorem settle_frame (s : Session E) (v : Verdict E.State) :
    (s.settle v).phase = s.phase ∧ (s.settle v).options = s.options ∧
      (s.settle v).identity = s.identity := by
  cases v with
  | granted result =>
      simp only [settle, commit]
      split <;> exact ⟨rfl, rfl, rfl⟩
  | _ => exact ⟨rfl, rfl, rfl⟩

/-- Exactly the messages that do not fit end the session. -/
theorem serve_terminates_iff (empty : E.emptyState = .ok blank) (opening : s.phase ≠ .terminated)
    (shared : Shared E.Memory) (turn : Turn) :
    (s.serve shared turn).session.phase = .terminated ↔ ¬ s.Fits blank turn.message := by
  have served := serve_served empty s shared turn
  generalize (s.serve shared turn).session = after at *
  generalize (s.serve shared turn).response.ending = ending at *
  cases served with
  | closed closed => exact (opening closed).elim
  | broken _ unfit closed => exact ⟨fun _ => unfit, fun _ => closed⟩
  | opened waiting admits seeded =>
      exact ⟨(nomatch ·), fun unfit => (unfit (.init waiting admits seeded)).elim⟩
  | replayed replaying replays =>
      refine ⟨fun h => ?_, fun unfit => (unfit (.event replaying replays)).elim⟩
      rw [Session.replayed, replaying] at h
      cases h
  | portrayed live =>
      exact ⟨(nomatch ·), fun unfit => (unfit (.snapshotRequest live)).elim⟩
  | decided live own =>
      refine ⟨fun h => ?_, fun unfit => (unfit (.command live own)).elim⟩
      rw [(settle_frame _ _).1] at h
      cases h

/-- An admitted `Init` opens the session with the life it brings. -/
theorem serve_init (empty : E.emptyState = .ok blank) (waiting : s.phase = .awaitingInit)
    {init : Init} {life : Incarnation E.State} (admits : s.options.Admits init.entityId)
    (seeded : Seeded s.options blank init.snapshot life) (shared : Shared E.Memory)
    (patience : Nat) :
    (s.serve shared ⟨.init init, patience⟩).session = s.opened init.entityId life ∧
      (s.serve shared ⟨.init init, patience⟩).response.ending = .quiet := by
  have served := served_init empty waiting shared init patience
  generalize (s.serve shared ⟨.init init, patience⟩).session = after at *
  generalize (s.serve shared ⟨.init init, patience⟩).response.ending = ending at *
  cases served with
  | closed closed => rw [waiting] at closed; cases closed
  | broken _ unfit _ => exact (unfit (.init waiting admits seeded)).elim
  | opened _ _ seeded' => exact ⟨by rw [seeded.unique seeded'], rfl⟩

theorem serve_event (empty : E.emptyState = .ok blank) (replaying : s.phase = .replaying)
    {record : EventRecord} {life : Incarnation E.State}
    (replays : Replays (s.life blank) record life) (shared : Shared E.Memory) (patience : Nat) :
    (s.serve shared ⟨.event record, patience⟩).session = s.replayed life ∧
      (s.serve shared ⟨.event record, patience⟩).response.ending = .quiet := by
  have served := served_event empty replaying shared record patience
  generalize (s.serve shared ⟨.event record, patience⟩).session = after at *
  generalize (s.serve shared ⟨.event record, patience⟩).response.ending = ending at *
  cases served with
  | closed closed => rw [replaying] at closed; cases closed
  | broken _ unfit _ => exact (unfit (.event replaying replays)).elim
  | replayed _ replays' => exact ⟨by rw [replays.unique replays'], rfl⟩

/-- A message that leaves the session unterminated fits it. -/
theorem fits_of_serve (empty : E.emptyState = .ok blank) {shared : Shared E.Memory} {turn : Turn}
    (alive : (s.serve shared turn).session.phase ≠ .terminated) : s.Fits blank turn.message := by
  have opening : s.phase ≠ .terminated := by
    intro closed
    rw [(serve_terminated closed shared turn).1] at alive
    exact alive closed
  exact Classical.byContradiction fun unfit =>
    alive ((serve_terminates_iff empty opening shared turn).mpr unfit)

theorem options_serve (empty : E.emptyState = .ok blank) (shared : Shared E.Memory) (turn : Turn)
    (alive : (s.serve shared turn).session.phase ≠ .terminated) :
    (s.serve shared turn).session.options = s.options := by
  have served := serve_served empty s shared turn
  generalize (s.serve shared turn).session = after at *
  generalize (s.serve shared turn).response.ending = ending at *
  cases served with
  | closed closed => exact (alive closed).elim
  | broken _ _ closed => exact (alive closed).elim
  | opened => rfl
  | replayed => rfl
  | portrayed => rfl
  | decided => exact (settle_frame _ _).2.1

theorem frame_serve (empty : E.emptyState = .ok blank) (live : s.Live) (shared : Shared E.Memory)
    (turn : Turn) (alive : (s.serve shared turn).session.phase ≠ .terminated) :
    (s.serve shared turn).session.Live ∧
      (s.serve shared turn).session.options = s.options ∧
      (s.serve shared turn).session.identity = s.identity := by
  obtain ⟨message, patience⟩ := turn
  cases fits_of_serve empty alive with
  | init waiting => rcases live with live | live <;> rw [waiting] at live <;> cases live
  | event replaying replays =>
      rw [(serve_event empty replaying replays shared patience).1]
      exact ⟨.inl replaying, rfl, rfl⟩
  | @command command _ own =>
      obtain ⟨id, after, -⟩ := serve_command empty live own shared patience
      obtain ⟨active, same⟩ :=
        settle_frame (s.awake blank) (s.verdict blank shared command patience)
      rw [after]
      exact ⟨.inr active, same⟩
  | @snapshotRequest request =>
      obtain ⟨id, after, -⟩ := serve_snapshotRequest empty live request shared patience
      rw [after]
      exact ⟨.inr rfl, rfl, rfl⟩

theorem frame_converse (empty : E.emptyState = .ok blank) (live : s.Live)
    (shared : Shared E.Memory) (turns : List Turn)
    (alive : (s.converse shared turns).session.phase ≠ .terminated) :
    (s.converse shared turns).session.Live ∧
      (s.converse shared turns).session.options = s.options ∧
      (s.converse shared turns).session.identity = s.identity := by
  induction turns generalizing s shared with
  | nil => exact ⟨live, rfl, rfl⟩
  | cons turn rest ih =>
      obtain ⟨next, options, identity⟩ :=
        frame_serve empty live shared turn (phase_ne_terminated_of_converse alive)
      obtain ⟨last, options', identity'⟩ := ih next _ alive
      exact ⟨last, options'.trans options, identity'.trans identity⟩

end Session

end EntityEngine
