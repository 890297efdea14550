import EntityEngine.Proofs.Discourse
import EntityEngine.Proofs.Rehearsal
import EntityEngine.Proofs.Retirement
import EntityEngine.Proofs.Steadiness

/-!
# Events that are refused

While the history is replayed the state belongs to the number: it is the fold of the events
up to it. An event that does not continue the history is refused and leaves both as they are.
An event with the right number counts as soon as it has come. When it cannot be decoded or
applied after all, or when there is no empty state to stand in meanwhile, the number is one
ahead of the state, and an event that panics leaves the empty state behind. The number of the
last snapshot is never touched. Nothing is assumed here about the entity, not even that it has
an empty state.
-/

namespace EntityEngine

/-- The life with an event counted that is not applied. -/
def Incarnation.counted {S : Type} (life : Incarnation S) (n : SequenceNumber) : Incarnation S :=
  { life with position := { life.position with current := n } }

namespace Session

variable {E : Entity} {s t : Session E} {life : Incarnation E.State}

/-- The ways in which a session that has this life takes an event. -/
inductive Takes (s : Session E) (life : Incarnation E.State) (record : EventRecord) :
    Ending → Session E → Prop
  | applied {blank : E.State} {next : Incarnation E.State} (empty : E.emptyState = .ok blank)
      (replays : Replays life record next) : Takes s life record .quiet (s.replayed next)
  | misnumbered {failure : Failure} (gap : record.sequenceNumber ≠ life.position.current + 1) :
      Takes s life record (.answered (.failure failure))
        { s.replayed life with phase := .terminated }
  | undecodable {failure : Failure} {e : DecodeError}
      (next : record.sequenceNumber = life.position.current + 1)
      (fails : E.events.decode record.payload = .error e) :
      Takes s life record (.answered (.failure failure))
        { s.replayed (life.counted record.sequenceNumber) with phase := .terminated }
  | unprepared {event : E.Event} {crash : Crash}
      (next : record.sequenceNumber = life.position.current + 1)
      (decodes : E.events.decode record.payload = .ok event)
      (unwinds : E.emptyState = .error crash) :
      Takes s life record (.crashed crash) (s.replayed (life.counted record.sequenceNumber))
  | panicked {event : E.Event} {blank : E.State} {crash : Crash} {failure : Failure}
      (next : record.sequenceNumber = life.position.current + 1)
      (decodes : E.events.decode record.payload = .ok event)
      (empty : E.emptyState = .ok blank) (panics : E.apply life.state event = .error crash) :
      Takes s life record (.answered (.failure failure))
        { s.replayed { life.counted record.sequenceNumber with state := blank } with
          phase := .terminated }

theorem takes_receiveEvent (replaying : s.phase = .replaying) (living : s.incarnation = some life)
    (shared : Shared E.Memory) (record : EventRecord) :
    Takes s life record (s.receiveEvent shared record).response.ending
      (s.receiveEvent shared record).session := by
  have here : s.present = .ok life := by simp only [present, living]
  have failed (t : Session E) (same : t.phase = s.phase) (error : RecoveryError)
      (taken : ∀ failure, Takes s life record (.answered (.failure failure))
        { t with phase := .terminated }) :
      Takes s life record (t.failRecovery shared error).response.ending
        (t.failRecovery shared error).session := by
    rw [session_failRecovery (by simp [same, replaying])]
    exact taken _
  unfold receiveEvent
  simp only [here]
  cases advanced : life.position.replay record.sequenceNumber with
  | error violation =>
      have gap : record.sequenceNumber ≠ life.position.current + 1 := by
        intro next
        rw [LogPosition.replay, if_pos next] at advanced
        cases advanced
      exact .misnumbered gap
  | ok position =>
      obtain ⟨next, rfl⟩ := LogPosition.replay_eq_ok_iff.mp advanced
      simp only
      cases decodes : E.events.decode record.payload with
      | error e =>
          exact failed (s.replayed (life.counted record.sequenceNumber)) rfl _
            fun _ => .undecodable next decodes
      | ok event =>
          simp only
          cases empty : E.emptyState with
          | error crash => exact .unprepared next decodes empty
          | ok blank =>
              simp only
              cases applies : E.apply life.state event with
              | ok state => exact .applied empty (.step next decodes applies)
              | error crash =>
                  exact failed
                    (s.replayed { life.counted record.sequenceNumber with state := blank }) rfl _
                    fun _ => .panicked next decodes empty applies

/-- Of a refused event the number of the last snapshot tells nothing. The number of the last
event tells whether it continued the history, and the state whether it panicked. -/
theorem Takes.refused {record : EventRecord} {ending : Ending} {after : Session E}
    (h : Takes s life record ending after) (refused : ending ≠ .quiet) :
    ∃ left, after.incarnation = some left ∧
      left.position.lastSnapshot = life.position.lastSnapshot ∧
      (record.sequenceNumber ≠ life.position.current + 1 → left = life) ∧
      (record.sequenceNumber = life.position.current + 1 →
        left.position.current = record.sequenceNumber) ∧
      (left.state = life.state ∨
        E.emptyState = .ok left.state ∧ ∃ event crash,
          E.events.decode record.payload = .ok event ∧
            E.apply life.state event = .error crash) := by
  cases h with
  | applied => exact (refused rfl).elim
  | misnumbered gap => exact ⟨life, rfl, rfl, fun _ => rfl, fun next => (gap next).elim, .inl rfl⟩
  | undecodable next => exact ⟨_, rfl, rfl, fun gap => (gap next).elim, fun _ => rfl, .inl rfl⟩
  | unprepared next => exact ⟨_, rfl, rfl, fun gap => (gap next).elim, fun _ => rfl, .inl rfl⟩
  | panicked next decodes empty panics =>
      exact ⟨_, rfl, rfl, fun gap => (gap next).elim, fun _ => rfl,
        .inr ⟨empty, _, _, decodes, panics⟩⟩

/-- A command or a snapshot request does not lead to replaying. -/
theorem holds_serve (live : s.Live) (shared : Shared E.Memory) {turn : Turn}
    (asks : turn.message.Asks) : (s.serve shared turn).session.Holds .active := by
  obtain ⟨message, patience⟩ := turn
  refine Holds.carry ?_ patience
  cases message with
  | init init => exact asks.elim
  | event record => exact asks.elim
  | command command =>
      rw [begin_command_of_live live]
      exact Holds.receiveCommand (.inl rfl) shared command
  | snapshotRequest request =>
      rw [begin_snapshotRequest_of_live live]
      exact Holds.receiveSnapshotRequest (.inl rfl) shared request

/-- A replaying session has a life. Without an empty state, no event has ever been applied
to it. -/
def Recovers (messages : List Inbound) (s : Session E) : Prop :=
  s.phase = .replaying → ∃ life, s.incarnation = some life ∧
    ∀ crash, E.emptyState = .error crash → ∃ init snapshot, .init init ∈ messages ∧
      init.snapshot = some snapshot ∧ E.states.decode snapshot.state = .ok life.state

theorem Recovers.of_phase {messages : List Inbound} (elsewhere : s.phase ≠ .replaying) :
    s.Recovers messages :=
  fun replaying => (elsewhere replaying).elim

theorem Recovers.of_terminated {messages : List Inbound} (closed : s.phase = .terminated) :
    s.Recovers messages :=
  .of_phase (by simp [closed])

theorem Holds.recovers {messages : List Inbound} (held : s.Holds .active) :
    s.Recovers messages := by
  obtain active | closed := held
  · exact .of_phase (by simp [active])
  · exact .of_terminated closed

/-- A life that is seeded where there is no empty state comes from a snapshot. -/
theorem decodes_of_seed {crash : Crash} (unwinds : E.emptyState = .error crash)
    {snapshot : Option Snapshot} (seeded : seed snapshot = .ok (.ok life)) :
    ∃ p, snapshot = some p ∧ E.states.decode p.state = .ok life.state := by
  unfold seed at seeded
  split at seeded
  next p =>
    split at seeded
    next state decodes =>
      cases seeded
      exact ⟨p, rfl, decodes⟩
    · cases seeded
  · rw [unwinds] at seeded
    cases seeded

theorem eq_some_of_admitSnapshot {snapshot : Option Snapshot} {p : Snapshot}
    (admitted : (s.admitSnapshot snapshot).1 = some p) : snapshot = some p := by
  unfold admitSnapshot at admitted
  split at admitted
  · split at admitted
    · cases admitted
    · exact admitted
  · cases admitted

theorem recovers_receiveInit (waiting : s.phase = .awaitingInit) (shared : Shared E.Memory)
    (init : Init) {messages : List Inbound} (member : .init init ∈ messages) :
    (s.receiveInit shared init).session.Recovers messages := by
  unfold receiveInit
  split
  · exact .of_terminated rfl
  dsimp only
  split
  · rw [Step.preceded, session_failRecovery (by simp [waiting])]
    exact .of_terminated rfl
  · exact .of_phase (by simp [waiting])
  next life seeded =>
    refine fun _ => ⟨life, rfl, fun crash unwinds => ?_⟩
    obtain ⟨p, admitted, decodes⟩ := decodes_of_seed unwinds seeded
    exact ⟨init, p, member, eq_some_of_admitSnapshot admitted, decodes⟩

theorem Takes.recovers {messages : List Inbound} {record : EventRecord} {ending : Ending}
    {after : Session E} (h : Takes s life record ending after)
    (rests : ∀ crash, E.emptyState = .error crash → ∃ init snapshot, .init init ∈ messages ∧
      init.snapshot = some snapshot ∧ E.states.decode snapshot.state = .ok life.state) :
    after.Recovers messages := by
  cases h with
  | applied empty =>
      refine fun _ => ⟨_, rfl, fun crash unwinds => ?_⟩
      cases empty.symm.trans unwinds
  | misnumbered => exact .of_terminated rfl
  | undecodable => exact .of_terminated rfl
  | unprepared => exact fun _ => ⟨_, rfl, rests⟩
  | panicked => exact .of_terminated rfl

theorem recovers_serve {messages : List Inbound} (h : s.Recovers messages)
    (shared : Shared E.Memory) (turn : Turn) :
    (s.serve shared turn).session.Recovers (messages ++ [turn.message]) := by
  by_cases closed : s.phase = .terminated
  · rw [(serve_terminated closed shared turn).1]
    exact .of_terminated closed
  by_cases allowed : s.Allows turn.message
  · obtain ⟨message, patience⟩ := turn
    cases message with
    | init init =>
        have waiting : s.phase = .awaitingInit := allowed
        have plain := plain_receiveInit s shared init
        rw [serve, begin_init waiting, carry_of_plain plain]
        exact recovers_receiveInit waiting shared init (by simp)
    | event record =>
        have replaying : s.phase = .replaying := allowed
        obtain ⟨life, living, rests⟩ := h replaying
        rw [serve_replaying replaying]
        refine (takes_receiveEvent replaying living shared record).recovers ?_
        intro crash unwinds
        obtain ⟨init, snapshot, member, same⟩ := rests crash unwinds
        exact ⟨init, snapshot, List.mem_append_left _ member, same⟩
    | command command =>
        have held : (s.serve shared ⟨.command command, patience⟩).session.Holds .active :=
          holds_serve allowed shared trivial
        exact held.recovers
    | snapshotRequest request =>
        have held : (s.serve shared ⟨.snapshotRequest request, patience⟩).session.Holds .active :=
          holds_serve allowed shared trivial
        exact held.recovers
  · obtain ⟨violation, begun⟩ := begin_misplaced closed shared allowed
    rw [serve, begun]
    exact .of_terminated rfl

theorem recovers_converse {messages : List Inbound} (h : s.Recovers messages)
    (shared : Shared E.Memory) (turns : List Turn) :
    (s.converse shared turns).session.Recovers (messages ++ turns.map Turn.message) := by
  induction turns generalizing s messages shared with
  | nil => simpa [converse] using h
  | cons turn rest ih =>
      have later := ih (recovers_serve h shared turn) (s.serve shared turn).shared
      rwa [List.append_assoc, List.singleton_append] at later

theorem prelude_of_reached {o : Options} {blank : E.State} {messages : List Inbound}
    (h : Reached o blank messages s) (replaying : s.phase = .replaying)
    (living : s.incarnation = some life) : ∃ id, Prelude o blank id messages life := by
  cases h with
  | awaitingInit => cases replaying
  | @replaying _ id _ _ _ _ recovery =>
      rw [Session.life, living, Option.getD_some] at recovery
      exact ⟨id, recovery⟩
  | active active => rw [replaying] at active; cases active

/-- While a channel replays the history, its life is what the messages lead to: the fold of
the events up to its number, or, where there is no empty state, what an `Init` brought. An
event that is refused then leaves the number of the last snapshot. If it does not continue
the history it leaves the number and the state as well, and otherwise its own number. The
state is left too, unless the event panics: then it is the empty one. -/
theorem converse_refuses (o : Options) (shared : Shared E.Memory) (turns : List Turn) :
    let c := (fresh o : Session E).converse shared turns
    c.session.phase = .replaying → ∃ life, c.session.incarnation = some life ∧
      (∀ blank, E.emptyState = .ok blank →
        ∃ id, Prelude o blank id (turns.map Turn.message) life) ∧
      (∀ crash, E.emptyState = .error crash → ∃ init snapshot,
        .init init ∈ turns.map Turn.message ∧ init.snapshot = some snapshot ∧
          E.states.decode snapshot.state = .ok life.state) ∧
      ∀ record patience,
        let step := c.session.serve c.shared ⟨.event record, patience⟩
        Takes c.session life record step.response.ending step.session ∧
          (step.response.ending ≠ .quiet →
            step.session.lastSnapshot? = c.session.lastSnapshot? ∧
            (record.sequenceNumber ≠ life.position.current + 1 →
              step.session.state? = c.session.state? ∧
              step.session.sequenceNumber? = c.session.sequenceNumber?) ∧
            (record.sequenceNumber = life.position.current + 1 →
              step.session.sequenceNumber? = some record.sequenceNumber ∧
              (step.session.state? = c.session.state? ∨
                step.session.state? = E.emptyState.toOption ∧ ∃ event crash,
                  E.events.decode record.payload = .ok event ∧
                    E.apply life.state event = .error crash))) := by
  intro c replaying
  have recovers : (fresh o : Session E).Recovers [] := .of_phase nofun
  obtain ⟨life, living, rests⟩ := recovers_converse recovers shared turns replaying
  replace living : c.session.incarnation = some life := living
  refine ⟨life, living, fun blank empty => ?_, rests, fun record patience => ?_⟩
  · have alive : c.session.phase ≠ .terminated := by simp [replaying]
    exact prelude_of_reached (reached_of_converse empty shared turns alive) replaying living
  · have taken := takes_receiveEvent replaying living c.shared record
    simp only
    rw [serve_replaying replaying]
    refine ⟨taken, fun refused => ?_⟩
    obtain ⟨left, leaves, snapshot, gap, next, state⟩ := taken.refused refused
    simp only [lastSnapshot?, state?, sequenceNumber?, leaves, living, Option.map_some,
      Option.some.injEq]
    refine ⟨snapshot, fun wrong => ?_, fun right => ⟨next right, ?_⟩⟩
    · rw [gap wrong]
      exact ⟨rfl, rfl⟩
    · obtain kept | ⟨empty, panicked⟩ := state
      · exact .inl kept
      · exact .inr ⟨by rw [empty]; rfl, panicked⟩

/-- A counter that has replayed one event keeps its state and its number at a gap. -/
theorem converse_refuses_gap :
    let c := (fresh .default : Session Samples.Counter.entity).converse Samples.Counter.host
      (Samples.Counter.visit.take 2)
    let gap : EventRecord := ⟨3, (Samples.CounterEvent.increased 1).toJson⟩
    let step := c.session.serve c.shared ⟨.event gap, 0⟩
    c.session.phase = .replaying ∧ c.session.state? = some ⟨5⟩ ∧
      c.session.sequenceNumber? = some 1 ∧ step.session.state? = some ⟨5⟩ ∧
      step.session.sequenceNumber? = some 1 ∧ step.session.lastSnapshot? = some 0 := by
  intro c gap step
  have replaying : c.session.phase = .replaying := rfl
  obtain ⟨life, living, -, -, takes⟩ := @converse_refuses Samples.Counter.entity .default
    Samples.Counter.host (Samples.Counter.visit.take 2) replaying
  obtain rfl : ⟨⟨5⟩, ⟨1, 0⟩⟩ = life := Option.some.inj living
  obtain ⟨snapshot, kept, -⟩ := (takes gap 0).2 (by decide)
  obtain ⟨state, number⟩ := kept (by decide)
  exact ⟨replaying, rfl, rfl, state, number, snapshot⟩

/-- The same counter counts an event that it cannot decode. And one that was seeded with the
largest number loses it to an event that panics. -/
theorem converse_refuses_ahead :
    let opening : List Turn := Samples.Counter.visit.take 2
    let full : Snapshot := ⟨3, Samples.Counter.toJson ⟨Int64.maxValue⟩⟩
    let c := (fresh .default : Session Samples.Counter.entity).converse Samples.Counter.host opening
    let d := (fresh .default : Session Samples.Counter.entity).converse Samples.Counter.host
      [⟨.init ⟨"a", some full⟩, 0⟩]
    let garbled := c.session.serve c.shared ⟨.event ⟨2, .string "garbled"⟩, 0⟩
    let overflow := d.session.serve d.shared
      ⟨.event ⟨4, (Samples.CounterEvent.increased 1).toJson⟩, 0⟩
    (c.session.phase = .replaying ∧ garbled.response.ending ≠ .quiet ∧
      (c.session.state?, c.session.sequenceNumber?) = (some ⟨5⟩, some 1) ∧
      (garbled.session.state?, garbled.session.sequenceNumber?) = (some ⟨5⟩, some 2)) ∧
    d.session.phase = .replaying ∧ overflow.response.ending ≠ .quiet ∧
      (d.session.state?, d.session.sequenceNumber?) = (some ⟨Int64.maxValue⟩, some 3) ∧
      (overflow.session.state?, overflow.session.sequenceNumber?) = (some ⟨0⟩, some 4) := by
  exact ⟨⟨rfl, by decide, rfl, rfl⟩, rfl, by decide, rfl, rfl⟩

end Session

end EntityEngine
