import EntityEngine.Proofs.Serving

/-!
# Journals

The journal of a conversation is kept beside it: the base that the present life of the
entity began from, the records of all events since then, and the events themselves.
Deletion begins it anew. A session of an event-sourced entity keeps neither the base nor
the log, only a state and a number, and it computes both in more than one place. The
main statement is that nevertheless they are always those of the journal: the numbers
follow each other from the base on and the state is the fold of the events.
-/

namespace EntityEngine

/-- The events that a handler has decided to persist. A rejection persists none. -/
def Hearing.events {S Event : Type} : Hearing S Event → List Event
  | .ended (.ok effect) => if effect.isError then [] else effect.events
  | _ => []

/-- What the result of an event-sourced command has to do with its events. -/
structure Extends {E : Entity} (life : Incarnation E.State) (events : List E.Event)
    (result : CommandResult E.State) : Prop where
  numbered : Numbered life.position.current result.events
  encoded : List.Forall₂ (fun record event => E.events.encode event = .ok record.payload)
    result.events events
  folded : events.foldlM E.apply life.state = .ok (life.after result).state
  pictured : ∀ snapshot, result.snapshot = some snapshot →
    snapshot.sequenceNumber = (life.after result).position.current ∧
      E.states.encode (life.after result).state = .ok snapshot.state

theorem extends_of_judge {E : Entity} {requireEvents : Bool}
    (sourced : E.model = .eventSourced requireEvents) {policy : SnapshotPolicy}
    {life : Incarnation E.State} {operation : String} {heard : Hearing E.State E.Event}
    {result : CommandResult E.State}
    (granted : E.judge policy life operation heard = .granted result) :
    Extends life heard.events result := by
  obtain ⟨effect, rfl, interpreted⟩ := interpreted_of_judge granted
  cases interpreted with
  | rejected _ outcome =>
      have none : (Hearing.ended (.ok effect) : Hearing E.State E.Event).events = [] :=
        if_pos (by rw [Effect.isError, outcome])
      rw [none]
      exact ⟨trivial, .nil, rfl, fun _ h => by cases h⟩
  | carried _ unrejected model encoded changed taken =>
      have all : (Hearing.ended (.ok effect) : Hearing E.State E.Event).events = effect.events :=
        if_neg (by simp [unrejected])
      have unreplaced := Effect.replacement_of_checkModel sourced model
      rw [all]
      refine ⟨Effect.numbered_of_records encoded, Effect.forall₂_of_records encoded,
        (Effect.foldlM_of_nextState unreplaced changed).2, ?_⟩
      rintro snapshot rfl
      rw [Incarnation.current_after]
      exact Effect.encodeState_of_snapshot? taken life.state

/-- A validation error is not about an effect, so its handler has persisted nothing. -/
theorem events_of_judge_refused {E : Entity} {policy : SnapshotPolicy}
    {life : Incarnation E.State} {operation : String} {heard : Hearing E.State E.Event}
    {e : CommandError} (refused : E.judge policy life operation heard = .refused e)
    (severity : e.severity = .validation) : heard.events = [] := by
  cases heard with
  | crashed crash => rfl
  | givenUp => rfl
  | ended ending =>
      cases ending with
      | error e => rfl
      | ok effect =>
          simp only [Entity.judge] at refused
          split at refused
          · cases refused
          · cases refused
            cases severity

structure Journal (E : Entity) where
  /-- The number and the state of the base. -/
  number : SequenceNumber
  state : E.State
  records : List EventRecord
  events : List E.Event

namespace Journal

variable {E : Entity}

def fresh (blank : E.State) : Journal E := ⟨0, blank, [], []⟩

/-- The journal after an `Init`: an admitted snapshot that decodes is the base. -/
def base (o : Options) (blank : E.State) : Option Snapshot → Journal E
  | some snapshot =>
    if o.ignoreInitSnapshot then fresh blank
    else
      match E.states.decode snapshot.state with
      | .ok state => ⟨snapshot.sequenceNumber, state, [], []⟩
      | .error _ => fresh blank
  | none => fresh blank

def note (j : Journal E) (s : Session E) (blank : E.State) (shared : Shared E.Memory)
    (turn : Turn) (ending : Ending) : Journal E :=
  match turn.message, ending with
  | .init init, .quiet => base s.options blank init.snapshot
  | .event record, .quiet =>
    match E.events.decode record.payload with
    | .ok event => { j with records := j.records ++ [record], events := j.events ++ [event] }
    | .error _ => j
  | .command command, .answered (.reply reply) =>
    if reply.deleteAfter then fresh blank
    else
      { j with
        records := j.records ++ reply.emittedEvents
        events := j.events ++ (s.hearing blank shared command turn.patience).events }
  | _, _ => j

def chronicle (j : Journal E) (s : Session E) (blank : E.State) (shared : Shared E.Memory) :
    List Turn → Journal E
  | [] => j
  | turn :: rest =>
    let step := s.serve shared turn
    (j.note s blank shared turn step.response.ending).chronicle step.session blank step.shared rest

/-- A record is the written form of an event. -/
def Writes (record : EventRecord) (event : E.Event) : Prop :=
  E.events.decode record.payload = .ok event ∨ E.events.encode event = .ok record.payload

structure LeadsTo (j : Journal E) (life : Incarnation E.State) : Prop where
  numbered : Numbered j.number j.records
  current : life.position.current = j.number + UInt64.ofNat j.records.length
  folded : j.events.foldlM E.apply j.state = .ok life.state
  written : List.Forall₂ Writes j.records j.events

theorem leadsTo_fresh (blank : E.State) : (fresh (E := E) blank).LeadsTo (.fresh blank) :=
  ⟨trivial, rfl, rfl, .nil⟩

theorem leadsTo_base {o : Options} {blank : E.State} {snapshot : Option Snapshot}
    {life : Incarnation E.State} (seeded : Seeded o blank snapshot life) :
    (base o blank snapshot).LeadsTo life := by
  cases seeded with
  | none => exact leadsTo_fresh blank
  | ignored ignoring =>
      simp only [base, ignoring, if_true]
      exact leadsTo_fresh blank
  | decoded heeding decodes =>
      simp only [base, heeding, decodes]
      exact ⟨trivial, (UInt64.add_zero _).symm, rfl, .nil⟩

variable {j : Journal E} {life : Incarnation E.State}

theorem LeadsTo.replayed (h : j.LeadsTo life) {record : EventRecord} {event : E.Event}
    {state : E.State} (next : record.sequenceNumber = life.position.current + 1)
    (decodes : E.events.decode record.payload = .ok event)
    (applies : E.apply life.state event = .ok state) :
    ({ j with records := j.records ++ [record], events := j.events ++ [event] } :
      Journal E).LeadsTo
        ⟨state, { life.position with current := record.sequenceNumber }⟩ where
  numbered := numbered_append.mpr ⟨h.numbered, by rw [← h.current]; exact ⟨next, trivial⟩⟩
  current := by
    rw [List.length_append, UInt64.ofNat_add, ← UInt64.add_assoc, ← h.current]
    exact next
  folded := foldlM_append_ok h.folded (by simp [applies])
  written := List.rel_append h.written (.cons (.inl decodes) .nil)

theorem LeadsTo.extended (h : j.LeadsTo life) {events : List E.Event}
    {result : CommandResult E.State} (more : Extends life events result) :
    ({ j with records := j.records ++ result.events, events := j.events ++ events } :
      Journal E).LeadsTo (life.after result) where
  numbered := numbered_append.mpr ⟨h.numbered, by rw [← h.current]; exact more.numbered⟩
  current := by
    rw [List.length_append, UInt64.ofNat_add, ← UInt64.add_assoc, ← h.current]
    exact Incarnation.current_after life result
  folded := foldlM_append_ok h.folded more.folded
  written := List.rel_append h.written (more.encoded.imp fun _ _ encodes => .inr encodes)

end Journal

namespace Session

variable {E : Entity} {blank : E.State} {s : Session E} {requireEvents : Bool}

/-- A command for the own entity keeps the journal, whatever its verdict is. -/
theorem leadsTo_settle (sourced : E.model = .eventSourced requireEvents) {j : Journal E}
    (h : j.LeadsTo (s.life blank)) (shared : Shared E.Memory) (command : Command)
    (patience : Nat) (id : Uuid) :
    (j.note s blank shared ⟨.command command, patience⟩
      ((s.verdict blank shared command patience).ending command.commandId id)).LeadsTo
        (((s.awake blank).settle (s.verdict blank shared command patience)).life blank) := by
  cases verdict : s.verdict blank shared command patience with
  | crashed crash => exact h
  | givenUp => exact h
  | refused e =>
      cases severity : e.severity with
      | validation =>
          have none := events_of_judge_refused verdict severity
          have answer : (Verdict.refused e : Verdict E.State).ending command.commandId id =
              .answered
                (.reply ⟨command.commandId, rejectionAction e, [], .none, .none, false⟩) := by
            simp only [Verdict.ending, CommandError.answer, severity]
          rw [answer]
          simp only [Journal.note, none, List.append_nil, Bool.false_eq_true, if_false]
          exact h
      | protocol | unexpected =>
          simp only [Verdict.ending, CommandError.answer, severity]
          exact h
  | granted result =>
      rw [life_settle]
      simp only [Verdict.ending, Verdict.life, Journal.note, CommandResult.toReply]
      split
      · exact Journal.leadsTo_fresh blank
      · exact h.extended (extends_of_judge sourced verdict)

theorem leadsTo_serve (sourced : E.model = .eventSourced requireEvents)
    (empty : E.emptyState = .ok blank) {j : Journal E} (h : j.LeadsTo (s.life blank))
    (shared : Shared E.Memory) (turn : Turn)
    (alive : (s.serve shared turn).session.phase ≠ .terminated) :
    (j.note s blank shared turn (s.serve shared turn).response.ending).LeadsTo
      ((s.serve shared turn).session.life blank) := by
  have served := serve_served empty s shared turn
  generalize (s.serve shared turn).session = after at *
  generalize (s.serve shared turn).response.ending = ending at *
  cases served with
  | closed closed => exact (alive closed).elim
  | broken _ _ closed => exact (alive closed).elim
  | opened _ _ seeded => exact Journal.leadsTo_base seeded
  | replayed _ replays =>
      obtain ⟨next, decodes, applies⟩ := replays
      simp only [Journal.note, decodes]
      exact h.replayed next decodes applies
  | portrayed live => exact h
  | @decided command patience id _ _ => exact leadsTo_settle sourced h shared command patience id

theorem leadsTo_converse (sourced : E.model = .eventSourced requireEvents)
    (empty : E.emptyState = .ok blank) {j : Journal E} (h : j.LeadsTo (s.life blank))
    (shared : Shared E.Memory) (turns : List Turn)
    (alive : (s.converse shared turns).session.phase ≠ .terminated) :
    (j.chronicle s blank shared turns).LeadsTo ((s.converse shared turns).session.life blank) := by
  induction turns generalizing j s shared with
  | nil => exact h
  | cons turn rest ih =>
      have first :=
        leadsTo_serve sourced empty h shared turn (phase_ne_terminated_of_converse alive)
      exact ih first _ alive

/-- Only before its `Init` and after a deletion has a session no life of its own. -/
def LivesUnlessDeleted (s : Session E) : Prop :=
  s.incarnation = none → s.phase = .awaitingInit ∨ s.deleted = true

theorem livesUnlessDeleted_settle (v : Verdict E.State) :
    ((s.awake blank).settle v).LivesUnlessDeleted := by
  cases v with
  | granted result =>
      simp only [settle, commit]
      split
      · exact fun _ => .inr rfl
      · exact fun none => by cases none
  | _ => exact fun none => by cases none

theorem livesUnlessDeleted_serve (empty : E.emptyState = .ok blank) (shared : Shared E.Memory)
    (turn : Turn)
    (alive : (s.serve shared turn).session.phase ≠ .terminated) :
    (s.serve shared turn).session.LivesUnlessDeleted := by
  have served := serve_served empty s shared turn
  generalize (s.serve shared turn).session = after at *
  generalize (s.serve shared turn).response.ending = ending at *
  cases served with
  | closed closed => exact (alive closed).elim
  | broken _ _ closed => exact (alive closed).elim
  | opened => exact fun none => by cases none
  | replayed => exact fun none => by cases none
  | portrayed => exact fun none => by cases none
  | decided => exact livesUnlessDeleted_settle _

theorem livesUnlessDeleted_converse (empty : E.emptyState = .ok blank)
    (lives : s.LivesUnlessDeleted)
    (shared : Shared E.Memory) (turns : List Turn)
    (alive : (s.converse shared turns).session.phase ≠ .terminated) :
    (s.converse shared turns).session.LivesUnlessDeleted := by
  induction turns generalizing s shared with
  | nil => exact lives
  | cons turn rest ih =>
      exact ih (livesUnlessDeleted_serve empty shared turn (phase_ne_terminated_of_converse alive))
        _ alive

/-- As long as a channel of an event-sourced entity is not terminated, its log goes on from
its base without gap or repetition, its number is that of the end of the log, and its state
is the fold of the log. A deleted entity counts as the empty state at number 0. -/
theorem converse_leads (sourced : E.model = .eventSourced requireEvents)
    (empty : E.emptyState = .ok blank) (o : Options) (shared : Shared E.Memory)
    (turns : List Turn)
    (alive : ((fresh o : Session E).converse shared turns).session.phase ≠ .terminated) :
    let j := (Journal.fresh blank).chronicle (fresh o : Session E) blank shared turns
    let s := ((fresh o : Session E).converse shared turns).session
    j.number.toNat + j.records.length < 2 ^ 64 →
      j.records.map (fun record => record.sequenceNumber.toNat) =
          List.range' (j.number.toNat + 1) j.records.length ∧
        (s.sequenceNumber?.getD 0).toNat = j.number.toNat + j.records.length ∧
        j.events.foldlM E.apply j.state = .ok (s.state?.getD blank) ∧
        List.Forall₂ Journal.Writes j.records j.events ∧
        (s.incarnation = none → s.phase = .awaitingInit ∨ s.deleted = true) := by
  intro j s bounded
  have leads : j.LeadsTo (s.life blank) :=
    leadsTo_converse sourced empty (Journal.leadsTo_fresh blank) shared turns alive
  have current : (s.life blank).position.current.toNat = j.number.toNat + j.records.length := by
    rw [leads.current, toNat_add_ofNat bounded]
  refine ⟨leads.numbered.map_toNat bounded, ?_, ?_, leads.written, ?_⟩
  · rw [sequenceNumber_getD s blank]
    exact current
  · rw [state_getD]
    exact leads.folded
  · exact livesUnlessDeleted_converse empty (fun _ => .inl rfl) shared turns alive

/-- The numbers, the position and the state of a visit to a counter. -/
theorem converse_leads_visit :
    let j := (Journal.fresh (E := Samples.Counter.entity) ⟨0⟩).chronicle (fresh .default) ⟨0⟩
      Samples.Counter.host Samples.Counter.visit
    let s := ((fresh .default : Session Samples.Counter.entity).converse Samples.Counter.host
      Samples.Counter.visit).session
    s.phase ≠ .terminated ∧ j.records.length = 3 ∧
      j.records.map (fun record => record.sequenceNumber.toNat) =
        List.range' (j.number.toNat + 1) j.records.length ∧
      (s.sequenceNumber?.getD 0).toNat = j.number.toNat + j.records.length ∧
      j.events.foldlM Samples.Counter.apply j.state = .ok (s.state?.getD ⟨0⟩) := by
  intro j s
  have alive : s.phase ≠ .terminated := by decide
  have three : j.records.length = 3 := by decide
  obtain ⟨numbers, position, state, -⟩ := @converse_leads Samples.Counter.entity ⟨0⟩ false rfl rfl
    .default Samples.Counter.host Samples.Counter.visit alive (by decide)
  exact ⟨alive, three, numbers, position, state⟩

end Session

end EntityEngine
