import EntityEngine.Bench
import EntityEngine.Proofs.Serving

/-!
# Benches and channels

A bench takes short cuts: it initialises its session itself, replays a history without
asking for the phase of the session, and numbers calls and snapshot requests with one
counter. The main statement is that none of this can be noticed. What is tried on a bench
comes out as on a channel whose host sends an `Init` without a snapshot, the history as
events numbered from one, and then commands and snapshot requests numbered from one.
-/

namespace EntityEngine

/-- What can be tried on a bench. Whoever calls an operation lets its handler go on once
and then as often as its patience allows. -/
inductive Trial where
  | call (operation : String) (payload : Json) (patience : Nat)
  | snapshot
deriving DecidableEq

inductive Finding where
  | called (ending : Ending)
  | portrayed (snapshot : Attempt (Option Snapshot))
deriving DecidableEq

def Trial.turn (entityId : EntityId) (id : UInt64) : Trial → Turn
  | .call operation payload patience =>
    ⟨.command (.plain id entityId operation (some payload)), patience + 1⟩
  | .snapshot => ⟨.snapshotRequest ⟨id⟩, 0⟩

def Trial.turns (entityId : EntityId) : (first : UInt64) → List Trial → List Turn
  | _, [] => []
  | id, trial :: rest => trial.turn entityId id :: turns entityId (id + 1) rest

/-- The payloads of a history, numbered from the one after `last` on. -/
def chronicle (last : SequenceNumber) : List Json → List Turn
  | [] => []
  | payload :: rest => ⟨.event ⟨last + 1, payload⟩, 0⟩ :: chronicle (last + 1) rest

def Ending.portrayed : Ending → Attempt (Option Snapshot)
  | .answered (.snapshotReply reply) => .ok (some reply.snapshot)
  | .crashed crash => .error crash
  | _ => .ok none

/-- What an exchange on a channel shows of the trial that it stands for. -/
def Exchange.finding (x : Exchange) : Finding :=
  match x.turn.message with
  | .snapshotRequest _ => .portrayed x.ending.portrayed
  | _ => .called x.ending

namespace Bench

variable {E : Entity} {blank : E.State} {b b' : Bench E} {entityId : EntityId}

def withHistories (b : Bench E) : List (List E.Event) → Attempt (Except HistoryError (Bench E))
  | [] => .ok (.ok b)
  | events :: rest =>
    match b.withHistory events with
    | .ok (.ok b) => b.withHistories rest
    | refused => refused

/-- See a call through, or give it up when its handler does not end in time. -/
def pursue (b : Bench E) (patience : Nat) : Response E → Bench E × Response E
  | .calling call =>
    let step := b.session.pursue b.shared call patience
    ({ b with session := step.session, shared := step.shared }, step.response)
  | response => (b, response)

def undertake (b : Bench E) : Trial → Bench E × Finding
  | .call operation payload patience =>
    let (after, response) := b.call operation payload
    let (after, response) := after.pursue (patience + 1) response
    (after, .called response.ending)
  | .snapshot =>
    let (after, snapshot) := b.snapshot
    (after, .portrayed snapshot)

def undertakeAll (b : Bench E) : List Trial → Bench E × List Finding
  | [] => (b, [])
  | trial :: rest =>
    let (after, finding) := b.undertake trial
    let (last, findings) := after.undertakeAll rest
    (last, finding :: findings)

theorem withHistory_append (b : Bench E) (earlier later : List E.Event) :
    b.withHistory (earlier ++ later) =
      match b.withHistory earlier with
      | .ok (.ok b) => b.withHistory later
      | refused => refused := by
  induction earlier generalizing b with
  | nil => rfl
  | cons event rest ih =>
      simp only [List.cons_append, withHistory]
      rcases b.replay event with crash | error | after
      · rfl
      · rfl
      · exact ih after

/-- A history may be given in any split. -/
theorem withHistories_eq (b : Bench E) (histories : List (List E.Event)) :
    b.withHistories histories = b.withHistory histories.flatten := by
  induction histories generalizing b with
  | nil => rfl
  | cons events rest ih =>
      rw [List.flatten_cons, withHistory_append, withHistories]
      rcases b.withHistory events with crash | error | after
      · rfl
      · rfl
      · exact ih after

end Bench

theorem Response.eq_quiet_of_ending {E : Entity} {response : Response E}
    (ended : response.ending = .quiet) : response = .quiet := by
  cases response <;> cases ended
  rfl

theorem Response.eq_answered_of_ending {E : Entity} {response : Response E} {out : Outbound}
    (ended : response.ending = .answered out) : response = .answered out := by
  cases response <;> cases ended
  rfl

namespace Session

variable {E : Entity} {blank : E.State} {s : Session E}

theorem carry_receiveInit (s : Session E) (shared : Shared E.Memory) (init : Init)
    (patience : Nat) : carry (s.receiveInit shared init) patience = s.receiveInit shared init := by
  unfold receiveInit
  split
  · rfl
  · simp only
    split <;> rfl

theorem carry_receiveEvent (s : Session E) (shared : Shared E.Memory) (record : EventRecord)
    (patience : Nat) :
    carry (s.receiveEvent shared record) patience = s.receiveEvent shared record := by
  unfold receiveEvent
  split
  · rfl
  split
  · rfl
  simp only
  split
  · rfl
  split
  · rfl
  split <;> rfl

theorem serve_replaying (replaying : s.phase = .replaying) (shared : Shared E.Memory)
    (record : EventRecord) (patience : Nat) :
    s.serve shared ⟨.event record, patience⟩ = s.receiveEvent shared record := by
  simp only [serve, begin, replaying, carry_receiveEvent]

/-- An event of the history is answered by a failure or taken in without a word. -/
theorem serve_event_cases (empty : E.emptyState = .ok blank) (replaying : s.phase = .replaying)
    (shared : Shared E.Memory) (record : EventRecord) :
    let step := s.serve shared ⟨.event record, 0⟩
    (∃ failure, step.response.ending = .answered (.failure failure)) ∨
      step.response.ending = .quiet ∧ step.session.phase = .replaying ∧
        step.session.sequenceNumber?.getD 0 = record.sequenceNumber := by
  intro step
  have ways := served_event empty replaying shared record 0
  generalize step.response.ending = ending at *
  generalize step.session = after at *
  cases ways with
  | closed closed => rw [replaying] at closed; cases closed
  | broken => exact .inl ⟨_, rfl⟩
  | replayed _ replays =>
      obtain ⟨number, -, -⟩ := replays
      exact .inr ⟨rfl, replaying, rfl⟩

/-- A host replays a history event after event, and stops at the first one that cannot be
written or that is answered by a failure. -/
inductive Stops : Session E → Shared E.Memory → (last : SequenceNumber) → List E.Event →
    HistoryError → Prop
  | unwritten {s : Session E} {shared : Shared E.Memory} {last : SequenceNumber}
      {event : E.Event} {rest : List E.Event} {cause : EncodeError}
      (unwritten : E.events.encode event = .error cause) :
      Stops s shared last (event :: rest) (.unencodable cause)
  | answered {s : Session E} {shared : Shared E.Memory} {last : SequenceNumber}
      {event : E.Event} {rest : List E.Event} {payload : Json} {failure : Failure}
      (written : E.events.encode event = .ok payload)
      (answered : (s.serve shared ⟨.event ⟨last + 1, payload⟩, 0⟩).response.ending =
        .answered (.failure failure)) :
      Stops s shared last (event :: rest) (.rejected failure.description)
  | later {s : Session E} {shared : Shared E.Memory} {last : SequenceNumber}
      {event : E.Event} {rest : List E.Event} {payload : Json} {step : Step E}
      {e : HistoryError} (written : E.events.encode event = .ok payload)
      (served : s.serve shared ⟨.event ⟨last + 1, payload⟩, 0⟩ = step)
      (quiet : step.response.ending = .quiet)
      (stops : Stops step.session step.shared (last + 1) rest e) :
      Stops s shared last (event :: rest) e

end Session

namespace Bench

variable {E : Entity} {blank : E.State} {b : Bench E} {entityId : EntityId}

def moved (b : Bench E) (session : Session E) (shared : Shared E.Memory) : Bench E :=
  { b with session, shared }

def served (b : Bench E) (payload : Json) : Step E :=
  b.session.serve b.shared ⟨.event ⟨b.sequenceNumber + 1, payload⟩, 0⟩

def heard (b : Bench E) (payload : Json) : Bench E :=
  b.moved (b.served payload).session (b.served payload).shared

inductive Replay (b : Bench E) (event : E.Event) :
    Attempt (Except HistoryError (Bench E)) → Prop
  | unwritten {cause : EncodeError} (unwritten : E.events.encode event = .error cause) :
      Replay b event (.ok (.error (.unencodable cause)))
  | answered {payload : Json} {failure : Failure}
      (written : E.events.encode event = .ok payload)
      (answered : (b.served payload).response.ending = .answered (.failure failure)) :
      Replay b event (.ok (.error (.rejected failure.description)))
  | quiet {payload : Json} (written : E.events.encode event = .ok payload)
      (quiet : (b.served payload).response.ending = .quiet)
      (replaying : (b.heard payload).session.phase = .replaying)
      (next : (b.heard payload).sequenceNumber = b.sequenceNumber + 1) :
      Replay b event (.ok (.ok (b.heard payload)))

theorem replay_cases (empty : E.emptyState = .ok blank) (replaying : b.session.phase = .replaying)
    (event : E.Event) : Replay b event (b.replay event) := by
  unfold replay
  cases written : E.events.encode event with
  | error cause => exact .unwritten written
  | ok payload =>
      have received : b.session.receiveEvent b.shared ⟨b.sequenceNumber + 1, payload⟩ =
          b.served payload := (Session.serve_replaying replaying ..).symm
      simp only [received]
      obtain ⟨failure, ended⟩ | ⟨ended, still, next⟩ :=
        Session.serve_event_cases empty replaying b.shared ⟨b.sequenceNumber + 1, payload⟩
      · have answered : (b.served payload).response = .answered (.failure failure) :=
          Response.eq_answered_of_ending ended
        simp only [answered]
        exact .answered written ended
      · have quiet : (b.served payload).response = .quiet := Response.eq_quiet_of_ending ended
        simp only [quiet]
        exact .quiet written ended still next

/-- A history is refused exactly when a host that replays it on the channel has to stop. -/
theorem withHistory_eq_error_iff (empty : E.emptyState = .ok blank)
    (replaying : b.session.phase = .replaying) (events : List E.Event) (e : HistoryError) :
    b.withHistory events = .ok (.error e) ↔
      Session.Stops b.session b.shared b.sequenceNumber events e := by
  induction events generalizing b with
  | nil => exact ⟨fun h => (nomatch h), fun h => (nomatch h)⟩
  | cons event rest ih =>
      rw [withHistory]
      have ways := replay_cases empty replaying event
      generalize b.replay event = outcome at ways
      cases ways with
      | unwritten unwritten =>
          constructor
          · rintro ⟨⟩
            exact .unwritten unwritten
          · rintro (unwritten' | ⟨written, -⟩ | ⟨written, -⟩)
            · cases unwritten.symm.trans unwritten'
              rfl
            · cases unwritten.symm.trans written
            · cases unwritten.symm.trans written
      | answered written answered =>
          constructor
          · rintro ⟨⟩
            exact .answered written answered
          · rintro (unwritten | ⟨written', answered'⟩ | ⟨written', rfl, quiet, -⟩)
            · cases written.symm.trans unwritten
            · cases written.symm.trans written'
              cases answered.symm.trans answered'
              rfl
            · cases written.symm.trans written'
              cases answered.symm.trans quiet
      | @quiet payload written quiet replaying next =>
          have later := ih replaying
          rw [next] at later
          refine later.trans ⟨fun stops => .later written rfl quiet stops, ?_⟩
          rintro (unwritten | ⟨written', answered⟩ | ⟨written', rfl, quiet', stops⟩)
          · cases written.symm.trans unwritten
          · cases written.symm.trans written'
            cases quiet.symm.trans answered
          · cases written.symm.trans written'
            exact stops

/-- A history that is not refused is what the channel has taken in quietly. -/
theorem withHistory_cases (empty : E.emptyState = .ok blank)
    (replaying : b.session.phase = .replaying) (events : List E.Event) :
    (∃ e, b.withHistory events = .ok (.error e)) ∨
      ∃ payloads, events.mapM E.events.encode = .ok payloads ∧
        let talk := b.session.converse b.shared (chronicle b.sequenceNumber payloads)
        (∀ x ∈ talk.exchanges, x.ending = .quiet) ∧ talk.session.phase = .replaying ∧
          b.withHistory events = .ok (.ok (b.moved talk.session talk.shared)) := by
  induction events generalizing b with
  | nil => exact .inr ⟨[], rfl, fun _ member => (nomatch member), replaying, rfl⟩
  | cons event rest ih =>
      rw [withHistory]
      have ways := replay_cases empty replaying event
      generalize b.replay event = outcome at ways
      cases ways with
      | unwritten unwritten => exact .inl ⟨_, rfl⟩
      | answered written answered => exact .inl ⟨_, rfl⟩
      | @quiet payload written quiet replaying next =>
          obtain refused | ⟨payloads, mapped, silent, still, replayed⟩ :=
            ih replaying
          · exact .inl refused
          · rw [next] at silent still replayed
            refine .inr ⟨payload :: payloads, ?_, ?_, still, replayed⟩
            · rw [List.mapM_cons, written, mapped]
              rfl
            · exact List.forall_mem_cons.mpr ⟨quiet, silent⟩

end Bench

theorem Activity.exists_span_of_run {M S E : Type} {board : Board} {memory after : M}
    {activity rest : Activity M S E} {span : Nat}
    (slept : activity.run board memory = (.sleeping span rest, after)) :
    ∃ n, span = n + 1 := by
  induction activity generalizing memory with
  | finished result => cases slept
  | panicked crash => cases slept
  | asleep length later ih =>
      cases length with
      | zero => exact ih slept
      | succ n => cases slept; exact ⟨n, rfl⟩
  | hung => cases slept
  | recalling next ih => exact ih memory board slept
  | remembering kept later ih => exact ih slept

theorem Verdict.ending_ne_quiet {S : Type} (v : Verdict S) (commandId : UInt64) (id : Uuid) :
    v.ending commandId id ≠ .quiet := by
  cases v <;> simp [Verdict.ending]

/-- The same but for what was written and told, and for what a handler that was given up
had still to do. -/
structure Step.Matches {E : Entity} (first second : Step E) : Prop where
  session : first.session = second.session
  shared : first.shared = second.shared
  ending : first.response.ending = second.response.ending

theorem Step.Matches.preceded {E : Entity} {first second : Step E} (h : first.Matches second)
    (notices notices' : List Notice) (calls calls' : List TraceCall) :
    (first.preceded notices calls).Matches (second.preceded notices' calls') :=
  ⟨h.session, h.shared, h.ending⟩

namespace Session

variable {E : Entity} {blank : E.State} {s : Session E}

theorem exists_span_of_advance {shared later : Shared E.Memory} {call : Call E} {span : Nat}
    {rest : Activity E.Memory E.State E.Event}
    (slept : advance shared call = (.sleeping span rest, later)) : ∃ n, span = n + 1 := by
  unfold advance at slept
  cases ran : call.activity.run shared.board shared.memory with
  | mk progress memory =>
      rw [ran] at slept
      cases progress <;> cases slept
      exact Activity.exists_span_of_run ran

/-- A call that has gone on once is seen through like one that has not. -/
theorem carry_proceed (s : Session E) (shared : Shared E.Memory) (call : Call E)
    (patience : Nat) :
    (carry (s.proceed shared call) (patience + 1)).Matches
      (s.pursue shared call (patience + 1)) := by
  unfold proceed pursue await
  cases advanced : advance shared call with
  | mk progress later =>
      cases progress with
      | ended ending =>
          simp only [carry_conclude]
          exact ⟨rfl, rfl, rfl⟩
      | sleeping span rest =>
          obtain ⟨n, rfl⟩ := exists_span_of_advance advanced
          have again : advance later ⟨call.ticket, .asleep (n + 1) rest⟩ =
              (.sleeping (n + 1) rest, later) := rfl
          simp only [carry, pursue, await, again]
          split <;> exact ⟨rfl, rfl, rfl⟩
      | hanging => exact ⟨rfl, rfl, rfl⟩

/-- Whoever sees through what was received has served the message. -/
theorem carry_receive (s : Session E) (shared : Shared E.Memory) (message : Inbound)
    (patience : Nat) :
    (carry (s.receive shared message) (patience + 1)).Matches
      (s.serve shared ⟨message, patience + 1⟩) := by
  unfold serve receive
  simp only
  generalize s.begin shared message = step
  obtain ⟨t, after, notices, calls, response⟩ := step
  cases response with
  | calling call =>
      simp only [carry_preceded]
      exact (carry_proceed t after call patience).preceded _ _ _ _
  | _ => exact ⟨rfl, rfl, rfl⟩

theorem receive_snapshotRequest (live : s.Live) (shared : Shared E.Memory)
    (request : SnapshotRequest) (patience : Nat) :
    s.receive shared (.snapshotRequest request) =
      s.serve shared ⟨.snapshotRequest request, patience⟩ := by
  simp only [receive, serve, begin_snapshotRequest_of_live live, receiveSnapshotRequest]
  rcases ({ s with phase := .active } : Session E).revive with ⟨t, notices, crash | life⟩
  · rfl
  · cases encoded : E.states.encode life.state <;> simp only [encoded] <;> rfl

end Session

namespace Bench

variable {E : Entity} {blank : E.State} {b : Bench E} {entityId : EntityId}

/-- The bench takes calls and snapshot requests for its own entity. -/
structure Ready (b : Bench E) (entityId : EntityId) : Prop where
  live : b.session.Live
  identity : b.session.identity = some entityId

def past (b : Bench E) (step : Step E) : Bench E := ⟨step.session, step.shared, b.nextId + 1⟩

def shown (turn : Turn) (step : Step E) : Finding :=
  Exchange.finding ⟨turn, step.response.ending, step.notices, step.calls⟩

/-- A call that is answered in the end is answered by the session. -/
theorem undertake_call (operation : String) (payload : Json) (patience : Nat) {step : Step E}
    (identity : b.session.identity = some entityId)
    (seen : (Session.carry (b.session.receive b.shared
      (.command (.plain b.nextId entityId operation (some payload)))) (patience + 1)).Matches step)
    (answered : step.response.ending ≠ .quiet) :
    b.undertake (.call operation payload patience) =
      (b.past step, .called step.response.ending) := by
  simp only [undertake, call, send, identity, Option.getD_some]
  generalize b.session.receive b.shared
    (.command (.plain b.nextId entityId operation (some payload))) = received at *
  obtain ⟨t, after, notices, calls, response⟩ := received
  obtain ⟨session, shared, ending⟩ := seen
  cases response with
  | quiet => exact (answered ending.symm).elim
  | calling call => simp only [pursue, past, ← session, ← shared, ← ending]; rfl
  | _ => simp only [pursue, past, ← session, ← shared, ← ending]; rfl

/-- A trial comes to what serving its message comes to. -/
theorem undertake_eq (empty : E.emptyState = .ok blank) (ready : b.Ready entityId)
    (trial : Trial) :
    let turn := trial.turn entityId b.nextId
    let step := b.session.serve b.shared turn
    b.undertake trial = (b.past step, shown turn step) ∧ (b.past step).Ready entityId := by
  intro turn step
  cases trial with
  | call operation payload patience =>
      have own : b.session.identity =
          some (Command.plain b.nextId entityId operation (some payload)).entityId := ready.identity
      obtain ⟨i, after, ended⟩ := Session.serve_command empty ready.live own b.shared
        (patience + 1)
      have after : step.session = _ := after
      have ended : step.response.ending = _ := ended
      obtain ⟨phase, -, identity⟩ := Session.settle_frame (b.session.awake blank)
        (b.session.verdict blank b.shared (.plain b.nextId entityId operation (some payload))
          (patience + 1))
      refine ⟨undertake_call operation payload patience ready.identity
        (Session.carry_receive b.session b.shared _ patience) ?_, ?_, ?_⟩
      · exact ended ▸ Verdict.ending_ne_quiet _ _ _
      · exact .inr ((congrArg Session.phase after).trans phase)
      · exact (congrArg Session.identity after).trans (identity.trans ready.identity)
  | snapshot =>
      obtain ⟨i, after, ended⟩ := Session.serve_snapshotRequest empty ready.live
        ⟨b.nextId⟩ b.shared 0
      have after : step.session = b.session.awake blank := after
      have ended : step.response.ending = _ := ended
      have received : b.session.receive b.shared (.snapshotRequest ⟨b.nextId⟩) = step :=
        Session.receive_snapshotRequest ready.live b.shared ⟨b.nextId⟩ 0
      have answered := Response.eq_answered_of_ending ended
      refine ⟨?_, ?_, ?_⟩
      · simp only [undertake, snapshot, send, received, answered, past, shown, turn, Trial.turn,
          Exchange.finding, Response.ending]
        generalize Session.portrait (b.session.life blank) b.nextId i = out
        cases out <;> rfl
      · exact .inr (congrArg Session.phase after)
      · exact (congrArg Session.identity after).trans ready.identity

theorem undertakeAll_eq (empty : E.emptyState = .ok blank) (ready : b.Ready entityId)
    (trials : List Trial) :
    let talk := b.session.converse b.shared (Trial.turns entityId b.nextId trials)
    (b.undertakeAll trials).1.session = talk.session ∧
      (b.undertakeAll trials).2 = talk.exchanges.map Exchange.finding := by
  induction trials generalizing b with
  | nil => exact ⟨rfl, rfl⟩
  | cons trial rest ih =>
      obtain ⟨undertaken, still⟩ := undertake_eq empty ready trial
      obtain ⟨session, findings⟩ := ih still
      simp only [undertakeAll, undertaken]
      exact ⟨session, congrArg (_ :: ·) findings⟩

theorem state_eq (empty : E.emptyState = .ok blank) (b : Bench E) :
    b.state = .ok (b.session.state?.getD blank) := by
  unfold state
  cases b.session.state? with
  | none => exact empty
  | some state => rfl

def channel (E : Entity) (entityId : EntityId) (shared : Shared E.Memory) : Step E :=
  (Session.fresh options : Session E).serve shared ⟨.init ⟨entityId, none⟩, 0⟩

theorem create_eq (empty : E.emptyState = .ok blank) (entityId : EntityId)
    (shared : Shared E.Memory) :
    let opened := channel E entityId shared
    create entityId shared = .ok ⟨opened.session, opened.shared, 1⟩ ∧
      opened.response.ending = .quiet ∧
      opened.session = (Session.fresh options : Session E).opened entityId (.fresh blank) := by
  intro opened
  have admits : options.Admits (Init.mk entityId none).entityId := fun _ expected =>
    nomatch expected
  have seeded : Seeded options blank (Init.mk entityId none).snapshot (.fresh blank) :=
    .none
  obtain ⟨session, ended⟩ :=
    (Session.fresh options : Session E).serve_init empty rfl admits seeded shared 0
  have session : opened.session = _ := session
  have quiet : opened.response.ending = .quiet := ended
  refine ⟨?_, quiet, session⟩
  have received : (Session.fresh options).receiveInit shared ⟨entityId, none⟩ = opened :=
    (Session.carry_receiveInit _ shared ⟨entityId, none⟩ 0).symm
  simp only [create, received, Response.eq_quiet_of_ending quiet]

/-- For an entity that has an empty state, a bench can be created. A history, given in any
split, is refused exactly when a host that replays it on a channel has to stop. Otherwise
all its events can be written and the channel takes them in quietly; and whatever is tried
then, with whatever patience, shows what the channel answers and leaves the state, the
number and the deletion that it leaves there. -/
theorem undertakeAll_rehearses (empty : E.emptyState = .ok blank) (entityId : EntityId)
    (shared : Shared E.Memory) (histories : List (List E.Event)) :
    let opened := channel E entityId shared
    opened.response.ending = .quiet ∧
      ∃ b₀, create entityId shared = .ok b₀ ∧
        (∀ e, b₀.withHistories histories = .ok (.error e) ↔
          Session.Stops opened.session opened.shared 0 histories.flatten e) ∧
        ((∃ e, b₀.withHistories histories = .ok (.error e)) ∨
          ∃ b payloads, b₀.withHistories histories = .ok (.ok b) ∧
            histories.flatten.mapM E.events.encode = .ok payloads ∧
            let recovered := opened.session.converse opened.shared (chronicle 0 payloads)
            (∀ x ∈ recovered.exchanges, x.ending = .quiet) ∧
              ∀ trials,
                let talk := recovered.session.converse recovered.shared
                  (Trial.turns entityId 1 trials)
                let after := (b.undertakeAll trials).1
                (b.undertakeAll trials).2 = talk.exchanges.map Exchange.finding ∧
                  after.state = .ok (talk.session.state?.getD blank) ∧
                  after.sequenceNumber = talk.session.sequenceNumber?.getD 0 ∧
                  after.isDeleted = talk.session.deleted) := by
  intro opened
  obtain ⟨created, quiet, session⟩ := create_eq empty entityId shared
  have session : opened.session = _ := session
  let b₀ : Bench E := ⟨opened.session, opened.shared, 1⟩
  have replaying : b₀.session.phase = .replaying := congrArg Session.phase session
  have start : b₀.sequenceNumber = 0 := congrArg (fun s => s.sequenceNumber?.getD 0) session
  refine ⟨quiet, b₀, created, fun e => ?_, ?_⟩
  · rw [withHistories_eq, withHistory_eq_error_iff empty replaying, start]
  · rw [withHistories_eq]
    refine (withHistory_cases empty replaying histories.flatten).imp id ?_
    rintro ⟨payloads, written, silent, still, replayed⟩
    rw [start] at silent still replayed
    refine ⟨_, payloads, replayed, written, silent, fun trials => ?_⟩
    let recovered := b₀.session.converse b₀.shared (chronicle 0 payloads)
    have alive : recovered.session.phase ≠ .terminated := by
      rw [show recovered.session.phase = .replaying from still]
      decide
    obtain ⟨live, -, identity⟩ :=
      Session.frame_converse empty (.inl replaying) b₀.shared (chronicle 0 payloads) alive
    have ready : (b₀.moved recovered.session recovered.shared).Ready entityId :=
      ⟨live, identity.trans (congrArg Session.identity session)⟩
    obtain ⟨same, findings⟩ := undertakeAll_eq empty ready trials
    refine ⟨findings, ?_, ?_, ?_⟩
    · rw [state_eq empty, same]
      rfl
    · rw [sequenceNumber, same]
      rfl
    · rw [isDeleted, same]
      rfl

/-- A counter with two events behind it, given one by one, is deleted on the bench and on
the channel alike, and starts again from the empty state. -/
theorem undertakeAll_rehearses_counter :
    let opened := channel Samples.Counter.entity ⟨"c"⟩ Samples.Counter.host
    let payloads := [Samples.CounterEvent.increased 4, .increased 1].map Samples.CounterEvent.toJson
    let trials : List Trial := [.call "delete" .null 0, .snapshot, .call "get" .null 3]
    let recovered := opened.session.converse opened.shared (chronicle 0 payloads)
    let talk := recovered.session.converse recovered.shared (Trial.turns ⟨"c"⟩ 1 trials)
    ∃ b₀ b : Bench Samples.Counter.entity,
      create ⟨"c"⟩ Samples.Counter.host = .ok b₀ ∧
        b₀.withHistories [[.increased 4], [.increased 1]] = .ok (.ok b) ∧
        (b.undertakeAll trials).2 = talk.exchanges.map Exchange.finding ∧
        (b.undertakeAll trials).1.isDeleted = false ∧
        (b.undertakeAll trials).1.state = .ok ⟨0⟩ := by
  intro opened payloads trials recovered talk
  obtain ⟨-, b₀, created, -, refused | ⟨b, _, taken, written, -, same⟩⟩ :=
    @undertakeAll_rehearses Samples.Counter.entity ⟨0⟩ rfl ⟨"c"⟩ Samples.Counter.host
      [[.increased 4], [.increased 1]]
  · cases created
    obtain ⟨e, refused⟩ := refused
    cases refused
  · cases written
    obtain ⟨findings, state, -, deleted⟩ := same trials
    refine ⟨b₀, b, created, taken, findings, deleted.trans (by decide), state.trans ?_⟩
    rfl

end Bench

end EntityEngine
