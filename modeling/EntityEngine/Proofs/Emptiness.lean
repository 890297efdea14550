import EntityEngine.Proofs.Policies
import EntityEngine.Proofs.Refusals
import EntityEngine.Proofs.Replacement

/-!
# What the empty state can change

A life that was seeded from a snapshot does not come from the empty state, so another empty
state should make no difference to it. Two entities are compared that differ in nothing else.
Their channels answer alike until an event comes that is to be applied: while that is done the
empty state stands in for the state, and if only one of the two entities has one, only the
other one crashes. If the event panics, each channel ends with its own empty state.
-/

namespace EntityEngine

/-- The same entity type with another empty state. -/
abbrev Entity.withEmpty (E : Entity) (empty : Attempt E.State) : Entity :=
  { E with emptyState := empty }

theorem Entity.dispatch_withEmpty (E : Entity) (empty : Attempt E.State) (operation : String)
    (state : E.State) (context : Context) (payload : Option Json) :
    (E.withEmpty empty).dispatch operation state context payload =
      E.dispatch operation state context payload := by
  have router : (E.withEmpty empty).router.handler? operation = E.router.handler? operation := rfl
  unfold Entity.dispatch
  rw [router]
  cases E.router.handler? operation with
  | none => rfl
  | some r =>
      simp only
      cases r.launch state context (payload.getD .null) <;> rfl

/-- The same ending, but for the correlation id of a failure or the message of a crash. -/
inductive Ending.UpToCrash : Ending → Ending → Prop
  | alike {x y : Ending} (alike : x.Alike y) : UpToCrash x y
  | crashed (crash other : Crash) : UpToCrash (.crashed crash) (.crashed other)

/-- Only crashes look like crashes. -/
theorem Ending.UpToCrash.crashed_iff {x y : Ending} (h : x.UpToCrash y) :
    (∃ crash, x = .crashed crash) ↔ ∃ crash, y = .crashed crash := by
  cases h with
  | alike alike =>
      cases alike with
      | same => rfl
      | failures => exact ⟨fun ⟨_, same⟩ => (nomatch same), fun ⟨_, same⟩ => (nomatch same)⟩
  | crashed crash other => exact ⟨fun _ => ⟨other, rfl⟩, fun _ => ⟨crash, rfl⟩⟩

def Exchange.UpToCrash (x y : Exchange) : Prop := x.turn = y.turn ∧ x.ending.UpToCrash y.ending

variable {E : Entity} {empty : Attempt E.State}

/-- A call of the entity with another empty state. -/
def Call.over (call : Call E) (empty : Attempt E.State) : Call (E.withEmpty empty) :=
  ⟨call.ticket, call.activity⟩

/-- The session of the entity with another empty state. -/
def Session.over (s : Session E) (empty : Attempt E.State) : Session (E.withEmpty empty) :=
  ⟨s.options, s.phase, s.identity, s.incarnation, s.deleted⟩

inductive Response.UpToCrash : Response E → Response (E.withEmpty empty) → Prop
  | quiet : UpToCrash .quiet .quiet
  | answered {message other : Outbound}
      (alike : Ending.Alike (.answered message) (.answered other)) :
      UpToCrash (.answered message) (.answered other)
  | crashed (crash other : Crash) : UpToCrash (.crashed crash) (.crashed other)
  | calling (call : Call E) : UpToCrash (.calling call) (.calling (call.over empty))

/-- The session has ended, or it is live and has a life. -/
inductive Session.ClosedOrLiving (s : Session E) : Prop
  | closed (closed : s.phase = .terminated) : ClosedOrLiving s
  | live {life : Incarnation E.State} (live : s.Live) (living : s.incarnation = some life) :
      ClosedOrLiving s

/-- Two steps that can be told apart by correlation ids and messages of crashes only. If they
delete nothing, there is a life as before. -/
structure Step.UpToCrash (first : Step E) (second : Step (E.withEmpty empty)) : Prop where
  session : second.session = first.session.over empty
  shared : first.shared.Agrees second.shared
  response : first.response.UpToCrash second.response
  closedOrLiving : first.response.ending.deletes = false → first.session.ClosedOrLiving

theorem Response.UpToCrash.ending {first : Response E} {second : Response (E.withEmpty empty)}
    (h : first.UpToCrash second) : first.ending.UpToCrash second.ending := by
  cases h with
  | quiet => exact .alike (.same _)
  | answered alike => exact .alike alike
  | crashed crash other => exact .crashed crash other
  | calling call => exact .alike (.same _)

theorem Step.UpToCrash.preceded {first : Step E} {second : Step (E.withEmpty empty)}
    (h : first.UpToCrash second) (notices notices' : List Notice) (calls calls' : List TraceCall) :
    (first.preceded notices calls).UpToCrash (second.preceded notices' calls') :=
  ⟨h.session, h.shared, h.response, h.closedOrLiving⟩

namespace Session

variable {s : Session E} {shared shared' : Shared E.Memory} {life : Incarnation E.State}

theorem present_over (living : s.incarnation = some life) :
    (s.over empty).present = .ok life := by
  have living : (s.over empty).incarnation = some life := living
  simp only [present, living]

theorem endIfFatal_over (s : Session E) (severity : Severity) :
    (s.over empty).endIfFatal severity = (s.endIfFatal severity).over empty := by
  have same : (s.over empty).phase = s.phase := rfl
  unfold endIfFatal
  rw [same]
  split <;> rfl

theorem closedOrLiving_endIfFatal (live : s.Live) (living : s.incarnation = some life)
    (severity : Severity) : (s.endIfFatal severity).ClosedOrLiving := by
  unfold endIfFatal
  split
  · exact .closed rfl
  · exact .live live living

theorem upToCrash_violate (s : Session E) (agree : shared.Agrees shared') (violation : Violation)
    (commandId : Option UInt64) :
    (s.violate shared violation commandId).UpToCrash
      ((s.over empty).violate shared' violation commandId) :=
  ⟨endIfFatal_over s .protocol, agree.draw, .answered (.failures _ _ _ _), fun _ => .closed rfl⟩

theorem upToCrash_failRecovery (live : s.Live) (living : s.incarnation = some life)
    (agree : shared.Agrees shared') (error : RecoveryError) :
    (s.failRecovery shared error).UpToCrash ((s.over empty).failRecovery shared' error) :=
  ⟨endIfFatal_over s .unexpected, agree.draw, .answered (.failures _ "unexpected error [" _ _),
    fun _ => closedOrLiving_endIfFatal live living _⟩

theorem upToCrash_refuse (live : s.Live) (living : s.incarnation = some life)
    (agree : shared.Agrees shared') (ticket : Ticket) (error : CommandError) :
    (s.refuse shared ticket error).UpToCrash ((s.over empty).refuse shared' ticket error) := by
  have closedOrLiving (severity : Severity) := closedOrLiving_endIfFatal live living severity
  unfold refuse
  cases error.severity with
  | validation =>
      exact ⟨endIfFatal_over s .validation, agree, .answered (.same _),
        fun _ => closedOrLiving .validation⟩
  | protocol =>
      exact ⟨endIfFatal_over s .protocol, agree.draw,
        .answered (.failures _ "unexpected error [" _ _), fun _ => closedOrLiving .protocol⟩
  | unexpected =>
      exact ⟨endIfFatal_over s .unexpected, agree.draw,
        .answered (.failures _ "unexpected error [" _ _), fun _ => closedOrLiving .unexpected⟩

theorem commit_over (s : Session E) (result : CommandResult E.State) :
    (s.over empty).commit result = (s.commit result).over empty := by
  unfold commit
  cases result.deletes <;> rfl

theorem upToCrash_succeed (live : s.Live) (living : s.incarnation = some life)
    (agree : shared.Agrees shared') (ticket : Ticket) (result : CommandResult E.State) :
    (s.succeed shared ticket result).UpToCrash ((s.over empty).succeed shared' ticket result) := by
  refine ⟨commit_over s result, agree, .answered (.same _), fun keeps => ?_⟩
  have keeps : result.deletes = false := by
    simpa [succeed, Response.ending, Ending.deletes, Ending.reply?, Outbound.reply?] using keeps
  simp only [succeed, commit, keeps, living, Option.map_some, Bool.false_eq_true, if_false]
  exact .live live rfl

theorem upToCrash_conclude (live : s.Live) (living : s.incarnation = some life)
    (agree : shared.Agrees shared') (ticket : Ticket)
    (ending : Except CommandError (Effect E.State E.Event)) :
    (s.conclude shared ticket ending).UpToCrash
      ((s.over empty).conclude shared' ticket ending) := by
  have closed := UpToSnapshot.abandon agree ticket
  have here : s.present = .ok life := by simp only [present, living]
  unfold conclude
  cases ending with
  | error e => exact upToCrash_refuse live living closed ticket e
  | ok effect =>
      have policy : (s.over empty).options.policy = s.options.policy := rfl
      have mechanics : (E.withEmpty empty).mechanics = E.mechanics := rfl
      have model : (E.withEmpty empty).model = E.model := rfl
      simp only [here, present_over living]
      rw [mechanics, model, policy]
      let t : Session E := { s with incarnation := some life }
      cases effect.interpret E.mechanics life.state
        ⟨ticket.operation, E.model, s.options.policy, ticket.sequenceNumber⟩ with
      | error defect => exact upToCrash_refuse (s := t) live rfl closed ticket _
      | ok result => exact upToCrash_succeed (s := t) live rfl closed ticket result

theorem upToCrash_launch (live : s.Live) (living : s.incarnation = some life)
    (agree : shared.Agrees shared') (command : Command) :
    (s.launch shared command life).UpToCrash ((s.over empty).launch shared' command life) := by
  have options : (s.over empty).options = s.options := rfl
  unfold launch
  simp only [agree.board, E.dispatch_withEmpty, options]
  generalize shared'.board.openContext command.entityId life.position.current command.operation
    command.commandId command.metadata _ = opened
  obtain ⟨context, board⟩ := opened
  have opened : Shared.Agrees { shared with board } { shared' with board } := ⟨agree.memory, rfl⟩
  rcases E.dispatch command.operation life.state context command.payload with
    error | crash | activity
  · exact (upToCrash_conclude live living opened _ _).preceded _ _ _ _
  · exact ⟨rfl, UpToSnapshot.abandon opened _, .crashed crash crash, fun _ => .live live living⟩
  · exact ⟨rfl, opened, .calling _, fun _ => .live live living⟩

theorem revive_of_living (living : s.incarnation = some life) :
    s.revive = (s, [], .ok life) := by
  obtain ⟨options, phase, identity, incarnation, deleted⟩ := s
  obtain rfl : incarnation = some life := living
  rfl

theorem upToCrash_receiveCommand (live : s.Live) (living : s.incarnation = some life)
    (agree : shared.Agrees shared') (command : Command) :
    (s.receiveCommand shared command).UpToCrash
      ((s.over empty).receiveCommand shared' command) := by
  have identity : (s.over empty).identity = s.identity := rfl
  have blank : (s.over empty).identityOrBlank = s.identityOrBlank := rfl
  have living' : (s.over empty).incarnation = some life := living
  unfold receiveCommand
  rw [identity, blank, revive_of_living living, revive_of_living living']
  split
  · exact (upToCrash_launch live living agree command).preceded _ _ _ _
  · exact upToCrash_violate s agree _ _

theorem upToCrash_receiveSnapshotRequest (live : s.Live) (living : s.incarnation = some life)
    (agree : shared.Agrees shared') (request : SnapshotRequest) :
    (s.receiveSnapshotRequest shared request).UpToCrash
      ((s.over empty).receiveSnapshotRequest shared' request) := by
  have living' : (s.over empty).incarnation = some life := living
  unfold receiveSnapshotRequest
  rw [revive_of_living living, revive_of_living living']
  simp only
  cases E.states.encode life.state with
  | ok state => exact ⟨rfl, agree, .answered (.same _), fun _ => .live live living⟩
  | error e => exact (upToCrash_failRecovery live living agree _).preceded _ _ _ _

theorem await_over (empty : Attempt E.State) (ticket : Ticket) (patience : Nat)
    (activity : Activity E.Memory E.State E.Event) (shared : Shared E.Memory) :
    await (E := E.withEmpty empty) ticket patience activity shared =
      await (E := E) ticket patience activity shared := by
  induction patience generalizing activity shared with
  | zero => rfl
  | succ patience ih =>
      unfold await advance
      simp only
      cases activity.run shared.board shared.memory with
      | mk progress memory =>
        cases progress with
        | sleeping span rest => exact ih rest _
        | _ => rfl

theorem upToCrash_pursue (live : s.Live) (living : s.incarnation = some life)
    (agree : shared.Agrees shared') (call : Call E) (patience : Nat) :
    (s.pursue shared call patience).UpToCrash
      ((s.over empty).pursue shared' (call.over empty) patience) := by
  obtain ⟨same, later⟩ := UpToSnapshot.await call.ticket patience call.activity agree
  unfold pursue
  simp only [Call.over]
  rw [await_over empty call.ticket patience call.activity shared']
  generalize await call.ticket patience call.activity shared = first at *
  generalize await (E := E) call.ticket patience call.activity shared' = second at *
  obtain ⟨ending, after⟩ := first
  obtain ⟨ending', after'⟩ := second
  obtain rfl : ending = ending' := same
  cases ending with
  | some ending => exact upToCrash_conclude live living later call.ticket ending
  | none =>
      exact ⟨rfl, UpToSnapshot.abandon later call.ticket, .calling call, fun _ => .live live living⟩

/-- The message is an event of the history that is to be applied to this state. -/
inductive Reaches (s : Session E) : Inbound → E.State → E.Event → Prop
  | mk {record : EventRecord} {life : Incarnation E.State} {event : E.Event}
      (replaying : s.phase = .replaying) (living : s.incarnation = some life)
      (next : record.sequenceNumber = life.position.current + 1)
      (decodes : E.events.decode record.payload = .ok event) :
      Reaches s (.event record) life.state event

/-- The session with another state in its life. -/
def restated (s : Session E) (state : E.State) : Session E :=
  { s with incarnation := s.incarnation.map fun life => { life with state } }

/-- Two steps that end their sessions, with a state that need not be the same. -/
structure EndTogether (first : Step E) (second : Step (E.withEmpty empty)) : Prop where
  session : ∃ other, second.session = (first.session.restated other).over empty
  closed : first.session.phase = .terminated
  response : first.response.UpToCrash second.response

/-- How two sessions take the same event when an event can be applied in both or in neither. -/
inductive ReceivesAlike (s : Session E) (message : Inbound) (first : Step E)
    (second : Step (E.withEmpty empty)) : Prop
  | upToCrash (upToCrash : first.UpToCrash second) : ReceivesAlike s message first second
  | panics {state : E.State} {event : E.Event} {crash : Crash}
      (reaches : s.Reaches message state event) (panics : E.apply state event = .error crash)
      (endTogether : EndTogether first second) : ReceivesAlike s message first second

theorem receivesAlike_receiveEvent (replaying : s.phase = .replaying)
    (living : s.incarnation = some life) (agree : shared.Agrees shared') (record : EventRecord)
    (level : ∀ state event, s.Reaches (.event record) state event →
      E.emptyState.isOk = empty.isOk) :
    ReceivesAlike s (.event record) (s.receiveEvent shared record)
      ((s.over empty).receiveEvent shared' record) := by
  have live : s.Live := .inl replaying
  have here : s.present = .ok life := by simp only [present, living]
  unfold receiveEvent
  simp only [here, present_over living]
  cases advanced : life.position.replay record.sequenceNumber with
  | error violation => exact .upToCrash (upToCrash_violate (s.replayed life) agree violation none)
  | ok position =>
      obtain ⟨next, rfl⟩ := LogPosition.replay_eq_ok_iff.mp advanced
      let t : Session E := s.replayed (life.counted record.sequenceNumber)
      have liveT : t.Live := live
      cases decodes : E.events.decode record.payload with
      | error e => exact .upToCrash (upToCrash_failRecovery (s := t) liveT rfl agree _)
      | ok event =>
          have reaches : s.Reaches (.event record) life.state event :=
            .mk replaying living next decodes
          have even := level _ _ reaches
          cases mine : E.emptyState with
          | error crash =>
              rw [mine] at even
              cases empty with
              | error other =>
                  exact .upToCrash ⟨rfl, agree, .crashed crash other, fun _ => .live liveT rfl⟩
              | ok blank => cases even
          | ok blank =>
              rw [mine] at even
              cases empty with
              | error crash => cases even
              | ok other =>
                  simp only
                  cases applies : E.apply life.state event with
                  | ok state => exact .upToCrash ⟨rfl, agree, .quiet, fun _ => .live live rfl⟩
                  | error crash =>
                      let left (state : E.State) : Session E :=
                        s.replayed { life.counted record.sequenceNumber with state }
                      have inactive : s.phase ≠ .active := by simp [replaying]
                      let error := RecoveryError.applyPanicked record.sequenceNumber
                      have first := session_failRecovery (s := left blank) inactive shared error
                      have second := session_failRecovery (s := (left other).over (.ok other))
                        inactive shared' error
                      refine .panics reaches applies ⟨⟨other, ?_⟩, congrArg Session.phase first,
                        .answered (.failures _ "unexpected error [" _ _)⟩
                      exact second.trans
                        (congrArg (fun u : Session E => (u.restated other).over _) first.symm)

theorem receivesAlike_begin (live : s.Live) (living : s.incarnation = some life)
    (agree : shared.Agrees shared') (message : Inbound)
    (level : ∀ state event, s.Reaches message state event → E.emptyState.isOk = empty.isOk) :
    ReceivesAlike s message (s.begin shared message) ((s.over empty).begin shared' message) := by
  have live' : (s.over empty).Live := live
  have phase : (s.over empty).phase = s.phase := rfl
  let t : Session E := { s with phase := .active }
  have awake : t.Live := .inr rfl
  cases message with
  | init init =>
      rcases live with h | h <;> simp only [begin, phase, h] <;>
        exact .upToCrash (upToCrash_violate s agree _ none)
  | event record =>
      rcases live with replaying | active
      · simp only [begin, phase, replaying]
        exact receivesAlike_receiveEvent replaying living agree record level
      · simp only [begin, phase, active]
        exact .upToCrash (upToCrash_violate s agree _ none)
  | command command =>
      rw [begin_command_of_live live, begin_command_of_live live']
      exact .upToCrash (upToCrash_receiveCommand (s := t) awake living agree command)
  | snapshotRequest request =>
      rw [begin_snapshotRequest_of_live live, begin_snapshotRequest_of_live live']
      exact .upToCrash (upToCrash_receiveSnapshotRequest (s := t) awake living agree request)

theorem EndTogether.carry {first : Step E} {second : Step (E.withEmpty empty)}
    (h : EndTogether first second) (idle : ∀ call, first.response ≠ .calling call)
    (patience : Nat) :
    EndTogether (carry first patience) (carry second patience) := by
  obtain ⟨t, after, notices, calls, response⟩ := first
  obtain ⟨u, after', notices', calls', response'⟩ := second
  obtain ⟨session, closed, response⟩ := h
  cases response with
  | calling call => exact (idle call rfl).elim
  | quiet => exact ⟨session, closed, .quiet⟩
  | answered alike => exact ⟨session, closed, .answered alike⟩
  | crashed crash other => exact ⟨session, closed, .crashed crash other⟩

theorem upToCrash_carry {first : Step E} {second : Step (E.withEmpty empty)}
    (h : first.UpToCrash second)
    (called : ∀ call, first.response = .calling call →
      first.session.Live ∧ ∃ life, first.session.incarnation = some life) (patience : Nat) :
    (carry first patience).UpToCrash (carry second patience) := by
  obtain ⟨t, after, notices, calls, response⟩ := first
  obtain ⟨u, after', notices', calls', response'⟩ := second
  obtain ⟨session, agree, response, closedOrLiving⟩ := h
  cases response with
  | quiet => exact ⟨session, agree, .quiet, closedOrLiving⟩
  | answered alike => exact ⟨session, agree, .answered alike, closedOrLiving⟩
  | crashed crash other => exact ⟨session, agree, .crashed crash other, closedOrLiving⟩
  | calling call =>
      obtain ⟨live, life, living⟩ := called call rfl
      obtain rfl : u = t.over empty := session
      exact (upToCrash_pursue live living agree call patience).preceded _ _ _ _

theorem receivesAlike_serve (live : s.Live) (living : s.incarnation = some life)
    (agree : shared.Agrees shared') (turn : Turn)
    (level : ∀ state event, s.Reaches turn.message state event →
      E.emptyState.isOk = empty.isOk) :
    ReceivesAlike s turn.message (s.serve shared turn) ((s.over empty).serve shared' turn) := by
  have marks := marksDeletions_begin s shared turn.message
  cases receivesAlike_begin live living agree turn.message level with
  | upToCrash upToCrash =>
      refine .upToCrash (upToCrash_carry upToCrash (fun call calling => ?_) turn.patience)
      have active := marks.calls call calling
      have closedOrLiving : (s.begin shared turn.message).session.ClosedOrLiving :=
        upToCrash.closedOrLiving (by rw [calling]; rfl)
      cases closedOrLiving with
      | closed closed => rw [active] at closed; cases closed
      | live live living => exact ⟨live, _, living⟩
  | panics reaches panics endTogether =>
      refine .panics reaches panics (endTogether.carry (fun call calling => ?_) turn.patience)
      have active := marks.calls call calling
      rw [endTogether.closed] at active
      cases active

theorem converse_closed {u : Session (E.withEmpty empty)} (closed : s.phase = .terminated)
    (closed' : u.phase = .terminated) (shared shared' : Shared E.Memory) (turns : List Turn) :
    List.Forall₂ Exchange.UpToCrash (s.converse shared turns).exchanges
      (u.converse shared' turns).exchanges := by
  induction turns generalizing shared shared' with
  | nil => exact .nil
  | cons turn rest ih =>
      obtain ⟨same, ending⟩ := serve_terminated closed shared turn
      obtain ⟨same', ending'⟩ := serve_terminated closed' shared' turn
      simp only [converse]
      rw [same, same', ending, ending']
      exact .cons ⟨rfl, .alike (.same _)⟩ (ih _ _)

/-- The run of the second entity looks like that of the first one, and ends in the same
session, unless an event has panicked. -/
structure RunsAlike (s : Session E) (shared : Shared E.Memory) (turns : List Turn)
    (second : Conversation (E.withEmpty empty)) : Prop where
  exchanges : List.Forall₂ Exchange.UpToCrash (s.converse shared turns).exchanges second.exchanges
  session : second.session = (s.converse shared turns).session.over empty ∨
    (∃ other, second.session = ((s.converse shared turns).session.restated other).over empty) ∧
      ∃ before turn after state event crash, turns = before ++ turn :: after ∧
        (s.converse shared before).session.Reaches turn.message state event ∧
          E.apply state event = .error crash

theorem RunsAlike.cons {turn : Turn} {rest : List Turn}
    (upToCrash : (s.serve shared turn).UpToCrash ((s.over empty).serve shared' turn))
    (later : RunsAlike (s.serve shared turn).session (s.serve shared turn).shared rest
      (((s.serve shared turn).session.over empty).converse
        ((s.over empty).serve shared' turn).shared rest)) :
    RunsAlike s shared (turn :: rest) ((s.over empty).converse shared' (turn :: rest)) := by
  rw [← upToCrash.session] at later
  refine ⟨.cons ⟨rfl, upToCrash.response.ending⟩ later.exchanges, ?_⟩
  obtain same | ⟨parted, before, next, after, state, event, crash, split, panics⟩ := later.session
  · exact .inl same
  · exact .inr ⟨parted, turn :: before, next, after, state, event, crash,
      by rw [split, List.cons_append], panics⟩

/-- What can be seen of the two sessions in the end. -/
theorem RunsAlike.looks {turns : List Turn} {second : Conversation (E.withEmpty empty)}
    (h : RunsAlike s shared turns second) :
    let first := s.converse shared turns
    second.session.phase = first.session.phase ∧
      second.session.identity = first.session.identity ∧
      second.session.sequenceNumber? = first.session.sequenceNumber? ∧
      second.session.lastSnapshot? = first.session.lastSnapshot? ∧
      second.session.deleted = first.session.deleted ∧
      (second.session.state? = first.session.state? ∨
        ∃ before turn after state event crash, turns = before ++ turn :: after ∧
          (s.converse shared before).session.Reaches turn.message state event ∧
            E.apply state event = .error crash) := by
  intro first
  obtain same | ⟨⟨other, parted⟩, panicked⟩ := h.session
  · rw [same]
    exact ⟨rfl, rfl, rfl, rfl, rfl, .inl rfl⟩
  · have number : second.session.sequenceNumber? = first.session.sequenceNumber? := by
      rw [parted]
      exact Option.map_map _ _ _
    have snapshot : second.session.lastSnapshot? = first.session.lastSnapshot? := by
      rw [parted]
      exact Option.map_map _ _ _
    refine ⟨?_, ?_, number, snapshot, ?_, .inr panicked⟩ <;> rw [parted] <;> rfl

theorem runsAlike_converse (closedOrLiving : s.ClosedOrLiving) (agree : shared.Agrees shared')
    (turns : List Turn)
    (keeps : ∀ x ∈ (s.converse shared turns).exchanges, x.ending.deletes = false)
    (level : ∀ before turn after state event, turns = before ++ turn :: after →
      (s.converse shared before).session.Reaches turn.message state event →
        E.emptyState.isOk = empty.isOk) :
    RunsAlike s shared turns ((s.over empty).converse shared' turns) := by
  induction turns generalizing s shared shared' with
  | nil => exact ⟨.nil, .inl rfl⟩
  | cons turn rest ih =>
      cases closedOrLiving with
      | closed closed =>
          refine ⟨converse_closed (u := s.over empty) closed closed shared shared' _, .inl ?_⟩
          rw [converse_terminated closed, converse_terminated (s := s.over empty) closed]
      | live live living =>
          obtain ⟨kept, keeps⟩ := List.forall_mem_cons.mp keeps
          cases receivesAlike_serve live living agree turn (fun state event reaches =>
            level [] turn rest state event rfl reaches) with
          | upToCrash upToCrash =>
              exact .cons upToCrash (ih (upToCrash.closedOrLiving kept) upToCrash.shared keeps
                fun before next after state event split reaches =>
                  level (turn :: before) next after state event
                    (by rw [split, List.cons_append]) reaches)
          | @panics state event crash reaches panics endTogether =>
              obtain ⟨⟨other, session⟩, closed, response⟩ := endTogether
              have closed' : ((s.over empty).serve shared' turn).session.phase = .terminated := by
                rw [session]
                exact closed
              refine ⟨.cons ⟨rfl, response.ending⟩ (converse_closed closed closed' _ _ rest),
                .inr ⟨⟨other, ?_⟩, [], turn, rest, state, event, crash, rfl, reaches, panics⟩⟩
              simp only [converse]
              rw [converse_terminated closed, converse_terminated closed', session]

/-- An event that is to be applied crashes the call exactly if there is no empty state. -/
theorem crashed_of_reaches {message : Inbound} {state : E.State} {event : E.Event}
    (reaches : s.Reaches message state event) (shared : Shared E.Memory) (patience : Nat) :
    (∃ crash, (s.serve shared ⟨message, patience⟩).response.ending = .crashed crash) ↔
      E.emptyState.isOk = false := by
  cases reaches with
  | @mk record life event replaying living next decodes =>
      have taken := takes_receiveEvent replaying living shared record
      rw [serve_replaying replaying]
      generalize (s.receiveEvent shared record).response.ending = ending at *
      generalize (s.receiveEvent shared record).session = after at *
      cases taken with
      | applied empty => simp [empty, Except.isOk, Except.toBool]
      | misnumbered gap => exact (gap next).elim
      | undecodable _ fails => cases decodes.symm.trans fails
      | unprepared _ _ unwinds => simp [unwinds, Except.isOk, Except.toBool]
      | panicked _ _ empty => simp [empty, Except.isOk, Except.toBool]

theorem Reaches.over {message : Inbound} {state : E.State} {event : E.Event}
    (reaches : s.Reaches message state event) :
    (s.over empty).Reaches message state event := by
  cases reaches with
  | mk replaying living next decodes =>
      exact @Reaches.mk (E.withEmpty empty) (s.over empty) _ _ _ replaying living next decodes

theorem Reaches.replaying {message : Inbound} {state : E.State} {event : E.Event}
    (reaches : s.Reaches message state event) : s.phase = .replaying := by
  cases reaches with
  | mk replaying => exact replaying

/-- A message is taken alike although it comes to apply an event only if both entities have
an empty state or neither of them does. -/
theorem isOk_eq_of_serve {turn : Turn} {state : E.State} {event : E.Event}
    (reaches : s.Reaches turn.message state event)
    (same : (s.serve shared turn).response.ending.UpToCrash
      ((s.over empty).serve shared' turn).response.ending) :
    E.emptyState.isOk = empty.isOk := by
  have mine := crashed_of_reaches reaches shared turn.patience
  have reaches' : (s.over empty).Reaches turn.message state event := reaches.over
  have other := crashed_of_reaches reaches' shared' turn.patience
  have both : E.emptyState.isOk = false ↔ empty.isOk = false := by
    rw [← mine, ← other]
    exact same.crashed_iff
  cases first : E.emptyState.isOk <;> cases second : empty.isOk <;> simp_all

theorem isOk_eq_of_upToCrash (closedOrLiving : s.ClosedOrLiving) (agree : shared.Agrees shared')
    {before : List Turn} {turn : Turn} {after : List Turn}
    (keeps : ∀ x ∈ (s.converse shared (before ++ turn :: after)).exchanges,
      x.ending.deletes = false)
    (same : List.Forall₂ Exchange.UpToCrash (s.converse shared (before ++ turn :: after)).exchanges
      ((s.over empty).converse shared' (before ++ turn :: after)).exchanges)
    {state : E.State} {event : E.Event}
    (reaches : (s.converse shared before).session.Reaches turn.message state event) :
    E.emptyState.isOk = empty.isOk := by
  induction before generalizing s shared shared' with
  | nil =>
      obtain ⟨⟨-, first⟩, -⟩ := List.forall₂_cons.mp same
      exact isOk_eq_of_serve reaches first
  | cons turn' rest ih =>
      obtain ⟨⟨-, first⟩, same⟩ := List.forall₂_cons.mp same
      obtain ⟨kept, keeps⟩ := List.forall_mem_cons.mp keeps
      cases closedOrLiving with
      | closed closed =>
          have replaying := reaches.replaying
          rw [converse_terminated closed, closed] at replaying
          cases replaying
      | live live living =>
          by_cases sooner : ∃ state event, s.Reaches turn'.message state event
          · obtain ⟨state, event, reaches⟩ := sooner
            exact isOk_eq_of_serve reaches first
          · have level : ∀ state event, s.Reaches turn'.message state event →
                E.emptyState.isOk = empty.isOk :=
              fun state event reaches => (sooner ⟨state, event, reaches⟩).elim
            cases receivesAlike_serve live living agree turn' level with
            | upToCrash upToCrash =>
                rw [upToCrash.session] at same
                exact ih (upToCrash.closedOrLiving kept) upToCrash.shared keeps same reaches
            | panics reaches => exact (sooner ⟨_, _, reaches⟩).elim

theorem upToCrash_init (waiting : s.phase = .awaitingInit)
    (seeds : s.options.ignoreInitSnapshot = false) (id : EntityId) {snapshot : Snapshot}
    {state : E.State} (decodes : E.states.decode snapshot.state = .ok state)
    (agree : shared.Agrees shared') (patience : Nat) :
    (s.serve shared ⟨.init ⟨id, some snapshot⟩, patience⟩).UpToCrash
      ((s.over empty).serve shared' ⟨.init ⟨id, some snapshot⟩, patience⟩) := by
  have waiting' : (s.over empty).phase = .awaitingInit := waiting
  have options : (s.over empty).options = s.options := rfl
  have plain := plain_receiveInit s shared ⟨id, some snapshot⟩
  have plain' := plain_receiveInit (s.over empty) shared' ⟨id, some snapshot⟩
  rw [serve, serve, begin_init waiting, begin_init waiting', carry_of_plain plain,
    carry_of_plain plain']
  unfold receiveInit
  rw [options]
  cases s.options.expectedEntity.filter (· ≠ id) with
  | some expected => exact upToCrash_violate s agree _ none
  | none =>
      simp only [admitSnapshot, seeds, seed, decodes, Bool.false_eq_true, if_false]
      exact ⟨rfl, agree, .quiet, fun _ => .live (.inl rfl) rfl⟩

/-- A channel is seeded from a snapshot and never deletes its entity. A channel of the entity
with another empty state answers the same messages alike exactly if no event ever comes to be
applied, or both empty states can be had, or neither of them can. Both channels then come to
the same phase and the same numbers, and to the same state unless an event has panicked. -/
theorem converse_seeded (o : Options) (seeds : o.ignoreInitSnapshot = false) (id : EntityId)
    {snapshot : Snapshot} {state : E.State} (decodes : E.states.decode snapshot.state = .ok state)
    (agree : shared.Agrees shared') (patience : Nat) (turns : List Turn) :
    let all := ⟨.init ⟨id, some snapshot⟩, patience⟩ :: turns
    let first := (fresh o : Session E).converse shared all
    let second := (fresh o : Session (E.withEmpty empty)).converse shared' all
    (∀ x ∈ first.exchanges, x.ending.deletes = false) →
      (List.Forall₂ Exchange.UpToCrash first.exchanges second.exchanges ↔
        ∀ before turn after state event, all = before ++ turn :: after →
          ((fresh o : Session E).converse shared before).session.Reaches turn.message state event →
            E.emptyState.isOk = empty.isOk) ∧
      (List.Forall₂ Exchange.UpToCrash first.exchanges second.exchanges →
        second.session.phase = first.session.phase ∧
        second.session.identity = first.session.identity ∧
        second.session.sequenceNumber? = first.session.sequenceNumber? ∧
        second.session.lastSnapshot? = first.session.lastSnapshot? ∧
        second.session.deleted = first.session.deleted ∧
        (second.session.state? = first.session.state? ∨
          ∃ before turn after state event crash, all = before ++ turn :: after ∧
            ((fresh o : Session E).converse shared before).session.Reaches turn.message state
              event ∧ E.apply state event = .error crash)) := by
  intro all first second keeps
  obtain ⟨kept, keeps⟩ := List.forall_mem_cons.mp keeps
  have upToCrash :
      ((fresh o : Session E).serve shared ⟨.init ⟨id, some snapshot⟩, patience⟩).UpToCrash
      (((fresh o : Session E).over empty).serve shared' ⟨.init ⟨id, some snapshot⟩, patience⟩) :=
    upToCrash_init rfl seeds id decodes agree patience
  have closedOrLiving := upToCrash.closedOrLiving kept
  have run : (∀ before turn after state event, all = before ++ turn :: after →
      ((fresh o : Session E).converse shared before).session.Reaches turn.message state event →
        E.emptyState.isOk = empty.isOk) → RunsAlike (fresh o) shared all second := by
    intro level
    exact .cons upToCrash (runsAlike_converse closedOrLiving upToCrash.shared turns keeps
      fun before next after state event split reaches =>
        level (_ :: before) next after state event (congrArg (_ :: ·) split) reaches)
  have level : List.Forall₂ Exchange.UpToCrash first.exchanges second.exchanges →
      ∀ before turn after state event, all = before ++ turn :: after →
        ((fresh o : Session E).converse shared before).session.Reaches turn.message state event →
          E.emptyState.isOk = empty.isOk := by
    intro same before turn after state event split reaches
    obtain ⟨-, same⟩ := List.forall₂_cons.mp same
    cases before with
    | nil =>
        obtain ⟨rfl, -⟩ := List.cons.inj split
        cases reaches
    | cons init before =>
        obtain ⟨rfl, rest⟩ := List.cons.inj split
        rw [rest] at keeps same
        have fresh_over : (fresh o : Session (E.withEmpty empty)) =
          (fresh o : Session E).over empty := rfl
        rw [fresh_over, upToCrash.session] at same
        exact isOk_eq_of_upToCrash closedOrLiving upToCrash.shared keeps same reaches
  exact ⟨⟨level, fun even => (run even).exchanges⟩, fun same => (run (level same)).looks⟩

end Session

namespace Samples.Counter

/-- A channel begins with a snapshot, replays one event and adds to it by a command. -/
def resumption : List Turn :=
  [⟨.init ⟨"a", some ⟨5, toJson ⟨5⟩⟩⟩, 0⟩,
    ⟨.event ⟨6, (CounterEvent.increased 1).toJson⟩, 0⟩,
    ⟨.command (.plain 1 "a" "adjust" (payload 3)), 1⟩]

end Samples.Counter

namespace Session

/-- A counter that begins at seven goes on from a snapshot like one that begins at zero. -/
theorem converse_seeded_counter :
    let seven := Samples.Counter.entity.withEmpty (.ok ⟨7⟩)
    let first := (fresh .default : Session Samples.Counter.entity).converse Samples.Counter.host
      Samples.Counter.resumption
    let second := (fresh .default : Session seven).converse Samples.Counter.host
      Samples.Counter.resumption
    (∀ x ∈ first.exchanges, x.ending.deletes = false) ∧
      List.Forall₂ Exchange.UpToCrash first.exchanges second.exchanges ∧
      second.session.sequenceNumber? = some 7 ∧ second.session.lastSnapshot? = some 5 := by
  let run := (fresh .default : Session Samples.Counter.entity).converse Samples.Counter.host
    Samples.Counter.resumption
  have reached : run.session.sequenceNumber? = some 7 := by decide
  have recalled : run.session.lastSnapshot? = some 5 := by decide
  intro seven first second
  have keeps : ∀ x ∈ first.exchanges, x.ending.deletes = false := by decide
  obtain ⟨iff, looks⟩ := @converse_seeded Samples.Counter.entity (.ok ⟨7⟩) Samples.Counter.host
    Samples.Counter.host .default rfl "a" ⟨5, Samples.Counter.toJson ⟨5⟩⟩ ⟨5⟩ rfl ⟨rfl, rfl⟩ 0
    (Samples.Counter.resumption.drop 1) keeps
  have same := iff.mpr fun _ _ _ _ _ _ _ => rfl
  obtain ⟨-, -, number, snapshot, -⟩ := looks same
  exact ⟨keeps, same, number.trans reached, snapshot.trans recalled⟩

/-- Without an empty state the counter crashes at the event, and the event is lost. -/
theorem converse_seeded_fragile :
    let fragile := Samples.Counter.entity.withEmpty (.error ⟨"no empty state"⟩)
    let opening := Samples.Counter.resumption.take 2
    let first := (fresh .default : Session Samples.Counter.entity).converse Samples.Counter.host
      opening
    let second := (fresh .default : Session fragile).converse Samples.Counter.host opening
    first.exchanges.map Exchange.ending = [.quiet, .quiet] ∧
      second.exchanges.map Exchange.ending = [.quiet, .crashed ⟨"no empty state"⟩] ∧
      first.session.state? = some ⟨6⟩ ∧ second.session.state? = some ⟨5⟩ := by
  exact ⟨rfl, rfl, rfl, rfl⟩

end Session

end EntityEngine
