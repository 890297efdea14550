import EntityEngine.Proofs.Answers
import EntityEngine.Proofs.Contexts
import EntityEngine.Proofs.Discourse

/-!
# What a tracer is told

A tracer is told of nothing but the commands that a session hands to its entity. It hears of
one of them twice: at the start, before the handler goes on, and at the end, with the handle
that it gave at the start. Nothing else is told in between. The end is missing exactly when
the command was given up, and the outcome that it shows can be read off the answer that the
caller gets.
-/

namespace EntityEngine

/-- What a tracer learns when the span of a command starts. -/
def Entity.span (E : Entity) (command : Command) : SpanInfo :=
  ⟨E.name, command.entityId, command.operation, command.commandId, command.metadata⟩

def Outbound.outcome? : Outbound → Option SpanOutcome
  | .reply r => some (if r.clientAction.isError then .rejected else .replied)
  | .failure _ => some .failed
  | .snapshotReply _ => none

def Conversation.told {E : Entity} (c : Conversation E) : List TraceCall :=
  c.exchanges.flatMap Exchange.calls

theorem isError_rejectionAction (e : CommandError) :
    (Session.rejectionAction e).isError = true := by
  unfold Session.rejectionAction
  split <;> rfl

namespace Session

variable {E : Entity} {blank : E.State} {s : Session E}

/-- The message is a command that the session hands to its entity. -/
def Hears (s : Session E) (message : Inbound) : Prop :=
  ∃ command, message = .command command ∧ s.Live ∧ s.identity = some command.entityId

/-- What a tracer is told of a message that ends in this way. -/
inductive Traced (tracer : Tracer) (s : Session E) : Turn → Ending → List TraceCall → Prop
  | passed {turn : Turn} {ending : Ending} (untraced : ¬ s.Hears turn.message) :
      Traced tracer s turn ending []
  | cancelled {command : Command} {patience : Nat} (live : s.Live)
      (own : s.identity = some command.entityId) :
      Traced tracer s ⟨.command command, patience⟩ .cancelled
        [.started (E.span command) (tracer.start (E.span command))]
  | answered {command : Command} {patience : Nat} {out : Outbound} {outcome : SpanOutcome}
      (live : s.Live) (own : s.identity = some command.entityId)
      (shows : out.outcome? = some outcome) :
      Traced tracer s ⟨.command command, patience⟩ (.answered out)
        [.started (E.span command) (tracer.start (E.span command)),
          .ended (tracer.start (E.span command)) outcome]

/-- The handler of a command has been called: the tracer knows of it, its context shows the
handle, and it has not gone on yet, so that the memory is as it was. -/
structure StartsSpan (tracer : Tracer) (shared : Shared E.Memory) (command : Command)
    (begun : Step E) (call : Call E) : Prop where
  told : begun.calls = [.started (E.span command) (tracer.start (E.span command))]
  handle : call.ticket.context.trace = tracer.start (E.span command)
  still : begun.shared.memory = shared.memory

/-- The step leaves no handler running, and the tracer has heard nothing. -/
structure Untraced (step : Step E) : Prop where
  silent : step.calls = []
  idle : ∀ call, step.response ≠ .calling call

theorem Untraced.preceded {step : Step E} (h : Untraced step) (notices : List Notice) :
    Untraced (step.preceded notices []) :=
  ⟨h.silent, h.idle⟩

theorem Untraced.calls_carry {step : Step E} (h : Untraced step) (patience : Nat) :
    (carry step patience).calls = [] := by
  unfold carry
  split
  next call calling => exact (h.idle call calling).elim
  · exact h.silent

theorem untraced_violate (s : Session E) (shared : Shared E.Memory) (violation : Violation)
    (commandId : Option UInt64) : Untraced (s.violate shared violation commandId) :=
  ⟨rfl, nofun⟩

theorem untraced_failRecovery (s : Session E) (shared : Shared E.Memory) (error : RecoveryError) :
    Untraced (s.failRecovery shared error) :=
  ⟨rfl, nofun⟩

theorem untraced_receiveInit (s : Session E) (shared : Shared E.Memory) (init : Init) :
    Untraced (s.receiveInit shared init) := by
  unfold receiveInit
  split
  · exact untraced_violate s shared _ _
  · simp only
    split
    · exact (untraced_failRecovery _ shared _).preceded _
    · exact ⟨rfl, nofun⟩
    · exact ⟨rfl, nofun⟩

theorem untraced_receiveEvent (s : Session E) (shared : Shared E.Memory) (record : EventRecord) :
    Untraced (s.receiveEvent shared record) := by
  unfold receiveEvent
  split
  · exact ⟨rfl, nofun⟩
  split
  · exact untraced_violate _ shared _ _
  simp only
  split
  · exact untraced_failRecovery _ shared _
  split
  · exact ⟨rfl, nofun⟩
  split
  · exact ⟨rfl, nofun⟩
  · exact untraced_failRecovery _ shared _

theorem untraced_receiveSnapshotRequest (s : Session E) (shared : Shared E.Memory)
    (request : SnapshotRequest) : Untraced (s.receiveSnapshotRequest shared request) := by
  unfold receiveSnapshotRequest
  split
  · exact ⟨rfl, nofun⟩
  · split
    · exact ⟨rfl, nofun⟩
    · exact (untraced_failRecovery _ shared _).preceded _

theorem untraced_terminated (closed : s.phase = .terminated) (shared : Shared E.Memory)
    (message : Inbound) : Untraced (s.begin shared message) := by
  simp only [begin, closed]
  refine ⟨rfl, fun call calling => ?_⟩
  cases ended : afterTermination message <;> simp [ended] at calling

theorem untraced_begin (s : Session E) (shared : Shared E.Memory) {message : Inbound}
    (untraced : ¬ s.Hears message) : Untraced (s.begin shared message) := by
  by_cases closed : s.phase = .terminated
  · exact untraced_terminated closed shared message
  by_cases allowed : s.Allows message
  · cases message with
    | init init =>
        rw [begin_init allowed]
        exact untraced_receiveInit s shared init
    | event record =>
        have replaying : s.phase = .replaying := allowed
        simp only [begin, replaying]
        exact untraced_receiveEvent s shared record
    | command command =>
        rw [begin_foreign allowed fun own => untraced ⟨command, rfl, allowed, own⟩]
        exact untraced_violate _ shared _ _
    | snapshotRequest request =>
        rw [begin_snapshotRequest_of_live allowed]
        exact untraced_receiveSnapshotRequest _ shared request
  · obtain ⟨violation, begun⟩ := begin_misplaced closed shared allowed
    rw [begun]
    exact untraced_violate s shared _ _

/-- The command is answered, and its span ends with the outcome that the answer shows. -/
structure EndsSpan (ticket : Ticket) (step : Step E) (out : Outbound) (outcome : SpanOutcome) :
    Prop where
  told : step.calls = [.ended ticket.context.trace outcome]
  answers : step.response = .answered out
  shows : out.outcome? = some outcome

theorem endsSpan_refuse (s : Session E) (shared : Shared E.Memory) (ticket : Ticket)
    (error : CommandError) :
    ∃ out outcome, EndsSpan ticket (s.refuse shared ticket error) out outcome := by
  unfold refuse
  split
  · refine ⟨_, _, rfl, rfl, ?_⟩
    simp only [Outbound.outcome?, isError_rejectionAction, if_true]
  · exact ⟨_, _, rfl, rfl, rfl⟩

theorem endsSpan_conclude {life : Incarnation E.State} (living : s.incarnation = some life)
    (shared : Shared E.Memory) (ticket : Ticket)
    (ending : Except CommandError (Effect E.State E.Event)) :
    ∃ out outcome, EndsSpan ticket (s.conclude shared ticket ending) out outcome := by
  have here : s.present = .ok life := by simp only [present, living]
  unfold conclude
  cases ending with
  | error e => exact endsSpan_refuse s _ ticket e
  | ok effect =>
      simp only [here]
      split
      · exact ⟨_, _, rfl, rfl, rfl⟩
      · exact endsSpan_refuse _ _ ticket _

/-- A handler that was called: its command is given up, or it is answered. -/
inductive Pursued (call : Call E) (step : Step E) : Prop
  | cancelled (silent : step.calls = []) (ending : step.response.ending = .cancelled) :
      Pursued call step
  | closed {out : Outbound} {outcome : SpanOutcome}
      (endsSpan : EndsSpan call.ticket step out outcome) :
      Pursued call step

theorem pursued {life : Incarnation E.State} (living : s.incarnation = some life)
    (shared : Shared E.Memory) (call : Call E) (patience : Nat) :
    Pursued call (s.pursue shared call patience) := by
  unfold pursue
  generalize await call.ticket patience call.activity shared = awaited
  obtain ⟨_ | ending, after⟩ := awaited
  · exact .cancelled rfl rfl
  · obtain ⟨out, outcome, endsSpan⟩ := endsSpan_conclude living after call.ticket ending
    exact .closed endsSpan

theorem embarks {life : Incarnation E.State} (living : s.incarnation = some life)
    (ticket : Ticket) (shared : Shared E.Memory) (started : List TraceCall)
    {dispatched : Except CommandError (Attempt (Activity E.Memory E.State E.Event))}
    (begins : ∀ crash, dispatched ≠ .ok (.error crash)) :
    let step := s.embark ticket shared started dispatched
    (∃ activity, step = ⟨s, shared, [], started, .calling ⟨ticket, activity⟩⟩) ∨
      ∃ out outcome, step.response = .answered out ∧ out.outcome? = some outcome ∧
        step.calls = started ++ [.ended ticket.context.trace outcome] := by
  rcases dispatched with e | crash | activity
  · obtain ⟨out, outcome, told, answers, shows⟩ := endsSpan_conclude living shared ticket (.error e)
    exact .inr ⟨out, outcome, answers, shows, congrArg (started ++ ·) told⟩
  · exact (begins crash rfl).elim
  · exact .inl ⟨activity, rfl⟩

/-- What the beginning of a command for the entity tells the tracer. -/
inductive BegunSpan (tracer : Tracer) (shared : Shared E.Memory) (command : Command)
    (begun : Step E) : Prop
  | called {call : Call E} {life : Incarnation E.State} (calling : begun.response = .calling call)
      (living : begun.session.incarnation = some life)
      (startsSpan : StartsSpan tracer shared command begun call) :
      BegunSpan tracer shared command begun
  | refused {out : Outbound} {outcome : SpanOutcome} (answers : begun.response = .answered out)
      (shows : out.outcome? = some outcome)
      (told : begun.calls = [.started (E.span command) (tracer.start (E.span command)),
        .ended (tracer.start (E.span command)) outcome]) : BegunSpan tracer shared command begun

theorem begunSpan_begin (empty : E.emptyState = .ok blank) (contained : E.Contained)
    (live : s.Live) {command : Command} (own : s.identity = some command.entityId)
    (shared : Shared E.Memory) :
    BegunSpan s.options.tracer shared command (s.begin shared (.command command)) := by
  obtain ⟨notices, begun⟩ := begin_command empty live own shared
  rw [begun, launch_eq (s := s) (t := s.awake blank) blank rfl shared command]
  obtain ⟨activity, running⟩ | ⟨out, outcome, answers, shows, told⟩ :=
    embarks (s := s.awake blank) rfl
      ⟨command.commandId, command.operation, (s.life blank).position.current,
        (s.summon blank shared command).1⟩ (s.summon blank shared command).2
      [.started (E.span command) (s.options.tracer.start (E.span command))]
      (contained.dispatch_ne_crash command.operation (s.life blank).state
        (s.summon blank shared command).1 command.payload)
  · exact .called (congrArg Step.response running)
      (congrArg (fun step => step.session.incarnation) running)
      ⟨congrArg Step.calls running, rfl, congrArg (fun step => step.shared.memory) running⟩
  · exact .refused answers shows told

theorem traced_serve (empty : E.emptyState = .ok blank) (contained : E.Contained)
    (s : Session E) (shared : Shared E.Memory) (turn : Turn) :
    Traced s.options.tracer s turn (s.serve shared turn).response.ending
      (s.serve shared turn).calls := by
  by_cases hears : s.Hears turn.message
  · obtain ⟨message, patience⟩ := turn
    obtain ⟨command, same, live, own⟩ := hears
    obtain rfl : message = .command command := same
    cases begunSpan_begin empty contained live own shared with
    | called calling living startsSpan =>
        rw [serve_eq_pursue calling patience]
        simp only [Step.preceded, startsSpan.told]
        cases pursued living _ _ patience with
        | cancelled silent ending =>
            rw [silent, ending]
            exact .cancelled live own
        | closed endsSpan =>
            rw [endsSpan.told, endsSpan.answers, startsSpan.handle]
            exact .answered live own endsSpan.shows
    | refused answers shows told =>
        have served : s.serve shared ⟨.command command, patience⟩ =
            s.begin shared (.command command) := by
          simp only [serve, carry, answers]
        rw [served, told, answers]
        exact .answered live own shows
  · have silent := (untraced_begin s shared hears).calls_carry turn.patience
    rw [serve, silent]
    exact .passed hears

/-- The tracer of a channel stays the same for as long as the channel takes commands. -/
theorem Traced.of_options {o : Options} {turn : Turn} {ending : Ending} {calls : List TraceCall}
    (h : Traced s.options.tracer s turn ending calls) (same : s.Live → s.options = o) :
    Traced o.tracer s turn ending calls := by
  by_cases live : s.Live
  · rw [← same live]
    exact h
  · cases h with
    | passed untraced => exact .passed untraced
    | cancelled live' => exact (live live').elim
    | answered live' => exact (live live').elim

theorem told_append (s : Session E) (shared : Shared E.Memory) (before after : List Turn) :
    (s.converse shared (before ++ after)).told =
      (s.converse shared before).told ++
        ((s.converse shared before).session.converse (s.converse shared before).shared
          after).told := by
  simp only [Conversation.told, converse_append, List.flatMap_append]

/-- What a tracer is told in a conversation is what it is told of each message, one after the
other. Of a message that is no command for the entity it is told nothing. A command for the
entity starts one span, with what the command says, before its handler goes on, and the next
call ends this span with the outcome that the answer shows, unless the command is given up. -/
theorem converse_spans (empty : E.emptyState = .ok blank) (contained : E.Contained) (o : Options)
    (shared : Shared E.Memory) (before : List Turn) (turn : Turn) (after : List Turn) :
    let earlier := (fresh o : Session E).converse shared before
    let begun := earlier.session.begin earlier.shared turn.message
    let step := earlier.session.serve earlier.shared turn
    let later := step.session.converse step.shared after
    ((fresh o : Session E).converse shared (before ++ turn :: after)).told =
        earlier.told ++ step.calls ++ later.told ∧
      Traced o.tracer earlier.session turn step.response.ending step.calls ∧
      ∀ call, begun.response = .calling call → ∃ command, turn.message = .command command ∧
        StartsSpan o.tracer earlier.shared command begun call ∧
        step = (begun.session.pursue begun.shared call turn.patience).preceded begun.notices
          begun.calls := by
  intro earlier begun step later
  have same : earlier.session.Live → earlier.session.options = o := by
    intro live
    refine (reached_of_converse empty shared before ?_).options
    rcases live with phase | phase <;> rw [phase] <;> decide
  refine ⟨?_, (traced_serve empty contained _ _ turn).of_options same, fun call calling => ?_⟩
  · rw [told_append, List.append_assoc]
    rfl
  · by_cases hears : earlier.session.Hears turn.message
    · obtain ⟨command, message, live, own⟩ := hears
      have span := begunSpan_begin empty contained live own earlier.shared
      rw [← message, same live] at span
      refine ⟨command, message, ?_, serve_eq_pursue calling turn.patience⟩
      cases span with
      | called calling' _ startsSpan =>
          cases calling.symm.trans calling'
          exact startsSpan
      | refused answers => cases calling.symm.trans answers
    · exact ((untraced_begin _ _ hears).idle call calling).elim

/-- The panic of a counter's second command ends its span as failed. The span of the third
command is never ended, and then that of the fourth one starts. -/
theorem converse_spans_visit :
    let entity := Samples.Counter.entity
    let first : Command := .plain 1 "a" "adjust" (Samples.Counter.payload 3)
    let second : Command := .plain 2 "a" "panic" none
    let third : Command := .plain 3 "a" "adjust" (Samples.Counter.payload 9)
    let fourth : Command := .plain 4 "a" "increaseBy" (Samples.Counter.payload 4)
    let handle (command : Command) := Options.default.tracer.start (entity.span command)
    let started (command : Command) := TraceCall.started (entity.span command) (handle command)
    let before := Samples.Counter.visit.take 4
    let turn : Turn := ⟨.command second, 1⟩
    let earlier := (fresh .default : Session entity).converse Samples.Counter.host before
    entity.emptyState = .ok ⟨0⟩ ∧ entity.Contained ∧
      Traced Options.default.tracer earlier.session turn
        (.answered (.failure ⟨some 2, s!"unexpected error [{(Uuid.ofNat 0).text}]",
          some (Uuid.ofNat 0)⟩)) [started second, .ended (handle second) .failed] ∧
      ((fresh .default : Session entity).converse Samples.Counter.host
          Samples.Counter.visit).told =
        [started first, .ended (handle first) .replied] ++
          [started second, .ended (handle second) .failed] ++
          [started third, started fourth, .ended (handle fourth) .replied] := by
  have empty : Samples.Counter.entity.emptyState = .ok ⟨0⟩ := rfl
  obtain ⟨told, traced, -⟩ := converse_spans empty Samples.Counter.contained .default
    Samples.Counter.host (Samples.Counter.visit.take 4) ⟨.command (.plain 2 "a" "panic" none), 1⟩
    (Samples.Counter.visit.drop 5)
  exact ⟨empty, Samples.Counter.contained, traced, told⟩

end Session

end EntityEngine
