import EntityEngine.Proofs.Chaining
import EntityEngine.Proofs.Spans

/-!
# Two ways to reject a command

A handler rejects its command by failing with a rejection, or by ending with an effect whose
outcome is an error. The engine takes the two apart early: the first never reaches the
interpretation of effects. The main statement is that nobody can tell them apart by what the
caller gets, by the session afterwards or by the span, whatever else the effect holds and
whatever the model of the entity asks of effects that succeed.
-/

namespace EntityEngine

abbrev Entity.withRouter (E : Entity) (router : Router E.Memory E.State E.Event) : Entity :=
  { E with router }

def Reply.rejection (commandId : UInt64) (message : String) (code : Option ErrorCode) : Reply :=
  ⟨commandId, .error message code, [], none, none, false⟩

namespace Session

variable {E : Entity} {s : Session E} {life : Incarnation E.State} {shared : Shared E.Memory}
  {command : Command} {patience : Nat}

def under (s : Session E) (router : Router E.Memory E.State E.Event) :
    Session (E.withRouter router) :=
  ⟨s.options, s.phase, s.identity, s.incarnation, s.deleted⟩

/-- The handler of the command is called with this life of its entity, and returns this
while the host lets it go on. -/
structure Returns (s : Session E) (shared : Shared E.Memory) (command : Command) (patience : Nat)
    (life : Incarnation E.State) (result : Except HandlerError (Effect E.State E.Event)) :
    Prop where
  here : s.present = .ok life
  heard : s.hearing life.state shared command patience = .ended (result.mapError .handler)

theorem life_of_present (here : s.present = .ok life) : s.life life.state = life := by
  unfold present at here
  unfold Session.life
  cases living : s.incarnation with
  | some present =>
      rw [living] at here
      cases here
      rfl
  | none =>
      rw [living] at here
      cases empty : E.emptyState with
      | error crash => rw [empty] at here; cases here
      | ok blank => rw [empty] at here; cases here; rfl

def ticket (s : Session E) (shared : Shared E.Memory) (command : Command)
    (life : Incarnation E.State) : Ticket :=
  ⟨command.commandId, command.operation, life.position.current,
    (s.summon life.state shared command).1⟩

/-- A handler that is heard out has its command concluded. -/
theorem carry_embark (s : Session E) {ticket : Ticket} (started : List TraceCall)
    {dispatched : Except CommandError (Attempt (Activity E.Memory E.State E.Event))}
    {ending : Except CommandError (Effect E.State E.Event)}
    (heard : attend ticket shared patience dispatched = .ended ending) :
    ∃ after, carry (s.embark ticket shared started dispatched) patience =
      (s.conclude after ticket ending).preceded [] started := by
  rcases dispatched with e | crash | activity
  · cases heard
    exact ⟨shared, by rw [embark, carry_preceded, carry_conclude]⟩
  · cases heard
  · simp only [attend] at heard
    simp only [embark, carry, pursue]
    generalize await ticket patience activity shared = awaited at heard ⊢
    obtain ⟨_ | seen, after⟩ := awaited
    · cases heard
    · cases heard
      exact ⟨after, rfl⟩

/-- A command whose handler was heard out is concluded by the awakened session. -/
theorem serve_of_heard (live : s.Live) (own : s.identity = some command.entityId)
    (here : s.present = .ok life) {ending : Except CommandError (Effect E.State E.Event)}
    (heard : s.hearing life.state shared command patience = .ended ending) :
    ∃ notices after, s.serve shared ⟨.command command, patience⟩ =
      ((s.activated life).conclude after (s.ticket shared command life) ending).preceded notices
        [.started (E.span command) (s.options.tracer.start (E.span command))] := by
  obtain ⟨notices, revived⟩ := revive_of_present here
  have same := life_of_present here
  have launched := launch_eq (s := s) (t := s.activated life) life.state rfl shared command
  unfold hearing at heard
  rw [same] at launched heard
  obtain ⟨after, carried⟩ := (s.activated life).carry_embark
    [.started (E.span command) (s.options.tracer.start (E.span command))] heard
  have concluded : carry ((s.activated life).launch shared command life) patience =
      ((s.activated life).conclude after (s.ticket shared command life) ending).preceded []
        [.started (E.span command) (s.options.tracer.start (E.span command))] :=
    (congrArg (carry · patience) launched).trans carried
  refine ⟨notices, after, ?_⟩
  rw [serve, begin_command_of_live live, receiveCommand, if_pos own, revived]
  exact (carry_preceded _ notices [] patience).trans (congrArg (·.preceded notices []) concluded)

/-- What rejecting a command leaves. -/
structure Rejects (s : Session E) (ticket : Ticket) (message : String) (code : Option ErrorCode)
    (step : Step E) : Prop where
  session : step.session = s
  told : step.calls = [.ended ticket.context.trace .rejected]
  answers : step.response = .answered (.reply (.rejection ticket.commandId message code))

theorem rejects_failure (s : Session E) (shared : Shared E.Memory) (ticket : Ticket)
    (message : String) (code : Option ErrorCode) :
    Rejects s ticket message code
      (s.conclude shared ticket (.error (.handler (.rejected message code)))) :=
  ⟨rfl, rfl, rfl⟩

theorem commit_rejection (living : s.incarnation = some life) (i : Interpretation)
    (message : String) (code : Option ErrorCode) :
    s.commit (Effect.rejection i message code) = s := by
  obtain ⟨options, phase, identity, incarnation, deleted⟩ := s
  obtain rfl : incarnation = some life := living
  simp [commit, Effect.rejection]

theorem rejects_effect (living : s.incarnation = some life) (shared : Shared E.Memory)
    (ticket : Ticket) {effect : Effect E.State E.Event} {message : String}
    {code : Option ErrorCode} (outcome : effect.outcome = .error message code)
    (kept : effect.deletes = false) :
    Rejects s ticket message code (s.conclude shared ticket (.ok effect)) := by
  have here : s.present = .ok life := by simp only [present, living]
  have unchanged : ({ s with incarnation := some life } : Session E) = s := by rw [← living]
  have rejected := Effect.interpret_of_error E.mechanics life.state
    ⟨ticket.operation, E.model, s.options.policy, ticket.sequenceNumber⟩ outcome
  simp only [kept, Bool.false_eq_true, if_false] at rejected
  simp only [conclude, here, unchanged, rejected]
  exact ⟨commit_rejection living _ message code, rfl, rfl⟩

/-- A handler of the entity or of one with other handlers rejects the command. -/
theorem serve_rejects (live : s.Live) (own : s.identity = some command.entityId)
    (here : s.present = .ok life) {ending : Except CommandError (Effect E.State E.Event)}
    (heard : s.hearing life.state shared command patience = .ended ending) {message : String}
    {code : Option ErrorCode}
    (rejects : ∀ after, Rejects (s.activated life) (s.ticket shared command life) message code
      ((s.activated life).conclude after (s.ticket shared command life) ending)) :
    let step := s.serve shared ⟨.command command, patience⟩
    let handle := s.options.tracer.start (E.span command)
    step.session = s.activated life ∧
      step.calls = [.started (E.span command) handle, .ended handle .rejected] ∧
      step.response.ending = .answered (.reply (.rejection command.commandId message code)) := by
  intro step handle
  obtain ⟨notices, after, served⟩ := serve_of_heard live own here heard
  obtain ⟨session, told, answers⟩ := rejects after
  have served : step = _ := served
  rw [served]
  refine ⟨session, ?_, ?_⟩
  · exact congrArg ([.started (E.span command) handle] ++ ·) told
  · exact congrArg Response.ending answers

/-- A handler that fails with a rejection and one that returns an effect with that error as
its outcome, and no deletion, get their commands the same answer. The session is the same
afterwards and still active, and the span ends as rejected either way. -/
theorem serve_rejections_agree (live : s.Live) (own : s.identity = some command.entityId)
    (router : Router E.Memory E.State E.Event) {message : String} {code : Option ErrorCode}
    (rejects : s.Returns shared command patience life (.error (.rejected message code)))
    {effect : Effect E.State E.Event} (outcome : effect.outcome = .error message code)
    (kept : effect.deletes = false) {patience' : Nat}
    (declines : (s.under router).Returns shared command patience' life (.ok effect)) :
    let first := s.serve shared ⟨.command command, patience⟩
    let second := (s.under router).serve shared ⟨.command command, patience'⟩
    let handle := s.options.tracer.start (E.span command)
    first.response.ending = .answered (.reply (.rejection command.commandId message code)) ∧
      second.response.ending = first.response.ending ∧
      second.session = first.session.under router ∧
      first.session.phase = .active ∧
      first.calls = [.started (E.span command) handle, .ended handle .rejected] ∧
      second.calls = first.calls := by
  intro first second handle
  obtain ⟨session, told, answers⟩ := serve_rejects live own rejects.here rejects.heard
    fun after => rejects_failure _ after _ message code
  obtain ⟨session', told', answers'⟩ := serve_rejects (s := s.under router) live own
    declines.here declines.heard fun after => rejects_effect rfl after _ outcome kept
  refine ⟨answers, answers'.trans answers.symm, ?_, congrArg Session.phase session, told,
    told'.trans told.symm⟩
  exact session'.trans (congrArg (·.under router) session).symm

end Session

namespace Samples.Counter

def declining : Router Unit Counter CounterEvent :=
  router.on "increaseBy" decodeIncreaseBy fun _ _ value =>
    .done (((Effect.errorWithCode "Increase requires a positive value" .invalidArgument).andPersist
      [.increased value]).andPersist [.reset])

def risen : Session entity :=
  ((Session.fresh .default : Session entity).converse host (visit.take 4)).session

theorem serve_rejections_agree_decrease :
    let command : Command := .plain 5 "a" "increaseBy" (payload (-1))
    let reply : Reply := .rejection 5 "Increase requires a positive value" (some .invalidArgument)
    let first := risen.serve host ⟨.command command, 1⟩
    let second := (risen.under declining).serve host ⟨.command command, 1⟩
    risen.Live ∧ first.response.ending = .answered (.reply reply) ∧
      second.response.ending = .answered (.reply reply) ∧
      second.session = first.session.under declining ∧ first.session.phase = .active ∧
      second.calls = first.calls := by
  intro command reply first second
  have live : risen.Live := .inr (by decide)
  have own : risen.identity = some command.entityId := by decide
  have rejects : risen.Returns host command 1 ⟨⟨8⟩, ⟨2, 0⟩⟩
      (.error (.rejected "Increase requires a positive value" (some .invalidArgument))) :=
    ⟨rfl, rfl⟩
  have declines : (risen.under declining).Returns host command 1 ⟨⟨8⟩, ⟨2, 0⟩⟩
      (.ok (((Effect.errorWithCode "Increase requires a positive value" .invalidArgument).andPersist
        [.increased (-1)]).andPersist [.reset])) :=
    ⟨rfl, rfl⟩
  obtain ⟨answers, same, session, active, -, told⟩ :=
    Session.serve_rejections_agree live own declining rejects rfl rfl declines
  exact ⟨live, answers, same.trans answers, session, active, told⟩

end Samples.Counter

end EntityEngine
