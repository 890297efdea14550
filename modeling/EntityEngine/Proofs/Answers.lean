import EntityEngine.Proofs.Steadiness

/-!
# What a host may count on

A host that waits for a message to be dealt with gets at most one answer, and can tell
from the message alone whose answer it is. The main statement holds in every phase and
for every outcome of a handler. It needs that the entity has an empty state and that no
handler panics before its activity has begun: such a panic is nobody's to catch, and the
command that caused it stays without an answer.
-/

namespace EntityEngine

def Entity.Launching (E : Entity) (P : Launch E.Memory E.State E.Event → Prop) : Prop :=
  ∀ operation r, E.router.handler? operation = some r →
    ∀ state context payload, P (r.launch state context payload)

def Router.Launching {M S E : Type} (r : Router M S E) (P : Launch M S E → Prop) : Prop :=
  ∀ registration ∈ r.registrations, ∀ state context payload,
    P (registration.launch state context payload)

theorem Router.launching_empty {M S E : Type} (P : Launch M S E → Prop) :
    (Router.empty : Router M S E).Launching P :=
  fun _ member => (List.not_mem_nil member).elim

theorem Router.Launching.on {M S E α : Type} {r : Router M S E} {P : Launch M S E → Prop}
    (h : r.Launching P) {operation : String} {decode : Json → Except DecodeError α}
    {handler : S → Context → α → Activity M S E} (refusing : ∀ error, P (.refused error))
    (running : ∀ state context command, P (.running (handler state context command))) :
    (r.on operation decode handler).Launching P := by
  intro registration member state context payload
  rcases List.mem_append.mp member with earlier | new
  · exact h registration earlier state context payload
  · obtain rfl := List.mem_singleton.mp new
    simp only
    cases decode payload with
    | ok command => exact running state context command
    | error e => exact refusing e

theorem Entity.launching_of_router {E : Entity} {P : Launch E.Memory E.State E.Event → Prop}
    (h : E.router.Launching P) : E.Launching P :=
  fun _ r found => h r (List.mem_reverse.mp (List.mem_of_find?_eq_some found))

/-- The handlers panic, if they do, within their activities. -/
def Entity.Contained (E : Entity) : Prop :=
  E.Launching fun launch => ∀ crash, launch ≠ .crashed crash

theorem Samples.Counter.contained : Counter.entity.Contained := by
  refine Entity.launching_of_router ?_
  unfold Counter.entity Counter.router
  iterate 7 refine .on ?_ (fun _ _ => (nomatch ·)) (fun _ _ _ _ => (nomatch ·))
  exact Router.launching_empty _

/-- The message is the answer to the command with this id. -/
inductive Outbound.Answers (commandId : UInt64) : Outbound → Prop
  | reply {reply : Reply} (own : reply.commandId = commandId) : Answers commandId (.reply reply)
  | failure {failure : Failure} (own : failure.commandId = some commandId) :
      Answers commandId (.failure failure)

/-- The reply reports no change. -/
def Reply.Inert (r : Reply) : Prop :=
  r.emittedEvents = [] ∧ r.snapshot = none ∧ r.stateUpdate = none ∧ r.deleteAfter = false

theorem Entity.Contained.dispatch_ne_crash {E : Entity} (contained : E.Contained)
    (operation : String) (state : E.State) (context : Context) (payload : Option Json)
    (crash : Crash) : E.dispatch operation state context payload ≠ .ok (.error crash) := by
  intro dispatched
  cases found : E.router.handler? operation with
  | none =>
      rw [Entity.dispatch, found] at dispatched
      cases dispatched
  | some r =>
      have begins := contained operation r found state context (payload.getD .null)
      rw [E.dispatch_of_handler found] at dispatched
      cases launched : r.launch state context (payload.getD .null) with
      | refused error => rw [launched] at dispatched; cases dispatched
      | running activity => rw [launched] at dispatched; cases dispatched
      | crashed raised => exact begins raised launched

theorem CommandError.answers_answer (e : CommandError) (commandId : UInt64) (id : Uuid) :
    (e.answer commandId id).Answers commandId := by
  unfold CommandError.answer
  cases e.severity with
  | validation => exact .reply rfl
  | protocol => exact .failure rfl
  | unexpected => exact .failure rfl

namespace Session

variable {E : Entity} {blank : E.State} {s : Session E}

theorem attend_ne_crashed {dispatched : Except CommandError (Attempt (Activity E.Memory E.State
    E.Event))} (begins : ∀ crash, dispatched ≠ .ok (.error crash)) (ticket : Ticket)
    (shared : Shared E.Memory) (patience : Nat) (crash : Crash) :
    attend ticket shared patience dispatched ≠ .crashed crash := by
  intro attended
  rcases dispatched with e | raised | activity
  · cases attended
  · exact begins raised rfl
  · simp only [attend] at attended
    split at attended <;> cases attended

theorem verdict_ne_crashed (contained : E.Contained) (s : Session E) (shared : Shared E.Memory)
    (command : Command) (patience : Nat) (crash : Crash) :
    s.verdict blank shared command patience ≠ .crashed crash := by
  have calm : ∀ raised, s.hearing blank shared command patience ≠ .crashed raised :=
    attend_ne_crashed (contained.dispatch_ne_crash _ _ _ _) _ _ _
  intro judged
  unfold verdict at judged
  cases heard : s.hearing blank shared command patience with
  | crashed raised => exact calm raised heard
  | givenUp => rw [heard] at judged; cases judged
  | ended ending =>
      rw [heard] at judged
      cases ending with
      | error e => cases judged
      | ok effect =>
          simp only [Entity.judge] at judged
          split at judged <;> cases judged

/-- A verdict that is neither a crash nor reached too late gives the command its answer. -/
theorem answered_of_verdict {v : Verdict E.State} (calm : ∀ crash, v ≠ .crashed crash)
    {commandId : UInt64} {id : Uuid} (awaited : v.ending commandId id ≠ .cancelled) :
    ∃ out, v.ending commandId id = .answered out ∧ out.Answers commandId := by
  cases v with
  | crashed crash => exact (calm crash rfl).elim
  | givenUp => exact (awaited rfl).elim
  | refused e => exact ⟨_, rfl, e.answers_answer commandId id⟩
  | granted result => exact ⟨_, rfl, .reply rfl⟩

theorem serve_command_answers (empty : E.emptyState = .ok blank) (contained : E.Contained)
    (s : Session E) (shared : Shared E.Memory) (command : Command) (patience : Nat)
    (awaited : (s.serve shared ⟨.command command, patience⟩).response.ending ≠ .cancelled) :
    ∃ out, (s.serve shared ⟨.command command, patience⟩).response.ending = .answered out ∧
      out.Answers command.commandId := by
  have served := serve_served empty s shared ⟨.command command, patience⟩
  generalize (s.serve shared ⟨.command command, patience⟩).session = after at *
  generalize (s.serve shared ⟨.command command, patience⟩).response.ending = ending at *
  cases served with
  | closed closed => exact ⟨_, rfl, .failure rfl⟩
  | broken opening unfit closed => exact ⟨_, rfl, .failure rfl⟩
  | decided live own =>
      exact answered_of_verdict (verdict_ne_crashed contained s shared command patience) awaited

inductive AnswersSnapshotRequest (blank : E.State) (s : Session E) (request : SnapshotRequest) :
    Ending → Prop
  | closed (closed : s.phase = .terminated) : AnswersSnapshotRequest blank s request .quiet
  | shown {state : Json} (live : s.Live)
      (encodes : E.states.encode (s.life blank).state = .ok state) :
      AnswersSnapshotRequest blank s request (.answered (.snapshotReply
        ⟨request.requestId, (s.life blank).position.current, state⟩))
  | early {failure : Failure} (waiting : s.phase = .awaitingInit)
      (uncommanded : failure.commandId = none) :
      AnswersSnapshotRequest blank s request (.answered (.failure failure))
  | unencodable {error : EncodeError} {failure : Failure} (live : s.Live)
      (fails : E.states.encode (s.life blank).state = .error error)
      (uncommanded : failure.commandId = none) :
      AnswersSnapshotRequest blank s request (.answered (.failure failure))

theorem serve_answersSnapshotRequest (empty : E.emptyState = .ok blank) (s : Session E)
    (shared : Shared E.Memory) (request : SnapshotRequest) (patience : Nat) :
    s.AnswersSnapshotRequest blank request
      (s.serve shared ⟨.snapshotRequest request, patience⟩).response.ending := by
  have served := serve_served empty s shared ⟨.snapshotRequest request, patience⟩
  generalize (s.serve shared ⟨.snapshotRequest request, patience⟩).session = after at *
  generalize (s.serve shared ⟨.snapshotRequest request, patience⟩).response.ending = ending at *
  cases served with
  | closed closed => exact .closed closed
  | broken opening unfit closed =>
      cases phase : s.phase with
      | terminated => exact (opening phase).elim
      | awaitingInit => exact .early phase rfl
      | replaying => exact (unfit (.snapshotRequest (.inl phase))).elim
      | active => exact (unfit (.snapshotRequest (.inr phase))).elim
  | portrayed live =>
      unfold portrait
      cases encodes : E.states.encode (s.life blank).state with
      | ok state => exact .shown live encodes
      | error e => exact .unencodable live encodes rfl

/-- An `Init` or an event is taken in silence, or it ends the session. -/
theorem serve_recovery (empty : E.emptyState = .ok blank) (s : Session E)
    (shared : Shared E.Memory) (turn : Turn) (recovering : ¬ turn.message.Asks) :
    (s.serve shared turn).response.ending = .quiet ∨
      s.phase ≠ .terminated ∧ (s.serve shared turn).session.phase = .terminated ∧
        ∃ failure : Failure, (s.serve shared turn).response.ending = .answered (.failure failure) ∧
          failure.commandId = none := by
  have served := serve_served empty s shared turn
  generalize (s.serve shared turn).session = after at *
  generalize (s.serve shared turn).response.ending = ending at *
  cases served with
  | closed closed =>
      left
      cases message : turn.message with
      | init init => rfl
      | event record => rfl
      | command command => exact (recovering (by rw [message]; trivial)).elim
      | snapshotRequest request => rfl
  | broken opening unfit closed =>
      refine .inr ⟨opening, closed, _, rfl, ?_⟩
      cases message : turn.message with
      | init init => rfl
      | event record => rfl
      | command command => exact (recovering (by rw [message]; trivial)).elim
      | snapshotRequest request => rfl
  | opened => exact .inl rfl
  | replayed => exact .inl rfl
  | portrayed => exact (recovering trivial).elim
  | decided => exact (recovering trivial).elim

theorem inert_of_judge {policy : SnapshotPolicy} {life : Incarnation E.State} {operation : String}
    {heard : Hearing E.State E.Event} {result : CommandResult E.State}
    (granted : E.judge policy life operation heard = .granted result)
    (rejected : result.clientAction.isError = true) (commandId : UInt64) :
    (result.toReply commandId).Inert := by
  obtain ⟨effect, -, interpreted⟩ := interpreted_of_judge granted
  cases interpreted with
  | rejected kept outcome => exact ⟨rfl, rfl, rfl, rfl⟩
  | carried accepted =>
      rw [accepted] at rejected
      cases rejected

/-- A reply with an error action reports no change. -/
theorem serve_inert (empty : E.emptyState = .ok blank) (s : Session E) (shared : Shared E.Memory)
    (turn : Turn) {reply : Reply}
    (replied : (s.serve shared turn).response.ending = .answered (.reply reply))
    (rejected : reply.clientAction.isError = true) : reply.Inert := by
  have served := serve_served empty s shared turn
  generalize (s.serve shared turn).session = after at *
  generalize (s.serve shared turn).response.ending = ending at *
  cases served with
  | closed closed =>
      cases message : turn.message <;> rw [message] at replied <;> cases replied
  | broken => cases replied
  | opened => cases replied
  | replayed => cases replied
  | portrayed live =>
      unfold portrait at replied
      split at replied <;> cases replied
  | @decided command patience id live own =>
      cases judged : s.verdict blank shared command patience with
      | crashed crash => rw [judged] at replied; cases replied
      | givenUp => rw [judged] at replied; cases replied
      | refused e =>
          rw [judged] at replied
          simp only [Verdict.ending, CommandError.answer] at replied
          split at replied
          · cases replied
            exact ⟨rfl, rfl, rfl, rfl⟩
          · cases replied
      | granted result =>
          rw [judged] at replied
          cases replied
          exact inert_of_judge judged rejected command.commandId

/-- Only a command that came after the end gets a failure without a correlation id. -/
theorem serve_traced (empty : E.emptyState = .ok blank) (s : Session E) (shared : Shared E.Memory)
    (turn : Turn) {failure : Failure}
    (failed : (s.serve shared turn).response.ending = .answered (.failure failure)) :
    failure.correlationId = none ↔
      s.phase = .terminated ∧ ∃ command, turn.message = .command command := by
  have served := serve_served empty s shared turn
  generalize (s.serve shared turn).session = after at *
  generalize (s.serve shared turn).response.ending = ending at *
  have traced (open_ : s.phase ≠ .terminated) (id : failure.correlationId ≠ none) :
      failure.correlationId = none ↔
        s.phase = .terminated ∧ ∃ command, turn.message = .command command :=
    ⟨fun none => (id none).elim, fun late => (open_ late.1).elim⟩
  have open_of_live (live : s.Live) : s.phase ≠ .terminated := by
    rcases live with phase | phase <;> rw [phase] <;> exact (nomatch ·)
  cases served with
  | closed closed =>
      cases message : turn.message with
      | command command =>
          rw [message] at failed
          cases failed
          exact ⟨fun _ => ⟨closed, command, rfl⟩, fun _ => rfl⟩
      | _ => rw [message] at failed; cases failed
  | broken opening =>
      cases failed
      exact traced opening (nomatch ·)
  | opened => cases failed
  | replayed => cases failed
  | portrayed live =>
      unfold portrait at failed
      split at failed
      · cases failed
      · cases failed
        exact traced (open_of_live live) (nomatch ·)
  | @decided command patience id live own =>
      cases judged : s.verdict blank shared command patience with
      | crashed crash => rw [judged] at failed; cases failed
      | givenUp => rw [judged] at failed; cases failed
      | refused e =>
          rw [judged] at failed
          simp only [Verdict.ending, CommandError.answer] at failed
          split at failed
          · cases failed
          · cases failed
            exact traced (open_of_live live) (nomatch ·)
      | granted result => rw [judged] at failed; cases failed

/-- A host that sees a message through gets what it is owed: a command its one answer, a
snapshot request the state as long as there is one to show, and an `Init` or an event
nothing unless it ends the session. Rejections report no change, and a failure can be traced
in the log unless it comes after the end. -/
theorem serve_answers (empty : E.emptyState = .ok blank) (contained : E.Contained)
    (s : Session E) (shared : Shared E.Memory) (turn : Turn)
    (awaited : (s.serve shared turn).response.ending ≠ .cancelled) :
    let step := s.serve shared turn
    let ending := step.response.ending
    (∀ command, turn.message = .command command →
      ∃ out, ending = .answered out ∧ out.Answers command.commandId) ∧
    (∀ request, turn.message = .snapshotRequest request →
      s.AnswersSnapshotRequest blank request ending) ∧
    (¬ turn.message.Asks → ending = .quiet ∨
      s.phase ≠ .terminated ∧ step.session.phase = .terminated ∧
        ∃ failure : Failure, ending = .answered (.failure failure) ∧ failure.commandId = none) ∧
    (∀ reply : Reply, ending = .answered (.reply reply) → reply.clientAction.isError = true →
      reply.Inert) ∧
    ∀ failure : Failure, ending = .answered (.failure failure) →
      (failure.correlationId = none ↔
        s.phase = .terminated ∧ ∃ command, turn.message = .command command) := by
  intro step ending
  refine ⟨?_, ?_, ?_, ?_, ?_⟩
  · rintro command message
    obtain ⟨message, patience⟩ := turn
    subst message
    exact serve_command_answers empty contained s shared command patience awaited
  · rintro request message
    obtain ⟨message, patience⟩ := turn
    subst message
    exact serve_answersSnapshotRequest empty s shared request patience
  · exact serve_recovery empty s shared turn
  · intro reply
    exact serve_inert empty s shared turn
  · intro failure
    exact serve_traced empty s shared turn

/-- A counter's handler that panics midway still leaves its command with an answer. -/
theorem serve_answers_panic :
    let opening := (fresh .default : Session Samples.Counter.entity).converse
      Samples.Counter.host (Samples.Counter.visit.take 4)
    let step := opening.session.serve opening.shared
      ⟨.command (.plain 2 "a" "panic" none), 1⟩
    step.response.ending ≠ .cancelled ∧
      ∃ out, step.response.ending = .answered out ∧ out.Answers 2 := by
  intro opening step
  have awaited : step.response.ending ≠ .cancelled := by decide
  have answers := @serve_answers Samples.Counter.entity ⟨0⟩ rfl Samples.Counter.contained
    opening.session opening.shared ⟨.command (.plain 2 "a" "panic" none), 1⟩ awaited
  exact ⟨awaited, answers.1 _ rfl⟩

end Session

end EntityEngine
