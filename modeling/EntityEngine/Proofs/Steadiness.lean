import Mathlib.Data.List.Forall2
import EntityEngine.Proofs.Serving

/-!
# Steady entities

A handler is steady when what it does depends on the state, on what its context tells
and on the payload, but not on the memory that it shares with other handlers nor on
what other commands are under way. It may use its context, which is active as long as
it runs.

Two live sessions of one entity with the same state and number answer alike, whatever
they have gone through. The main statement is that of a steady entity they give the
same answers to the same messages, but for the correlation ids of their failures, and
still answer alike afterwards.
-/

namespace EntityEngine

/-- While the context is active the activity does what the plan says, whatever the shared
memory and the rest of the board hold. -/
inductive Activity.Follows {M S E : Type} (context : Context) :
    Activity M S E → (plan : Activity M S E) → Prop
  | finished (result : Except HandlerError (Effect S E)) :
      Follows context (.finished result) (.finished result)
  | panicked (crash : Crash) : Follows context (.panicked crash) (.panicked crash)
  | asleep (span : Nat) {rest plan : Activity M S E} (later : Follows context rest plan) :
      Follows context (.asleep span rest) (.asleep span plan)
  | hung : Follows context .hung .hung
  | recalling {next : M → Board → Activity M S E} {plan : Activity M S E}
      (later : ∀ memory board, context.isActive board = true →
        Follows context (next memory board) plan) : Follows context (.recalling next) plan
  | remembering (memory : M) {rest plan : Activity M S E} (later : Follows context rest plan) :
      Follows context (.remembering memory rest) plan

inductive Progress.Follows {M S E : Type} (context : Context) :
    Progress M S E → Progress M S E → Prop
  | ended (result : Except HandlerError (Effect S E)) :
      Follows context (.ended result) (.ended result)
  | panicked (crash : Crash) : Follows context (.panicked crash) (.panicked crash)
  | sleeping (span : Nat) {rest plan : Activity M S E} (later : rest.Follows context plan) :
      Follows context (.sleeping span rest) (.sleeping span plan)
  | hanging : Follows context .hanging .hanging

inductive Launch.Follows {M S E : Type} (context : Context) :
    Launch M S E → (plan : Launch M S E) → Prop
  | refused (error : DecodeError) : Follows context (.refused error) (.refused error)
  | crashed (crash : Crash) : Follows context (.crashed crash) (.crashed crash)
  | running {activity plan : Activity M S E} (later : activity.Follows context plan) :
      Follows context (.running activity) (.running plan)

/-- What a launch is to the dispatch of a command. -/
def Launch.outcome {M S E : Type} (operation : String) :
    Launch M S E → Except CommandError (Attempt (Activity M S E))
  | .refused error => .error (.invalidPayload operation error)
  | .crashed crash => .ok (.error crash)
  | .running activity => .ok (.ok activity)

theorem Entity.dispatch_of_handler (E : Entity) {operation : String}
    {r : Registration E.Memory E.State E.Event} (found : E.router.handler? operation = some r)
    (state : E.State) (context : Context) (payload : Option Json) :
    E.dispatch operation state context payload =
      (r.launch state context (payload.getD .null)).outcome operation := by
  unfold Entity.dispatch
  rw [found]
  simp only
  cases r.launch state context (payload.getD .null) <;> rfl

/-- The handler follows a plan that does not know the number of its context. -/
def Registration.Steady {M S E : Type} (r : Registration M S E) : Prop :=
  ∃ plan : S → Context → Json → Launch M S E, ∀ state context payload,
    (r.launch state context payload).Follows context
      (plan state { context with number := 0 } payload)

def Entity.Steady (E : Entity) : Prop :=
  ∀ operation r, E.router.handler? operation = some r → r.Steady

theorem Activity.Plain.follows {M S E : Type} {activity : Activity M S E} (plain : activity.Plain)
    (context : Context) : activity.Follows context activity := by
  induction plain with
  | finished result => exact .finished result
  | panicked crash => exact .panicked crash
  | asleep span _ ih => exact .asleep span ih
  | hung => exact .hung

def Router.Steady {M S E : Type} (r : Router M S E) : Prop :=
  ∀ registration ∈ r.registrations, registration.Steady

theorem Router.steady_empty {M S E : Type} : (Router.empty : Router M S E).Steady :=
  fun _ member => (List.not_mem_nil member).elim

/-- Launch a handler on a payload that has to be decoded. -/
def Launch.decoded {M S E α : Type} (decode : Json → Except DecodeError α)
    (handler : α → Activity M S E) (payload : Json) : Launch M S E :=
  match decode payload with
  | .ok command => .running (handler command)
  | .error e => .refused e

theorem Router.Steady.on {M S E α : Type} {r : Router M S E} (h : r.Steady) {operation : String}
    {decode : Json → Except DecodeError α} {handler : S → Context → α → Activity M S E}
    (plan : S → Context → α → Activity M S E)
    (follows : ∀ state context command, (handler state context command).Follows context
      (plan state { context with number := 0 } command)) :
    (r.on operation decode handler).Steady := by
  intro registration member
  rcases List.mem_append.mp member with earlier | new
  · exact h registration earlier
  · obtain rfl := List.mem_singleton.mp new
    refine ⟨fun state context => Launch.decoded decode (plan state context), ?_⟩
    intro state context payload
    simp only [Launch.decoded]
    cases decode payload with
    | ok command => exact .running (follows state context command)
    | error e => exact .refused e

/-- A handler that uses neither the memory nor its context is steady. -/
theorem Router.Steady.on_plain {M S E α : Type} {r : Router M S E} (h : r.Steady)
    {operation : String} {decode : Json → Except DecodeError α}
    {handler : S → Context → α → Activity M S E}
    (plain : ∀ state context command, (handler state context command).Plain)
    (blind : ∀ state context other command,
      handler state context command = handler state other command) :
    (r.on operation decode handler).Steady := by
  refine h.on handler fun state context command => ?_
  rw [blind state { context with number := 0 } context]
  exact (plain state context command).follows context

theorem Entity.steady_of_router {E : Entity} (h : E.router.Steady) : E.Steady :=
  fun _ r found => h r (List.mem_reverse.mp (List.mem_of_find?_eq_some found))

theorem Samples.Counter.increaseBy_plain (c : Counter) (context : Context) (value : Int64) :
    (Counter.increaseBy c context value).Plain := by
  unfold Counter.increaseBy
  split
  · exact .finished _
  · split
    · exact .finished _
    · exact .panicked _

theorem Samples.Counter.steady : Counter.entity.Steady := by
  refine Entity.steady_of_router ?_
  unfold Counter.entity Counter.router
  refine .on_plain ?_ (fun _ _ _ => .panicked _) (fun _ _ _ _ => rfl)
  iterate 5 refine .on_plain ?_ (fun _ _ _ => .finished _) (fun _ _ _ _ => rfl)
  exact Router.steady_empty.on_plain Counter.increaseBy_plain (fun _ _ _ _ => rfl)

theorem Activity.Follows.run {M S E : Type} {context : Context} {board : Board}
    (active : context.isActive board = true) {activity plan : Activity M S E}
    (h : activity.Follows context plan) (memory memory' : M) (board' : Board) :
    (activity.run board memory).1.Follows context (plan.run board' memory').1 := by
  induction h generalizing memory with
  | finished result => exact .ended result
  | panicked crash => exact .panicked crash
  | asleep span later ih =>
      cases span with
      | zero => exact ih memory
      | succ span => exact .sleeping (span + 1) later
  | hung => exact .hanging
  | recalling _ ih => exact ih memory board active memory
  | remembering kept _ ih => exact ih kept

/-- The same ending, but for the correlation id of a failure. -/
inductive Ending.Alike : Ending → Ending → Prop
  | same (ending : Ending) : Alike ending ending
  | failures (commandId : Option UInt64) (opening : String) (i j : Uuid) :
      Alike (.answered (.failure ⟨commandId, opening ++ i.text ++ "]", some i⟩))
        (.answered (.failure ⟨commandId, opening ++ j.text ++ "]", some j⟩))

def Exchange.Alike (x y : Exchange) : Prop := x.turn = y.turn ∧ x.ending.Alike y.ending

theorem CommandError.answer_alike (e : CommandError) (commandId : UInt64) (i j : Uuid) :
    Ending.Alike (.answered (e.answer commandId i)) (.answered (e.answer commandId j)) := by
  unfold CommandError.answer
  cases e.severity with
  | validation => exact .same _
  | protocol => exact .failures _ "unexpected error [" i j
  | unexpected => exact .failures _ "unexpected error [" i j

theorem Verdict.ending_alike {S : Type} (v : Verdict S) (commandId : UInt64) (i j : Uuid) :
    (v.ending commandId i).Alike (v.ending commandId j) := by
  cases v with
  | refused e => exact e.answer_alike commandId i j
  | _ => exact .same _

def Inbound.Asks : Inbound → Prop
  | .command _ => True
  | .snapshotRequest _ => True
  | _ => False

/-- Judging looks at nothing but the state and the number of a life. -/
theorem Entity.judge_congr (E : Entity) (policy : SnapshotPolicy) {life other : Incarnation E.State}
    (state : life.state = other.state) (current : life.position.current = other.position.current)
    (operation : String) (heard : Hearing E.State E.Event) :
    E.judge policy life operation heard = E.judge policy other operation heard := by
  unfold Entity.judge
  rw [state, current]

namespace Session

variable {E : Entity} {blank : E.State} {s t : Session E}

theorem await_follows (ticket ticket' : Ticket)
    (operation : ticket.operation = ticket'.operation) {shared : Shared E.Memory}
    (active : ticket.context.isActive shared.board = true)
    {activity plan : Activity E.Memory E.State E.Event}
    (h : activity.Follows ticket.context plan) (shared' : Shared E.Memory) (patience : Nat) :
    (await ticket patience activity shared).1 = (await ticket' patience plan shared').1 := by
  induction patience generalizing activity plan shared shared' with
  | zero => rfl
  | succ patience ih =>
      have follows := h.run active shared.memory shared'.memory shared'.board
      unfold await advance
      simp only
      generalize activity.run shared.board shared.memory = run at *
      generalize plan.run shared'.board shared'.memory = run' at *
      obtain ⟨progress, memory⟩ := run
      obtain ⟨progress', memory'⟩ := run'
      cases follows with
      | ended result => rfl
      | panicked crash => simp only [operation]
      | sleeping span later =>
          simp only
          refine ih ?_ later _
          exact active
      | hanging => rfl

theorem attend_follows (ticket ticket' : Ticket) (same : ticket.operation = ticket'.operation)
    {shared : Shared E.Memory} (active : ticket.context.isActive shared.board = true)
    {launch plan : Launch E.Memory E.State E.Event} (h : launch.Follows ticket.context plan)
    (shared' : Shared E.Memory) (patience : Nat) (operation : String) :
    attend ticket shared patience (launch.outcome operation) =
      attend ticket' shared' patience (plan.outcome operation) := by
  cases h with
  | refused error => rfl
  | crashed crash => rfl
  | running later =>
      simp only [Launch.outcome, attend]
      rw [await_follows ticket ticket' same active later shared' patience]

/-- Of a steady entity, what the handler of a command comes to follows from the state, the
number and the tracer. -/
theorem hearing_eq (steady : E.Steady) (tracer : t.options.tracer = s.options.tracer)
    (state : (t.life blank).state = (s.life blank).state)
    (current : (t.life blank).position.current = (s.life blank).position.current)
    (shared' shared : Shared E.Memory) (command : Command) (patience : Nat) :
    t.hearing blank shared' command patience = s.hearing blank shared command patience := by
  have open' : (t.summon blank shared' command).1.isActive
      (t.summon blank shared' command).2.board = true := Context.isActive_openContext ..
  have opened : (s.summon blank shared command).1.isActive
      (s.summon blank shared command).2.board = true := Context.isActive_openContext ..
  have same : ({ (t.summon blank shared' command).1 with number := 0 } : Context) =
      { (s.summon blank shared command).1 with number := 0 } := by
    simp only [summon, Board.openContext, tracer, current]
  unfold hearing
  rw [state, current]
  cases found : E.router.handler? command.operation with
  | none => simp only [Entity.dispatch, found, attend]
  | some r =>
      obtain ⟨plan, follows⟩ := steady _ r found
      simp only [E.dispatch_of_handler found]
      have first := follows (s.life blank).state (t.summon blank shared' command).1
        (command.payload.getD .null)
      have second := follows (s.life blank).state (s.summon blank shared command).1
        (command.payload.getD .null)
      rw [same] at first
      let ticket (context : Context) : Ticket :=
        ⟨command.commandId, command.operation, (s.life blank).position.current, context⟩
      let other := ticket (t.summon blank shared' command).1
      let own := ticket (s.summon blank shared command).1
      have mine := attend_follows own own rfl opened second shared patience command.operation
      have yours := attend_follows other own rfl open' first shared patience command.operation
      exact yours.trans mine.symm

theorem portrait_alike {life other : Incarnation E.State} (state : life.state = other.state)
    (current : life.position.current = other.position.current) (requestId : UInt64) (i j : Uuid) :
    Ending.Alike (.answered (portrait life requestId i))
      (.answered (portrait other requestId j)) := by
  unfold portrait
  rw [state, current]
  cases E.states.encode other.state with
  | ok json => exact .same _
  | error e => exact .failures _ "unexpected error [" i j

/-- Two sessions that differ in nothing that matters to the answers. -/
structure AnswersAlike (blank : E.State) (t s : Session E) : Prop where
  policy : t.options.policy = s.options.policy
  tracer : t.options.tracer = s.options.tracer
  identity : t.identity = s.identity
  state : (t.life blank).state = (s.life blank).state
  current : (t.life blank).position.current = (s.life blank).position.current

theorem AnswersAlike.awake (answers : AnswersAlike blank t s) :
    AnswersAlike blank (t.awake blank) (s.awake blank) :=
  ⟨answers.policy, answers.tracer, answers.identity, answers.state, answers.current⟩

theorem AnswersAlike.settle (answers : AnswersAlike blank t s) (v : Verdict E.State) :
    AnswersAlike blank ((t.awake blank).settle v) ((s.awake blank).settle v) := by
  obtain ⟨-, options, identity⟩ := settle_frame (t.awake blank) v
  obtain ⟨-, options', identity'⟩ := settle_frame (s.awake blank) v
  have lives : (v.life blank (t.life blank)).state = (v.life blank (s.life blank)).state ∧
      (v.life blank (t.life blank)).position.current =
        (v.life blank (s.life blank)).position.current := by
    cases v with
    | granted result =>
        cases deletes : result.deletes with
        | true => simp only [Verdict.life, deletes, if_true, and_self]
        | false =>
            simp only [Verdict.life, deletes, Bool.false_eq_true, if_false,
              Incarnation.state_after, Incarnation.current_after, answers.state, answers.current,
              and_self]
    | _ => exact ⟨answers.state, answers.current⟩
  refine ⟨?_, ?_, ?_, ?_, ?_⟩
  · rw [options, options']
    exact answers.policy
  · rw [options, options']
    exact answers.tracer
  · rw [identity, identity']
    exact answers.identity
  · rw [life_settle, life_settle]
    exact lives.1
  · rw [life_settle, life_settle]
    exact lives.2

theorem AnswersAlike.verdict_eq (steady : E.Steady) (answers : AnswersAlike blank t s)
    (shared' shared : Shared E.Memory) (command : Command) (patience : Nat) :
    t.verdict blank shared' command patience = s.verdict blank shared command patience := by
  unfold verdict
  rw [hearing_eq steady answers.tracer answers.state answers.current shared' shared, answers.policy]
  exact E.judge_congr _ answers.state answers.current _ _

/-- A command for their own entity is decided alike by both sessions. -/
theorem AnswersAlike.serve_command (empty : E.emptyState = .ok blank) (steady : E.Steady)
    (answers : AnswersAlike blank t s) (liveT : t.Live) (liveS : s.Live) {command : Command}
    (own : s.identity = some command.entityId) (shared' shared : Shared E.Memory)
    (patience : Nat) :
    ∃ v : Verdict E.State,
      (t.serve shared' ⟨.command command, patience⟩).session = (t.awake blank).settle v ∧
        (s.serve shared ⟨.command command, patience⟩).session = (s.awake blank).settle v ∧
        (t.serve shared' ⟨.command command, patience⟩).response.ending.Alike
          (s.serve shared ⟨.command command, patience⟩).response.ending := by
  obtain ⟨i, after, ended⟩ :=
    Session.serve_command empty liveT (answers.identity.trans own) shared' patience
  obtain ⟨j, after', ended'⟩ := Session.serve_command empty liveS own shared patience
  rw [answers.verdict_eq steady shared' shared] at after ended
  refine ⟨_, after, after', ?_⟩
  rw [ended, ended']
  exact Verdict.ending_alike _ _ i j

/-- Two sessions that are both terminated, or both live with the same answers to come. -/
inductive Equivalent (blank : E.State) (t s : Session E) : Prop
  | closed (first : t.phase = .terminated) (second : s.phase = .terminated)
  | live (first : t.Live) (second : s.Live) (answers : AnswersAlike blank t s)

theorem Equivalent.serve (empty : E.emptyState = .ok blank) (steady : E.Steady)
    (equivalent : Equivalent blank t s) {turn : Turn} (asks : turn.message.Asks)
    (shared' shared : Shared E.Memory) :
    Equivalent blank (t.serve shared' turn).session (s.serve shared turn).session ∧
      (t.serve shared' turn).response.ending.Alike (s.serve shared turn).response.ending := by
  obtain ⟨message, patience⟩ := turn
  cases equivalent with
  | closed first second =>
      obtain ⟨same, ended⟩ := serve_terminated first shared' ⟨message, patience⟩
      obtain ⟨same', ended'⟩ := serve_terminated second shared ⟨message, patience⟩
      rw [same, same', ended, ended']
      exact ⟨.closed first second, .same _⟩
  | live first second answers =>
      cases message with
      | init init => exact asks.elim
      | event record => exact asks.elim
      | command command =>
          by_cases own : s.identity = some command.entityId
          · obtain ⟨v, after, after', alike⟩ :=
              answers.serve_command empty steady first second own shared' shared patience
            rw [after, after']
            exact ⟨.live (.inr (settle_frame _ v).1) (.inr (settle_frame _ v).1) (answers.settle v),
              alike⟩
          · obtain ⟨closed, i, ended⟩ :=
              serve_foreign first (answers.identity ▸ own) shared' patience
            obtain ⟨closed', j, ended'⟩ := serve_foreign second own shared patience
            refine ⟨.closed closed closed', ?_⟩
            rw [ended, ended', identityOrBlank, answers.identity]
            exact .failures _ _ i j
      | snapshotRequest request =>
          obtain ⟨i, after, ended⟩ := serve_snapshotRequest empty first request shared' patience
          obtain ⟨j, after', ended'⟩ := serve_snapshotRequest empty second request shared patience
          rw [after, after', ended, ended']
          exact ⟨.live (.inr rfl) (.inr rfl) answers.awake,
            portrait_alike answers.state answers.current request.requestId i j⟩

/-- Equivalent sessions of a steady entity answer every list of commands and snapshot requests
alike. -/
theorem Equivalent.converse (empty : E.emptyState = .ok blank) (steady : E.Steady)
    (equivalent : Equivalent blank t s) (shared' shared : Shared E.Memory) {turns : List Turn}
    (asks : ∀ turn ∈ turns, turn.message.Asks) :
    List.Forall₂ Exchange.Alike (t.converse shared' turns).exchanges
      (s.converse shared turns).exchanges := by
  induction turns generalizing t s shared' shared with
  | nil => exact .nil
  | cons turn rest ih =>
      obtain ⟨first, others⟩ := List.forall_mem_cons.mp asks
      obtain ⟨next, alike⟩ := equivalent.serve empty steady first shared' shared
      exact .cons ⟨rfl, alike⟩ (ih next _ _ others)

end Session

end EntityEngine
