import EntityEngine.Proofs.Answers

/-!
# Handling messages to the end

A handler finishes when it never hangs, whatever the memory holds. The number of its naps
is how often it goes to sleep before it ends, and a host that lets it go on once more than
that sees the command through. Handling a message is serving it with just that patience.

A talk is the fold of handling over a list of messages. It is over with the first message
after which the session is terminated, and what comes later is not heard.
-/

namespace EntityEngine

namespace Activity

variable {M S E : Type}

/-- How often the activity goes to sleep while nobody else uses the memory. -/
def naps (board : Board) (memory : M) : Activity M S E → Nat
  | finished _ => 0
  | panicked _ => 0
  | asleep 0 rest => rest.naps board memory
  | asleep (_ + 1) rest => rest.naps board memory + 1
  | hung => 0
  | recalling next => (next memory board).naps board memory
  | remembering memory rest => rest.naps board memory

/-- The activity never hangs. -/
inductive Finishes : Activity M S E → Prop
  | finished (result : Except HandlerError (Effect S E)) : Finishes (finished result)
  | panicked (crash : Crash) : Finishes (panicked crash)
  | asleep (span : Nat) {rest : Activity M S E} (later : Finishes rest) :
      Finishes (asleep span rest)
  | recalling {next : M → Board → Activity M S E}
      (later : ∀ memory board, Finishes (next memory board)) : Finishes (recalling next)
  | remembering (memory : M) {rest : Activity M S E} (later : Finishes rest) :
      Finishes (remembering memory rest)

/-- How a run of an activity that finishes can come out. -/
inductive RunsWithin (board : Board) (naps : Nat) : Progress M S E × M → Prop
  | ended (result : Except HandlerError (Effect S E)) (memory : M) :
      RunsWithin board naps (.ended result, memory)
  | panicked (crash : Crash) (memory : M) : RunsWithin board naps (.panicked crash, memory)
  | sleeping (span : Nat) {rest : Activity M S E} (memory : M) (finishes : rest.Finishes)
      (fewer : naps = rest.naps board memory + 1) :
      RunsWithin board naps (.sleeping span rest, memory)

theorem Finishes.run {activity : Activity M S E} (finishes : activity.Finishes) (board : Board)
    (memory : M) : RunsWithin board (activity.naps board memory) (activity.run board memory) := by
  induction finishes generalizing memory with
  | finished result => exact .ended result memory
  | panicked crash => exact .panicked crash memory
  | asleep span later ih =>
      cases span with
      | zero => exact ih memory
      | succ span => exact .sleeping (span + 1) memory later rfl
  | recalling _ ih => exact ih memory board memory
  | remembering kept _ ih => exact ih kept

end Activity

/-- The handlers finish once they have begun, and they do begin unless their payload is
refused. -/
def Launch.Finishes {M S E : Type} : Launch M S E → Prop
  | .refused _ => True
  | .running activity => activity.Finishes
  | .crashed _ => False

def Entity.Finishing (E : Entity) : Prop := E.Launching Launch.Finishes

theorem Entity.Finishing.dispatch {E : Entity} (finishing : E.Finishing) (operation : String)
    (state : E.State) (context : Context) (payload : Option Json) :
    (∃ error, E.dispatch operation state context payload = .error error) ∨
      ∃ activity, E.dispatch operation state context payload = .ok (.ok activity) ∧
        activity.Finishes := by
  cases found : E.router.handler? operation with
  | none => exact .inl ⟨_, by rw [Entity.dispatch, found]⟩
  | some r =>
      have finishes := finishing operation r found state context (payload.getD .null)
      rw [E.dispatch_of_handler found]
      cases launched : r.launch state context (payload.getD .null) with
      | refused error => exact .inl ⟨_, rfl⟩
      | running activity =>
          rw [launched] at finishes
          exact .inr ⟨activity, rfl, finishes⟩
      | crashed crash =>
          rw [launched] at finishes
          exact finishes.elim

theorem Samples.Counter.finishing : Counter.entity.Finishing := by
  have done (effect : Effect Counter CounterEvent) : (Activity.done effect : Handling).Finishes :=
    .finished _
  have fail (error : HandlerError) : (Activity.fail error : Handling).Finishes := .finished _
  have increase (c : Counter) (context : Context) (value : Int64) :
      (Counter.increaseBy c context value).Finishes := by
    unfold Counter.increaseBy
    split
    · exact fail _
    · split
      · exact done _
      · exact .panicked _
  refine Entity.launching_of_router ?_
  unfold Counter.entity Counter.router
  refine .on ?_ (fun _ => trivial) (fun _ _ _ => .panicked _)
  refine .on ?_ (fun _ => trivial) (fun _ _ _ => fail _)
  iterate 4 refine .on ?_ (fun _ => trivial) (fun _ _ _ => done _)
  exact (Router.launching_empty _).on (fun _ => trivial) increase

/-- The message is dealt with, or its handler runs and will finish. -/
inductive Response.Tractable {E : Entity} : Response E → Prop
  | quiet : Tractable .quiet
  | answered (message : Outbound) : Tractable (.answered message)
  | calling {call : Call E} (finishes : call.activity.Finishes) : Tractable (.calling call)

def Call.naps {E : Entity} (call : Call E) (shared : Shared E.Memory) : Nat :=
  call.activity.naps shared.board shared.memory

namespace Session

variable {E : Entity} {blank : E.State} {s : Session E}

/-- How a call whose handler finishes can go on. -/
inductive AdvancesWithin (naps : Nat) : Advance E × Shared E.Memory → Prop
  | ended (ending : Except CommandError (Effect E.State E.Event)) (after : Shared E.Memory) :
      AdvancesWithin naps (.ended ending, after)
  | sleeping (span : Nat) {rest : Activity E.Memory E.State E.Event} (after : Shared E.Memory)
      (finishes : rest.Finishes) (fewer : naps = rest.naps after.board after.memory + 1) :
      AdvancesWithin naps (.sleeping span rest, after)

theorem advancesWithin_advance {call : Call E} (finishes : call.activity.Finishes)
    (shared : Shared E.Memory) : AdvancesWithin (call.naps shared) (advance shared call) := by
  have runsWithin := finishes.run shared.board shared.memory
  unfold advance
  generalize call.activity.run shared.board shared.memory = run at *
  cases runsWithin with
  | ended result memory => exact .ended _ _
  | panicked crash memory => exact .ended _ _
  | sleeping span memory finishes fewer => exact .sleeping span _ finishes fewer

/-- One time more than the handler naps is patience enough. -/
theorem await_eq_some (ticket : Ticket) {activity : Activity E.Memory E.State E.Event}
    (finishes : activity.Finishes) (shared : Shared E.Memory) {patience : Nat}
    (enough : activity.naps shared.board shared.memory < patience) :
    ∃ ending after, await ticket patience activity shared = (some ending, after) := by
  induction patience generalizing activity shared with
  | zero => exact absurd enough (Nat.not_lt_zero _)
  | succ patience ih =>
      have advancesWithin := @advancesWithin_advance E ⟨ticket, activity⟩ finishes shared
      unfold await
      generalize advance shared ⟨ticket, activity⟩ = advanced at *
      cases advancesWithin with
      | ended ending after => exact ⟨ending, after, rfl⟩
      | sleeping span after finishes fewer =>
          have fewer : activity.naps shared.board shared.memory = _ := fewer
          exact ih finishes after (by omega)

theorem await_of_le {ticket : Ticket} {n m : Nat} {activity : Activity E.Memory E.State E.Event}
    {shared after : Shared E.Memory} {ending : Except CommandError (Effect E.State E.Event)}
    (seen : await ticket n activity shared = (some ending, after)) (le : n ≤ m) :
    await ticket m activity shared = (some ending, after) := by
  induction n generalizing m activity shared with
  | zero => cases seen
  | succ n ih =>
      obtain ⟨m, rfl⟩ : ∃ k, m = k + 1 := ⟨m - 1, by omega⟩
      rw [await] at seen ⊢
      cases advanced : advance shared ⟨ticket, activity⟩ with
      | mk progress later =>
          rw [advanced] at seen
          cases progress with
          | ended ending => exact seen
          | sleeping span rest => exact ih seen (Nat.le_of_succ_le_succ le)
          | hanging => cases seen

/-- What a command comes to when its call is seen through. -/
def resolve (s : Session E) (shared : Shared E.Memory) (call : Call E) : Step E :=
  s.pursue shared call (call.naps shared + 1)

theorem resolve_of_ended {shared after : Shared E.Memory} {call : Call E}
    {ending : Except CommandError (Effect E.State E.Event)}
    (advanced : advance shared call = (.ended ending, after)) :
    s.resolve shared call = s.conclude after call.ticket ending := by
  unfold resolve pursue await
  rw [advanced]

theorem resolve_of_sleeping {shared after : Shared E.Memory} {call : Call E} {span : Nat}
    {rest : Activity E.Memory E.State E.Event} (finishes : rest.Finishes)
    (advanced : advance shared call = (.sleeping span rest, after))
    (fewer : call.naps shared = rest.naps after.board after.memory + 1) :
    s.resolve shared call = s.resolve after ⟨call.ticket, rest⟩ := by
  obtain ⟨ending, last, seen⟩ := await_eq_some call.ticket finishes after
    (Nat.lt_succ_self (rest.naps after.board after.memory))
  have later : s.resolve after ⟨call.ticket, rest⟩ = s.conclude last call.ticket ending := by
    unfold resolve pursue Call.naps
    simp only [seen]
  rw [later]
  unfold resolve pursue
  rw [fewer, await, advanced]
  simp only [seen]

theorem conclude_answered (empty : E.emptyState = .ok blank) (s : Session E)
    (shared : Shared E.Memory) (ticket : Ticket)
    (ending : Except CommandError (Effect E.State E.Event)) :
    ∃ out, (s.conclude shared ticket ending).response = .answered out := by
  have refused (t : Session E) (after : Shared E.Memory) (error : CommandError) :
      ∃ out, (t.refuse after ticket error).response = .answered out := by
    unfold refuse
    cases error.severity <;> exact ⟨_, rfl⟩
  unfold conclude
  cases ending with
  | error e => exact refused s _ e
  | ok effect =>
      simp only [present_eq empty]
      split
      · exact ⟨_, rfl⟩
      · exact refused _ _ _

theorem launch_tractable (empty : E.emptyState = .ok blank) (finishing : E.Finishing)
    (s : Session E) (shared : Shared E.Memory)
    (command : Command) (life : Incarnation E.State) :
    (s.launch shared command life).response.Tractable := by
  unfold launch
  simp only
  generalize shared.board.openContext command.entityId life.position.current command.operation
    command.commandId command.metadata _ = opened
  obtain ⟨context, board⟩ := opened
  obtain ⟨error, dispatched⟩ | ⟨activity, dispatched, finishes⟩ :=
    finishing.dispatch command.operation life.state context command.payload
  · simp only [dispatched, Step.preceded]
    obtain ⟨out, answered⟩ := conclude_answered empty s { shared with board }
      ⟨command.commandId, command.operation, life.position.current, context⟩ (.error error)
    rw [answered]
    exact .answered out
  · simp only [dispatched]
    exact .calling finishes

theorem begin_tractable (empty : E.emptyState = .ok blank) (finishing : E.Finishing)
    (s : Session E) (shared : Shared E.Memory) (message : Inbound) :
    (s.begin shared message).response.Tractable := by
  obtain ⟨notices, revived⟩ := revive_eq (s := s) empty
  by_cases closed : s.phase = .terminated
  · simp only [begin, closed]
    cases afterTermination message with
    | none => exact .quiet
    | some out => exact .answered out
  by_cases allowed : s.Allows message
  · cases message with
    | init init =>
        rw [begin_init allowed, receiveInit]
        cases s.options.expectedEntity.filter (· ≠ init.entityId) with
        | some expected => exact .answered _
        | none =>
            simp only
            obtain ⟨e, seeded, -⟩ | ⟨life, seeded, -⟩ := seed_admitted empty
              ({ s with identity := some init.entityId } : Session E) init.snapshot
            · simp only [seeded]
              exact .answered _
            · simp only [seeded]
              exact .quiet
    | event record =>
        have received : s.begin shared (.event record) = s.receiveEvent shared record := by
          simp only [begin, show s.phase = .replaying from allowed]
        rw [received, receiveEvent, present_eq empty]
        simp only
        split
        · exact .answered _
        · split
          · exact .answered _
          · simp only [empty]
            split
            · exact .quiet
            · exact .answered _
    | command command =>
        rw [begin_command_of_live allowed, receiveCommand]
        split
        · rw [revived]
          exact launch_tractable empty finishing _ shared command _
        · exact .answered _
    | snapshotRequest request =>
        rw [begin_snapshotRequest_of_live allowed, receiveSnapshotRequest, revived]
        simp only
        split <;> exact .answered _
  · obtain ⟨violation, begun⟩ := begin_misplaced closed shared allowed
    rw [begun]
    exact .answered _

/-- How often the handler that a step leaves has to go on. -/
def patience (step : Step E) : Nat :=
  match step.response with
  | .calling call => call.naps step.shared + 1
  | _ => 0

/-- Bring a step to its end. -/
def complete (step : Step E) : Step E := carry step (patience step)

theorem complete_of_calling {step : Step E} {call : Call E}
    (called : step.response = .calling call) :
    complete step = (step.session.resolve step.shared call).preceded step.notices step.calls := by
  unfold complete carry patience resolve
  simp only [called]

theorem complete_of_settled {step : Step E} (settled : ∀ call, step.response ≠ .calling call) :
    complete step = step := by
  unfold complete carry
  cases response : step.response with
  | calling call => exact (settled call response).elim
  | _ => rfl

/-- Handle a message to the end. -/
def handle (s : Session E) (shared : Shared E.Memory) (message : Inbound) : Step E :=
  complete (s.begin shared message)

/-- Whoever is patient enough sees a message handled. -/
theorem serve_eq_handle (empty : E.emptyState = .ok blank) (finishing : E.Finishing)
    (s : Session E) (shared : Shared E.Memory) (message : Inbound) {n : Nat}
    (enough : patience (s.begin shared message) ≤ n) :
    s.serve shared ⟨message, n⟩ = s.handle shared message := by
  have tractable := begin_tractable empty finishing s shared message
  unfold handle complete serve carry
  cases response : (s.begin shared message).response with
  | calling call =>
      rw [response] at tractable
      cases tractable with
      | calling finishes =>
          obtain ⟨ending, after, seen⟩ := await_eq_some call.ticket finishes
            (s.begin shared message).shared (Nat.lt_succ_self _)
          have sooner : patience (s.begin shared message) =
              call.naps (s.begin shared message).shared + 1 := by
            simp only [patience, response]
          have later := await_of_le seen (sooner ▸ enough)
          simp only [sooner, pursue, Call.naps, seen, later]
  | _ => rfl

end Session

def Response.answer? {E : Entity} : Response E → Option Outbound
  | .answered message => some message
  | _ => none

/-- How far a session has come in a list of messages, and its answers so far. -/
structure Talk (E : Entity) where
  session : Session E
  shared : Shared E.Memory
  answers : List Outbound
  /-- A message has terminated the session, and no more are heard. -/
  isOver : Bool

namespace Talk

variable {E : Entity}

/-- The talk after a step that deals with a message. -/
def after (t : Talk E) (step : Step E) : Talk E :=
  ⟨step.session, step.shared, t.answers ++ step.response.answer?.toList,
    step.session.phase = .terminated⟩

@[simp] theorem after_preceded (t : Talk E) (step : Step E) (notices : List Notice)
    (calls : List TraceCall) : t.after (step.preceded notices calls) = t.after step := rfl

def hear (t : Talk E) (message : Inbound) : Talk E :=
  if t.isOver then t else t.after (t.session.handle t.shared message)

def hearAll (t : Talk E) (messages : List Inbound) : Talk E := messages.foldl hear t

@[simp] theorem hearAll_nil (t : Talk E) : t.hearAll [] = t := rfl

@[simp] theorem hearAll_cons (t : Talk E) (message : Inbound) (rest : List Inbound) :
    t.hearAll (message :: rest) = (t.hear message).hearAll rest := rfl

theorem hearAll_append (t : Talk E) (earlier later : List Inbound) :
    t.hearAll (earlier ++ later) = (t.hearAll earlier).hearAll later :=
  List.foldl_append

theorem hear_of_isOver {t : Talk E} (past : t.isOver = true) (message : Inbound) :
    t.hear message = t := by
  simp only [hear, past, if_true]

theorem hearAll_of_isOver {t : Talk E} (past : t.isOver = true) (messages : List Inbound) :
    t.hearAll messages = t := by
  induction messages with
  | nil => rfl
  | cons message rest ih => rw [hearAll_cons, hear_of_isOver past, ih]

theorem answers_hear (t : Talk E) (message : Inbound) :
    t.answers <+: (t.hear message).answers := by
  unfold hear
  split
  · exact List.prefix_refl _
  · exact List.prefix_append _ _

theorem answers_hearAll (t : Talk E) (messages : List Inbound) :
    t.answers <+: (t.hearAll messages).answers := by
  induction messages generalizing t with
  | nil => exact List.prefix_refl _
  | cons message rest ih => exact (t.answers_hear message).trans (ih _)

end Talk

/-- Begin to talk to a session. -/
def Session.talk {E : Entity} (s : Session E) (shared : Shared E.Memory) : Talk E :=
  ⟨s, shared, [], false⟩

end EntityEngine
