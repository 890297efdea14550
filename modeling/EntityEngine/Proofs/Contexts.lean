import EntityEngine.Proofs.Verdict
import EntityEngine.Samples.Script

/-!
# The lifetime of contexts

A session opens a context for each command that its handlers may get to see, and closes it
on every way out: when the handler has ended, panicked, was never found, or was given up.
So between messages a channel has no active context, and while a handler runs it has one,
that of the handler's own command. A handler that kept the context of an earlier command
learns nothing from it. A handler that ends with such a refusal has changed nothing, but its
command has recreated an entity that was deleted, as every command does.

Channels of one entity type share their board. What is said here of one channel holds
beside whatever contexts the others have open.
-/

namespace EntityEngine

namespace Board

/-- Only contexts that were opened are active. -/
def Sound (b : Board) : Prop := ∀ number ∈ b.active, number < b.opened

/-- The same contexts are active as before, and those opened have kept their numbers. -/
structure Keeps (b after : Board) : Prop where
  active : after.active = b.active
  opened : b.opened ≤ after.opened

variable {b after last : Board}

theorem Keeps.refl (b : Board) : b.Keeps b := ⟨rfl, Nat.le_refl _⟩

theorem Keeps.trans (h : b.Keeps after) (h' : after.Keeps last) : b.Keeps last :=
  ⟨h'.active.trans h.active, Nat.le_trans h.opened h'.opened⟩

theorem Sound.keeps (sound : b.Sound) (h : b.Keeps after) : after.Sound := by
  intro number active
  rw [h.active] at active
  exact Nat.lt_of_lt_of_le (sound number active) h.opened

theorem sound_empty : empty.Sound := fun _ active => nomatch active

/-- A context that was opened and closed leaves nothing behind but its number. -/
theorem Sound.keeps_close (sound : b.Sound) {context : Context} (number : context.number = b.opened)
    (active : after.active = b.opened :: b.active) (opened : after.opened = b.opened + 1) :
    b.Keeps (after.close context) := by
  refine ⟨?_, opened ▸ Nat.le_succ _⟩
  have others : b.active.filter (· ≠ b.opened) = b.active := by
    refine List.filter_eq_self.mpr fun n mem => ?_
    simpa using Nat.ne_of_lt (sound n mem)
  simpa [close, active, number] using others

end Board

namespace Context

variable {c : Context} {b : Board}

/-- The context answers every question by what it was opened with. -/
structure Tells (c : Context) (b : Board) : Prop where
  entityId : c.entityId? b = .ok c.entityId
  sequenceNumber : c.sequenceNumber? b = .ok c.sequenceNumber
  operation : c.operation? b = .ok c.operation
  commandId : c.commandId? b = .ok c.commandId
  metadata : c.metadata? b = .ok c.metadata
  trace : c.trace? b = .ok c.trace

/-- The context answers every question by the refusal that names its own operation. -/
structure Refuses (c : Context) (b : Board) : Prop where
  inactive : c.isActive b = false
  entityId : c.entityId? b = .error (.inactive c.operation)
  sequenceNumber : c.sequenceNumber? b = .error (.inactive c.operation)
  operation : c.operation? b = .error (.inactive c.operation)
  commandId : c.commandId? b = .error (.inactive c.operation)
  metadata : c.metadata? b = .error (.inactive c.operation)
  trace : c.trace? b = .error (.inactive c.operation)

theorem tells_of_active (active : c.isActive b = true) : c.Tells b := by
  have told {α : Type} (answer : Context → α) : c.ask b answer = .ok (answer c) :=
    (ask_eq_ok_iff c b answer _).mpr ⟨active, rfl⟩
  exact ⟨told _, told _, told _, told _, told _, told _⟩

theorem refuses_of_inactive (inactive : c.isActive b = false) : c.Refuses b := by
  have refused {α : Type} (answer : Context → α) :
      c.ask b answer = .error (.inactive c.operation) := ask_of_inactive c b answer inactive
  exact ⟨inactive, refused _, refused _, refused _, refused _, refused _, refused _⟩

theorem isActive_keeps {after : Board} (h : b.Keeps after) : c.isActive after = c.isActive b := by
  rw [isActive, h.active, isActive]

theorem inactive_of_le (sound : b.Sound) (unopened : b.opened ≤ c.number) :
    c.isActive b = false := by
  rw [isActive, List.contains_eq_mem, decide_eq_false_iff_not]
  exact fun active => Nat.not_lt.mpr unopened (sound _ active)

end Context

namespace Session

variable {E : Entity} {s : Session E}

/-- The session once a command has reached it. A deleted entity has begun a new life. -/
def activated (s : Session E) (life : Incarnation E.State) : Session E :=
  { s with
    phase := .active
    incarnation := some life
    deleted := s.deleted && s.incarnation.isSome }

/-- The step leaves no handler running, and the board like this. -/
structure Settles (board : Board) (step : Step E) : Prop where
  board : step.shared.board = board
  idle : ∀ call, step.response ≠ .calling call

theorem Settles.preceded {board : Board} {step : Step E} (h : Settles board step)
    (notices : List Notice) (calls : List TraceCall) :
    Settles board (step.preceded notices calls) :=
  ⟨h.board, h.idle⟩

theorem settles_violate (s : Session E) (shared : Shared E.Memory) (violation : Violation)
    (commandId : Option UInt64) : Settles shared.board (s.violate shared violation commandId) :=
  ⟨rfl, nofun⟩

theorem settles_failRecovery (s : Session E) (shared : Shared E.Memory) (error : RecoveryError) :
    Settles shared.board (s.failRecovery shared error) :=
  ⟨rfl, nofun⟩

theorem settles_receiveInit (s : Session E) (shared : Shared E.Memory) (init : Init) :
    Settles shared.board (s.receiveInit shared init) := by
  unfold receiveInit
  split
  · exact settles_violate s shared _ _
  · simp only
    split
    · exact (settles_failRecovery _ shared _).preceded _ _
    · exact ⟨rfl, nofun⟩
    · exact ⟨rfl, nofun⟩

theorem settles_receiveEvent (s : Session E) (shared : Shared E.Memory) (record : EventRecord) :
    Settles shared.board (s.receiveEvent shared record) := by
  unfold receiveEvent
  split
  · exact ⟨rfl, nofun⟩
  split
  · exact settles_violate _ shared _ _
  simp only
  split
  · exact settles_failRecovery _ shared _
  split
  · exact ⟨rfl, nofun⟩
  split
  · exact ⟨rfl, nofun⟩
  · exact settles_failRecovery _ shared _

theorem settles_receiveSnapshotRequest (s : Session E) (shared : Shared E.Memory)
    (request : SnapshotRequest) :
    Settles shared.board (s.receiveSnapshotRequest shared request) := by
  unfold receiveSnapshotRequest
  split
  · exact ⟨rfl, nofun⟩
  · split
    · exact ⟨rfl, nofun⟩
    · exact (settles_failRecovery _ shared _).preceded _ _

theorem settles_refuse (s : Session E) (shared : Shared E.Memory) (ticket : Ticket)
    (error : CommandError) : Settles shared.board (s.refuse shared ticket error) := by
  unfold refuse
  split <;> exact ⟨rfl, nofun⟩

/-- However a command ends, its context is closed. -/
theorem settles_conclude (s : Session E) (shared : Shared E.Memory) (ticket : Ticket)
    (ending : Except CommandError (Effect E.State E.Event)) :
    Settles (shared.board.close ticket.context) (s.conclude shared ticket ending) := by
  unfold conclude
  cases ending with
  | error e => exact settles_refuse s (abandon shared ticket) ticket e
  | ok effect =>
      cases s.present with
      | error crash => exact ⟨rfl, nofun⟩
      | ok life =>
          simp only
          split
          · exact ⟨rfl, nofun⟩
          · exact settles_refuse _ (abandon shared ticket) ticket _

theorem board_await (ticket : Ticket) (patience : Nat)
    (activity : Activity E.Memory E.State E.Event) (shared : Shared E.Memory) :
    (await ticket patience activity shared).2.board = shared.board := by
  induction patience generalizing activity shared with
  | zero => rfl
  | succ patience ih =>
      have same : (advance shared ⟨ticket, activity⟩).2.board = shared.board := rfl
      unfold await
      generalize advance shared ⟨ticket, activity⟩ = advanced at *
      obtain ⟨ending | ⟨span, rest⟩ | _, after⟩ := advanced
      · exact same
      · exact (ih rest after).trans same
      · exact same

/-- A call that is seen through or given up has closed its context. -/
theorem board_pursue (s : Session E) (shared : Shared E.Memory) (call : Call E)
    (patience : Nat) :
    (s.pursue shared call patience).shared.board = shared.board.close call.ticket.context := by
  have same := board_await call.ticket patience call.activity shared
  unfold pursue
  generalize await call.ticket patience call.activity shared = awaited at *
  obtain ⟨_ | ending, after⟩ := awaited
  · exact congrArg (·.close call.ticket.context) same
  · exact (settles_conclude s after call.ticket ending).board.trans
      (congrArg (·.close call.ticket.context) same)

theorem revive_of_present {life : Incarnation E.State} (here : s.present = .ok life) :
    ∃ notices, ({ s with phase := .active } : Session E).revive =
      (s.activated life, notices, .ok life) := by
  obtain ⟨options, phase, identity, incarnation, deleted⟩ := s
  cases incarnation with
  | some life => cases here; exact ⟨[], by simp [revive, present, activated]⟩
  | none =>
      have fresh : E.emptyState.map .fresh = .ok life := here
      cases deleted <;> exact ⟨_, by simp only [revive, present, fresh]; rfl⟩

theorem revive_of_crash {crash : Crash} (here : s.present = .error crash) :
    ∃ after notices, ({ s with phase := .active } : Session E).revive =
      (after, notices, .error crash) := by
  obtain ⟨options, phase, identity, incarnation, deleted⟩ := s
  cases incarnation with
  | some life => cases here
  | none =>
      have fresh : E.emptyState.map Incarnation.fresh = .error crash := here
      cases deleted <;> exact ⟨_, _, by simp only [revive, present, fresh]; rfl⟩

/-- The number that a command finds is the one that can be seen from outside. -/
theorem current_of_present {life : Incarnation E.State} (here : s.present = .ok life) :
    life.position.current = s.sequenceNumber?.getD 0 := by
  obtain ⟨options, phase, identity, incarnation, deleted⟩ := s
  cases incarnation with
  | some life => cases here; rfl
  | none =>
      have fresh : E.emptyState.map .fresh = .ok life := here
      cases blank : E.emptyState with
      | error crash => rw [blank] at fresh; cases fresh
      | ok state => rw [blank] at fresh; cases fresh; rfl

/-- What the beginning of a message does to the contexts. -/
inductive Begun (s : Session E) (shared : Shared E.Memory) : Inbound → Step E → Prop
  | settled {message : Inbound} {step : Step E} (keeps : shared.board.Keeps step.shared.board)
      (idle : ∀ call, step.response ≠ .calling call) : Begun s shared message step
  | called {command : Command} {life : Incarnation E.State} {trace : TraceHandle}
      {context : Context} {board : Board} {activity : Activity E.Memory E.State E.Event}
      {notices : List Notice} {calls : List TraceCall}
      (own : s.identity = some command.entityId) (here : s.present = .ok life)
      (opens : shared.board.openContext command.entityId life.position.current command.operation
        command.commandId command.metadata trace = (context, board)) :
      Begun s shared (.command command) ⟨s.activated life, { shared with board }, notices, calls,
        .calling ⟨⟨command.commandId, command.operation, life.position.current, context⟩,
          activity⟩⟩

theorem Settles.begun {shared : Shared E.Memory} {message : Inbound} {board : Board}
    {step : Step E} (h : Settles board step) (keeps : shared.board.Keeps board) :
    Begun s shared message step :=
  .settled (h.board ▸ keeps) h.idle

theorem begun_launch (s : Session E) {shared : Shared E.Memory} (sound : shared.board.Sound)
    {command : Command} (own : s.identity = some command.entityId) {life : Incarnation E.State}
    (here : s.present = .ok life) (notices : List Notice) :
    Begun s shared (.command command)
      (((s.activated life).launch shared command life).preceded notices []) := by
  unfold launch
  simp only
  cases dispatched : E.dispatch command.operation life.state _ command.payload with
  | error e =>
      exact (((settles_conclude _ _ _ (.error e)).preceded [] _).preceded notices []).begun
        (sound.keeps_close rfl rfl rfl)
  | ok launched =>
      cases launched with
      | error crash => exact .settled (sound.keeps_close rfl rfl rfl) nofun
      | ok activity => exact .called own here rfl

theorem begun_receiveCommand (s : Session E) {shared : Shared E.Memory}
    (sound : shared.board.Sound) (command : Command) :
    Begun s shared (.command command)
      (({ s with phase := .active } : Session E).receiveCommand shared command) := by
  unfold receiveCommand
  split
  next own =>
    cases here : s.present with
    | ok life =>
        obtain ⟨notices, revived⟩ := revive_of_present here
        rw [revived]
        exact begun_launch s sound own here notices
    | error crash =>
        obtain ⟨after, notices, revived⟩ := revive_of_crash here
        rw [revived]
        exact .settled (.refl _) nofun
  · exact (settles_violate _ shared _ _).begun (.refl _)

/-- A message opens a context only if it is a command that is handed to a handler. -/
theorem begun_begin (s : Session E) {shared : Shared E.Memory} (sound : shared.board.Sound)
    (message : Inbound) : Begun s shared message (s.begin shared message) := by
  unfold Session.begin
  split
  · refine .settled (.refl _) ?_
    generalize afterTermination _ = out
    cases out <;> exact nofun
  · exact (settles_receiveInit s shared _).begun (.refl _)
  · exact (settles_violate s shared _ _).begun (.refl _)
  · exact (settles_violate s shared _ _).begun (.refl _)
  · exact (settles_receiveEvent s shared _).begun (.refl _)
  · exact (settles_violate s shared _ _).begun (.refl _)
  · exact begun_receiveCommand s sound _
  · exact (settles_receiveSnapshotRequest _ shared _).begun (.refl _)

/-- A message that has been served has left no context active. -/
theorem keeps_serve (s : Session E) {shared : Shared E.Memory} (sound : shared.board.Sound)
    (turn : Turn) : shared.board.Keeps (s.serve shared turn).shared.board := by
  obtain ⟨message, patience⟩ := turn
  have begun := begun_begin s sound message
  unfold serve carry
  simp only
  generalize s.begin shared message = step at *
  cases begun with
  | settled keeps idle =>
      split
      next call calling => exact (idle call calling).elim
      · exact keeps
  | called own here opens =>
      cases opens
      simp only [Step.preceded, board_pursue]
      exact sound.keeps_close rfl rfl rfl

theorem keeps_converse (s : Session E) {shared : Shared E.Memory} (sound : shared.board.Sound)
    (turns : List Turn) : shared.board.Keeps (s.converse shared turns).shared.board := by
  induction turns generalizing s shared with
  | nil => exact .refl _
  | cons turn rest ih =>
      have keeps := keeps_serve s sound turn
      exact keeps.trans (ih _ (sound.keeps keeps))

/-- The handler of a call goes on with this activity and these shared things: when it is
called, and each time it has slept. -/
inductive Resumes (call : Call E) (shared : Shared E.Memory) :
    Activity E.Memory E.State E.Event → Shared E.Memory → Prop
  | called : Resumes call shared call.activity shared
  | slept {activity rest : Activity E.Memory E.State E.Event} {now later : Shared E.Memory}
      {span : Nat} (resumes : Resumes call shared activity now)
      (sleeps : advance now ⟨call.ticket, activity⟩ = (.sleeping span rest, later)) :
      Resumes call shared rest later

variable {call : Call E} {shared now : Shared E.Memory}
  {activity : Activity E.Memory E.State E.Event}

theorem Resumes.board (h : Resumes call shared activity now) : now.board = shared.board := by
  induction h with
  | called => rfl
  | slept _ sleeps ih =>
      have same := congrArg (fun advanced => advanced.2.board) sleeps
      exact same.symm.trans ih

/-- Whoever is patient enough comes to the moment. -/
theorem Resumes.await (h : Resumes call shared activity now) :
    ∃ n, ∀ patience, await call.ticket (patience + n) call.activity shared =
      await call.ticket patience activity now := by
  induction h with
  | called => exact ⟨0, fun _ => rfl⟩
  | slept _ sleeps ih =>
      obtain ⟨n, same⟩ := ih
      refine ⟨n + 1, fun patience => ?_⟩
      rw [← Nat.add_assoc, Nat.add_right_comm, same, Session.await, sleeps]

/-- Of all contexts that were not active at the start, this one answers and the others
refuse. -/
structure Attends (start : Board) (context : Context) (now : Board) : Prop where
  tells : context.Tells now
  others : ∀ other : Context, other.isActive start = false → other.number ≠ context.number →
    other.Refuses now

theorem attends_of_active {start before now : Board} {context : Context}
    (keeps : start.Keeps before) (active : now.active = context.number :: before.active) :
    Attends start context now where
  tells := Context.tells_of_active (by simp [Context.isActive, active])
  others other inactive differs := by
    refine Context.refuses_of_inactive ?_
    rw [← Context.isActive_keeps keeps] at inactive
    simpa [Context.isActive, active, differs] using inactive

/-- A call is that of a command for the channel's own entity, with a context of its own. -/
theorem called_of_begin (s : Session E) {shared : Shared E.Memory} (sound : shared.board.Sound)
    {message : Inbound} (calling : (s.begin shared message).response = .calling call) :
    ∃ command life trace, message = .command command ∧ s.identity = some command.entityId ∧
      s.present = .ok life ∧ (s.begin shared message).session = s.activated life ∧
      (s.begin shared message).shared.board.active = shared.board.opened :: shared.board.active ∧
      (s.begin shared message).shared.board.opened = shared.board.opened + 1 ∧
      call.ticket = ⟨command.commandId, command.operation, life.position.current,
        ⟨shared.board.opened, command.entityId, life.position.current, command.operation,
          command.commandId, command.metadata, trace⟩⟩ := by
  have begun := begun_begin s sound message
  generalize s.begin shared message = step at *
  cases begun with
  | settled keeps idle => exact (idle call calling).elim
  | called own here opens =>
      cases opens
      cases calling
      exact ⟨_, _, _, rfl, own, here, rfl, rfl, rfl, rfl⟩

theorem serve_eq_pursue {message : Inbound}
    (calling : (s.begin shared message).response = .calling call) (patience : Nat) :
    let begun := s.begin shared message
    s.serve shared ⟨message, patience⟩ =
      (begun.session.pursue begun.shared call patience).preceded begun.notices begun.calls := by
  simp only [serve, carry, calling]

/-- The context of a command is never the context of a later one. -/
theorem number_lt_of_converse (s : Session E) {start : Shared E.Memory}
    (sound : start.board.Sound) (before : List Turn) (turn : Turn) (after : List Turn) :
    let earlier := s.converse start before
    (earlier.session.begin earlier.shared turn.message).response = .calling call →
      start.board.opened ≤ call.ticket.context.number ∧
        call.ticket.context.number <
          (s.converse start (before ++ turn :: after)).shared.board.opened := by
  intro earlier calling
  have keeps := keeps_converse s sound before
  obtain ⟨command, life, trace, -, -, -, -, -, opened, ticket⟩ :=
    called_of_begin earlier.session (sound.keeps keeps) calling
  have number : call.ticket.context.number = earlier.shared.board.opened := by rw [ticket]
  have closed : (earlier.session.serve earlier.shared turn).shared.board.opened =
      earlier.shared.board.opened + 1 := by
    rw [serve_eq_pursue calling turn.patience, Step.preceded, board_pursue]
    exact opened
  have later := keeps_converse (earlier.session.serve earlier.shared turn).session
    ((sound.keeps keeps).keeps (keeps_serve earlier.session (sound.keeps keeps) turn)) after
  have opened := later.opened
  rw [closed] at opened
  rw [number, converse_append]
  exact ⟨keeps.opened, opened⟩

/-- The session is active and else as it was, or its entity has begun anew because it had no
life. -/
inductive Unaffected (s : Session E) : Session E → Prop
  | living {life : Incarnation E.State} (living : s.incarnation = some life) :
      Unaffected s { s with phase := .active }
  | recreated {blank : E.State} (gone : s.incarnation = none) (empty : E.emptyState = .ok blank) :
      Unaffected s
        { s with phase := .active, incarnation := some (.fresh blank), deleted := false }

theorem unaffected_activated {life : Incarnation E.State} (here : s.present = .ok life) :
    s.Unaffected (s.activated life) := by
  obtain ⟨options, phase, identity, incarnation, deleted⟩ := s
  cases incarnation with
  | some living =>
      cases here
      simpa [activated] using
        Unaffected.living (s := ⟨options, phase, identity, some life, deleted⟩) rfl
  | none =>
      have fresh : E.emptyState.map Incarnation.fresh = .ok life := here
      cases empty : E.emptyState with
      | error crash => rw [empty] at fresh; cases fresh
      | ok blank =>
          rw [empty] at fresh
          cases fresh
          simpa [activated] using
            Unaffected.recreated (s := ⟨options, phase, identity, none, deleted⟩) rfl empty

/-- A channel that has called a handler and calls another is active. -/
theorem active_of_calling (s : Session E) {start : Shared E.Memory} (sound : start.board.Sound)
    {turn : Turn} {earlier : Call E}
    (called : (s.begin start turn.message).response = .calling earlier) {rest : List Turn}
    {shared : Shared E.Memory} {message : Inbound}
    (calling : ((s.converse start (turn :: rest)).session.begin shared message).response =
      .calling call) :
    (s.converse start (turn :: rest)).session.phase = .active := by
  obtain ⟨-, life, -, -, -, -, activated, -⟩ := called_of_begin s sound called
  have begun : (s.begin start turn.message).session.Holds .active := by
    rw [activated]
    exact .inl rfl
  have served : (s.serve start turn).session.Holds .active := begun.carry turn.patience
  obtain active | closed := served.converse (s.serve start turn).shared rest
  · exact active
  · have closed : (s.converse start (turn :: rest)).session.phase = .terminated := closed
    simp only [Session.begin, closed] at calling
    cases message <;> cases calling

/-- A handler that ends with the refusal of a context has its command answered by a failure
that leaves the session as it was when the handler was called. -/
theorem serve_of_refusal {message : Inbound} {command : Command} {life : Incarnation E.State}
    (calling : (s.begin shared message).response = .calling call)
    (session : (s.begin shared message).session = s.activated life)
    (here : s.present = .ok life) (commandId : call.ticket.commandId = command.commandId)
    (resumes : Resumes call (s.begin shared message).shared activity now)
    {e : ContextError} {memory : E.Memory}
    (ends : activity.run now.board now.memory = (.ended (.error (.context e)), memory)) :
    ∃ n, ∀ patience ≥ n,
      let step := s.serve shared ⟨message, patience⟩
      s.Unaffected step.session ∧
        ∃ id, step.response.ending = .answered (.failure
          ⟨some command.commandId, s!"unexpected error [{id.text}]", some id⟩) := by
  obtain ⟨n, comes⟩ := resumes.await
  refine ⟨n + 1, fun patience enough => ?_⟩
  obtain ⟨k, rfl⟩ := Nat.exists_eq_add_of_le enough
  have awaited :
      Session.await call.ticket (n + 1 + k) call.activity (s.begin shared message).shared =
        (some (.error (.handler (.context e))), { now with memory }) := by
    rw [show n + 1 + k = k + 1 + n by omega, comes, Session.await, advance, ends]
    rfl
  intro step
  obtain ⟨id, same, answered⟩ := refuse_active (s := s.activated life) rfl
    (abandon { now with memory } call.ticket) call.ticket (.handler (.context e))
  have concluded : step = ((s.activated life).refuse (abandon { now with memory } call.ticket)
      call.ticket (.handler (.context e))).preceded (s.begin shared message).notices
      (s.begin shared message).calls := by
    simp only [step, serve_eq_pursue calling, pursue, awaited, session]
    rfl
  have left : step.session = s.activated life := by
    rw [concluded]
    exact same
  refine ⟨left ▸ unaffected_activated here, id, ?_⟩
  rw [concluded]
  exact congrArg Response.ending (answered.trans (by rw [commandId]))

/-- Wherever a channel has come to, every context that was not active before it was opened
refuses all answers. And when a handler is then called, at every moment at which it goes on
the context of its command answers with the identity of the channel, the number after all
earlier commands, and what the command says; all others refuse, those of the earlier commands
of an active channel among them. If the handler ends with such a refusal, its command is
answered by a failure and the session is unaffected, but that an entity without a life, such as
one that was deleted, has begun anew. -/
theorem converse_contexts (o : Options) (start : Shared E.Memory) (sound : start.board.Sound)
    (turns : List Turn) :
    let c := (fresh o : Session E).converse start turns
    (∀ context : Context, context.isActive start.board = false →
      context.Refuses c.shared.board) ∧
    ∀ message call, (c.session.begin c.shared message).response = .calling call →
      ∃ command life trace, message = .command command ∧
        c.session.identity = some command.entityId ∧ c.session.present = .ok life ∧
        call.ticket.context = ⟨c.shared.board.opened, command.entityId,
          c.session.sequenceNumber?.getD 0, command.operation, command.commandId,
          command.metadata, trace⟩ ∧
        ∀ activity now, Resumes call (c.session.begin c.shared message).shared activity now →
          Attends start.board call.ticket.context now.board ∧
          (∀ before turn after earlier, turns = before ++ turn :: after →
            let d := (fresh o : Session E).converse start before
            (d.session.begin d.shared turn.message).response = .calling earlier →
              earlier.ticket.context.Refuses now.board ∧ c.session.phase = .active) ∧
          ∀ e memory,
            activity.run now.board now.memory = (.ended (.error (.context e)), memory) →
              ∃ n, ∀ patience ≥ n,
                let step := c.session.serve c.shared ⟨message, patience⟩
                c.session.Unaffected step.session ∧
                  ∃ id, step.response.ending = .answered (.failure
                    ⟨some command.commandId, s!"unexpected error [{id.text}]", some id⟩) := by
  intro c
  have keeps := keeps_converse (fresh o : Session E) sound turns
  have sound' : c.shared.board.Sound := sound.keeps keeps
  refine ⟨fun context inactive => Context.refuses_of_inactive ?_, fun message call calling => ?_⟩
  · exact (Context.isActive_keeps keeps).trans inactive
  obtain ⟨command, life, trace, rfl, own, here, session, active, -, ticket⟩ :=
    called_of_begin c.session sound' calling
  refine ⟨command, life, trace, rfl, own, here, ?_, fun activity now resumes => ?_⟩
  · rw [ticket, current_of_present here]
  have number : call.ticket.context.number = c.shared.board.opened := by rw [ticket]
  have attends : Attends start.board call.ticket.context now.board := by
    refine attends_of_active keeps ?_
    rw [resumes.board, active, number]
  refine ⟨attends, ?_, fun e memory ends => ?_⟩
  · intro before turn after earlier split d begun
    constructor
    · obtain ⟨unopened, sooner⟩ := number_lt_of_converse (fresh o) sound before turn after begun
      rw [← split] at sooner
      exact attends.others _ (Context.inactive_of_le sound unopened)
        (number ▸ Nat.ne_of_lt sooner)
    · have later : c.session = (d.session.converse d.shared (turn :: after)).session := by
        rw [← session_converse_append, ← split]
      rw [later] at calling ⊢
      exact active_of_calling d.session (sound.keeps (keeps_converse _ sound before)) begun
        calling
  · exact serve_of_refusal calling session here (by rw [ticket]) resumes ends

/-- A scripted handler keeps its context, and the next one asks that for its operation. -/
theorem converse_contexts_stash :
    let entity := Samples.Script.entity "script" (.eventSourced false)
    let script (members : List (String × Json)) (id : UInt64) : Inbound :=
      .command (.plain id "c" "do" (some (.ofMembers members)))
    let turns : List Turn := [⟨.init ⟨"c", none⟩, 0⟩, ⟨script [("stash", .bool true),
      ("effect", .array [.array [.string "persist", .array [.string "x"]]])] 1, 1⟩]
    let c := (fresh .default : Session entity).converse (entity.share Uuid.ofNat) turns
    let message := script [("use_stash", .string "operation")] 2
    ∃ n, ∀ patience ≥ n,
      let step := c.session.serve c.shared ⟨message, patience⟩
      step.session.state? = some (.array [.string "x"]) ∧
        ∃ id, step.response.ending = .answered (.failure
          ⟨some 2, s!"unexpected error [{id.text}]", some id⟩) := by
  intro entity script turns c message
  obtain ⟨call, calling⟩ :
      ∃ call, (c.session.begin c.shared message).response = .calling call := ⟨_, rfl⟩
  obtain ⟨-, calls⟩ :=
    converse_contexts .default (entity.share Uuid.ofNat) Board.sound_empty turns
  obtain ⟨command, life, trace, same, -, here, -, moments⟩ := calls message call calling
  have lived : c.session.present = .ok ⟨.array [.string "x"], ⟨1, 0⟩⟩ := rfl
  obtain rfl := Inbound.command.inj same
  cases lived.symm.trans here
  cases calling
  obtain ⟨-, -, refused⟩ := moments _ _ .called
  obtain ⟨n, fails⟩ := refused (.inactive "do") _ rfl
  refine ⟨n, fun patience enough => ?_⟩
  intro step
  obtain ⟨unaffected, answered⟩ := fails patience enough
  refine ⟨?_, answered⟩
  generalize step.session = after at unaffected ⊢
  cases unaffected with
  | living => rfl
  | recreated gone => cases gone

/-- The entity was deleted after a handler kept its context. The next handler asks that for its
operation and fails, but the entity has been recreated. -/
theorem converse_contexts_deleted :
    let entity := Samples.Script.entity "script" (.eventSourced false)
    let script (members : List (String × Json)) (id : UInt64) : Inbound :=
      .command (.plain id "c" "do" (some (.ofMembers members)))
    let turns : List Turn := [⟨.init ⟨"c", none⟩, 0⟩,
      ⟨script [("stash", .bool true),
        ("effect", .array [.array [.string "persist", .array [.string "x"]]])] 1, 1⟩,
      ⟨script [("effect", .array [.array [.string "delete_entity"],
        .array [.string "then_reply", .string "deleted"]])] 2, 1⟩]
    let c := (fresh .default : Session entity).converse (entity.share Uuid.ofNat) turns
    let message := script [("use_stash", .string "operation")] 3
    let step := c.session.serve c.shared ⟨message, 1⟩
    (∃ call memory, (c.session.begin c.shared message).response = .calling call ∧
      call.activity.run (c.session.begin c.shared message).shared.board c.shared.memory =
        (.ended (.error (.context (.inactive "do"))), memory)) ∧
    (∃ id, step.response.ending = .answered (.failure
      ⟨some 3, s!"unexpected error [{id.text}]", some id⟩)) ∧
    c.session.state? = none ∧ c.session.deleted = true ∧
    step.session.state? = some (.array []) ∧ step.session.deleted = false :=
  ⟨⟨_, _, rfl, rfl⟩, ⟨_, rfl⟩, rfl, rfl, rfl, rfl⟩

end Session

end EntityEngine
