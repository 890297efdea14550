import EntityEngine.Samples.Counter
import EntityEngine.Session

/-!
# Conversations

A host hands a session its messages one after the other. It lets the handler of a
command go on whenever the handler has waited long enough, and it may lose patience
and give the command up. A conversation is a whole run of this kind, with all that
could be seen of it from outside.

Nothing is assumed about the handlers: they may reject, fail, panic, sleep or hang.
The main statements here are that a conversation can be cut anywhere and that a
terminated session stays as it is.
-/

namespace EntityEngine

/-- A message, and how often its host lets the handler of a command go on. -/
structure Turn where
  message : Inbound
  patience : Nat
deriving DecidableEq

inductive Ending where
  | quiet
  | answered (message : Outbound)
  | crashed (crash : Crash)
  /-- The host gave the command up. -/
  | cancelled
deriving DecidableEq

def Response.ending {E : Entity} : Response E → Ending
  | .quiet => .quiet
  | .answered message => .answered message
  | .crashed crash => .crashed crash
  | .calling _ => .cancelled

/-- A message and all that could be seen of its handling. -/
structure Exchange where
  turn : Turn
  ending : Ending
  notices : List Notice
  calls : List TraceCall

structure Conversation (E : Entity) where
  session : Session E
  shared : Shared E.Memory
  exchanges : List Exchange

namespace Session

variable {E : Entity}

/-- What a handler comes to that may go on so often. Each time it sleeps it is taken up
again when the time is over; a hanging handler is never taken up again. -/
def await (ticket : Ticket) : (patience : Nat) → Activity E.Memory E.State E.Event →
    Shared E.Memory → Option (Except CommandError (Effect E.State E.Event)) × Shared E.Memory
  | 0, _, shared => (none, shared)
  | patience + 1, activity, shared =>
    match advance shared ⟨ticket, activity⟩ with
    | (.ended ending, shared) => (some ending, shared)
    | (.sleeping _ rest, shared) => await ticket patience rest shared
    | (.hanging, shared) => (none, shared)

/-- Bring a call to its end, or give it up when its handler does not end in time. -/
def pursue (s : Session E) (shared : Shared E.Memory) (call : Call E) (patience : Nat) : Step E :=
  match await call.ticket patience call.activity shared with
  | (some ending, shared) => s.conclude shared call.ticket ending
  | (none, shared) => ⟨s, abandon shared call.ticket, [], [], .calling call⟩

/-- Bring a step to its end if it has left a call. -/
def carry (step : Step E) (patience : Nat) : Step E :=
  match step.response with
  | .calling call =>
    (step.session.pursue step.shared call patience).preceded step.notices step.calls
  | _ => step

/-- Handle one message of a host. The response is a call only if the call was given up. -/
def serve (s : Session E) (shared : Shared E.Memory) (turn : Turn) : Step E :=
  carry (s.begin shared turn.message) turn.patience

def converse (s : Session E) (shared : Shared E.Memory) : List Turn → Conversation E
  | [] => ⟨s, shared, []⟩
  | turn :: rest =>
    let step := s.serve shared turn
    let later := step.session.converse step.shared rest
    { later with
      exchanges := ⟨turn, step.response.ending, step.notices, step.calls⟩ :: later.exchanges }

theorem carry_preceded (step : Step E) (notices : List Notice) (calls : List TraceCall)
    (patience : Nat) :
    carry (step.preceded notices calls) patience =
      (carry step patience).preceded notices calls := by
  obtain ⟨session, shared, earlier, told, response⟩ := step
  cases response <;> simp [carry, Step.preceded]

@[simp] theorem session_carry_preceded (step : Step E) (notices : List Notice)
    (calls : List TraceCall) (patience : Nat) :
    (carry (step.preceded notices calls) patience).session = (carry step patience).session := by
  obtain ⟨session, shared, earlier, told, response⟩ := step
  cases response <;> rfl

@[simp] theorem response_carry_preceded (step : Step E) (notices : List Notice)
    (calls : List TraceCall) (patience : Nat) :
    (carry (step.preceded notices calls) patience).response = (carry step patience).response := by
  obtain ⟨session, shared, earlier, told, response⟩ := step
  cases response <;> rfl

/-- A handler that does not have to wait is served as it is received. -/
theorem serve_eq_receive (s : Session E) (shared : Shared E.Memory) (message : Inbound)
    (patience : Nat) (done : ∀ call, (s.receive shared message).response ≠ .calling call) :
    s.serve shared ⟨message, patience + 1⟩ = s.receive shared message := by
  unfold serve carry receive at *
  cases h : (s.begin shared message).response with
  | quiet => simp only [h]
  | answered out => simp only [h]
  | crashed crash => simp only [h]
  | calling call =>
      simp only [h] at done ⊢
      unfold pursue await
      unfold proceed at done ⊢
      rcases hrun : advance (s.begin shared message).shared call with ⟨progress, after⟩
      simp only [hrun] at done ⊢
      cases progress with
      | ended ending => rfl
      | sleeping span rest => exact (done ⟨call.ticket, .asleep span rest⟩ rfl).elim
      | hanging => exact (done ⟨call.ticket, .hung⟩ rfl).elim

theorem converse_append (s : Session E) (shared : Shared E.Memory) (before after : List Turn) :
    s.converse shared (before ++ after) =
      let earlier := s.converse shared before
      let later := earlier.session.converse earlier.shared after
      { later with exchanges := earlier.exchanges ++ later.exchanges } := by
  induction before generalizing s shared with
  | nil => rfl
  | cons turn rest ih => simp only [List.cons_append, converse, ih]

theorem session_converse_append (s : Session E) (shared : Shared E.Memory)
    (before after : List Turn) :
    (s.converse shared (before ++ after)).session =
      ((s.converse shared before).session.converse (s.converse shared before).shared
        after).session := by
  rw [converse_append]

theorem session_converse_concat (s : Session E) (shared : Shared E.Memory)
    (before : List Turn) (turn : Turn) :
    (s.converse shared (before ++ [turn])).session =
      ((s.converse shared before).session.serve (s.converse shared before).shared
        turn).session := by
  rw [session_converse_append]
  rfl

theorem map_turn_exchanges (s : Session E) (shared : Shared E.Memory) (turns : List Turn) :
    (s.converse shared turns).exchanges.map Exchange.turn = turns := by
  induction turns generalizing s shared with
  | nil => rfl
  | cons turn rest ih => simp only [converse, List.map_cons, ih]

/-- How a terminated session ends every message. -/
def closing (message : Inbound) : Ending :=
  match afterTermination message with
  | some out => .answered out
  | none => .quiet

theorem serve_terminated {s : Session E} (closed : s.phase = .terminated)
    (shared : Shared E.Memory) (turn : Turn) :
    (s.serve shared turn).session = s ∧
      (s.serve shared turn).response.ending = closing turn.message := by
  unfold serve carry closing
  simp only [begin, closed]
  cases afterTermination turn.message with
  | none => exact ⟨rfl, rfl⟩
  | some out => exact ⟨rfl, rfl⟩

theorem converse_terminated {s : Session E} (closed : s.phase = .terminated)
    (shared : Shared E.Memory) (turns : List Turn) :
    (s.converse shared turns).session = s := by
  induction turns generalizing shared with
  | nil => rfl
  | cons turn rest ih =>
      have same := (serve_terminated closed shared turn).1
      simp only [converse]
      rw [same]
      exact ih _

/-- A session that is not terminated in the end never was. -/
theorem phase_ne_terminated_of_converse {s : Session E} {shared : Shared E.Memory}
    {turns : List Turn} (alive : (s.converse shared turns).session.phase ≠ .terminated) :
    s.phase ≠ .terminated := by
  intro closed
  rw [converse_terminated closed] at alive
  exact alive closed

/-- The session is in this phase, or it has ended. -/
def Holds (phase : Phase) (s : Session E) : Prop := s.phase = phase ∨ s.phase = .terminated

namespace Holds

variable {s : Session E} {phase : Phase}

theorem endIfFatal (holds : s.Holds phase) (severity : Severity) :
    (s.endIfFatal severity).Holds phase := by
  unfold Session.endIfFatal
  split
  · exact .inr rfl
  · exact holds

theorem refuse (holds : s.Holds phase) (shared : Shared E.Memory) (ticket : Ticket)
    (error : CommandError) : (s.refuse shared ticket error).session.Holds phase := by
  unfold Session.refuse
  split <;> exact holds.endIfFatal _

theorem conclude (holds : s.Holds phase) (shared : Shared E.Memory) (ticket : Ticket)
    (ending : Except CommandError (Effect E.State E.Event)) :
    (s.conclude shared ticket ending).session.Holds phase := by
  unfold Session.conclude
  cases ending with
  | error e => exact holds.refuse _ ticket e
  | ok effect =>
      cases s.present with
      | error crash => exact holds
      | ok life =>
          have holds : Holds phase { s with incarnation := some life } := holds
          simp only
          split
          · unfold succeed commit
            dsimp only
            split <;> exact holds
          · exact holds.refuse _ ticket _

theorem launch (holds : s.Holds phase) (shared : Shared E.Memory) (command : Command)
    (life : Incarnation E.State) : (s.launch shared command life).session.Holds phase := by
  unfold Session.launch
  simp only
  split
  · exact holds
  · exact holds
  · exact holds.conclude _ _ _

theorem revive (holds : s.Holds phase) : s.revive.1.Holds phase := by
  unfold Session.revive
  cases s.incarnation.isNone && s.deleted <;> simp only <;> split <;> exact holds

theorem receiveCommand (holds : s.Holds phase) (shared : Shared E.Memory) (command : Command) :
    (s.receiveCommand shared command).session.Holds phase := by
  unfold Session.receiveCommand
  split
  · have revived := holds.revive
    generalize s.revive = revival at *
    obtain ⟨after, notices, crash | life⟩ := revival
    · exact revived
    · exact revived.launch shared command life
  · exact holds.endIfFatal _

theorem receiveSnapshotRequest (holds : s.Holds phase) (shared : Shared E.Memory)
    (request : SnapshotRequest) :
    (s.receiveSnapshotRequest shared request).session.Holds phase := by
  unfold Session.receiveSnapshotRequest
  have revived := holds.revive
  generalize s.revive = revival at *
  obtain ⟨after, notices, crash | life⟩ := revival
  · exact revived
  · simp only
    split
    · exact revived
    · exact revived.endIfFatal _

/-- No message leads back into recovery. -/
theorem begin (holds : s.Holds .active) (shared : Shared E.Memory) (message : Inbound) :
    (s.begin shared message).session.Holds .active := by
  unfold Session.begin
  split
  next => exact holds
  next waiting => simp [Holds, waiting] at holds
  next waiting _ => simp [Holds, waiting] at holds
  next => exact holds.endIfFatal _
  next replaying => simp [Holds, replaying] at holds
  next => exact holds.endIfFatal _
  next => exact receiveCommand (.inl rfl) _ _
  next => exact receiveSnapshotRequest (.inl rfl) _ _

theorem carry {step : Step E} (holds : step.session.Holds phase) (patience : Nat) :
    (carry step patience).session.Holds phase := by
  unfold Session.carry Session.pursue
  split
  · simp only [Step.preceded]
    split
    · exact holds.conclude _ _ _
    · exact holds
  · exact holds

theorem converse (holds : s.Holds .active) (shared : Shared E.Memory) (turns : List Turn) :
    (s.converse shared turns).session.Holds .active := by
  induction turns generalizing s shared with
  | nil => exact holds
  | cons turn rest ih => exact ih ((holds.begin shared turn.message).carry turn.patience) _

end Holds

end Session

namespace Samples.Counter

def payload (value : Int64) : Option Json := some (toJson ⟨value⟩)

def host : Shared Unit := entity.share Uuid.ofNat

/-- One event is replayed and two more are persisted, the last one after a command that
panics and one that is given up. -/
def visit : List Turn :=
  [⟨.init ⟨"a", none⟩, 0⟩,
    ⟨.event ⟨1, (CounterEvent.increased 5).toJson⟩, 0⟩,
    ⟨.command (.plain 1 "a" "adjust" (payload 3)), 1⟩,
    ⟨.snapshotRequest ⟨1⟩, 0⟩,
    ⟨.command (.plain 2 "a" "panic" none), 1⟩,
    ⟨.command (.plain 3 "a" "adjust" (payload 9)), 0⟩,
    ⟨.command (.plain 4 "a" "increaseBy" (payload 4)), 1⟩]

end Samples.Counter

end EntityEngine
