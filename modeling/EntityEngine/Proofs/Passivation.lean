import Mathlib.Data.List.Induction
import EntityEngine.Proofs.Rehearsal
import EntityEngine.Proofs.Traffic

/-!
# Passivation

A worker that has waited for a message as long as its passivation allows gives up. The
handlers of its entity may hang, panic and sleep as they like, and the clock may jump: the
main statement is that a worker that gives up owes nothing. All messages that it ever
accepted have been dealt with, and their answers have been taken by the outbound queue.
The wait is counted from the step with which the last of them was done, so neither a
handler nor a full queue can use it up.

Beside the run stands the conversation of the session over the messages that are done. One
message at most is in hand, and what is left of it comes to what serving it comes to.
-/

namespace EntityEngine

def Ending.Handled : Ending → Prop
  | .quiet => True
  | .answered _ => True
  | .crashed _ => False
  | .cancelled => False

def Ending.answer? : Ending → Option Outbound
  | .answered message => some message
  | _ => none

namespace Conversation

variable {E : Entity}

def Complete (c : Conversation E) : Prop := ∀ x ∈ c.exchanges, x.ending.Handled

def answers (c : Conversation E) : List Outbound :=
  c.exchanges.filterMap fun x => x.ending.answer?

end Conversation

theorem Step.Matches.trans {E : Entity} {first second third : Step E}
    (h : first.Matches second) (h' : second.Matches third) : first.Matches third :=
  ⟨h.session.trans h'.session, h.shared.trans h'.shared, h.ending.trans h'.ending⟩

namespace Session

variable {E : Entity}

theorem converse_concat (s : Session E) (shared : Shared E.Memory) (turns : List Turn)
    (turn : Turn) :
    let talk := s.converse shared turns
    let step := talk.session.serve talk.shared turn
    s.converse shared (turns ++ [turn]) = ⟨step.session, step.shared,
      talk.exchanges ++ [⟨turn, step.response.ending, step.notices, step.calls⟩]⟩ := by
  rw [converse_append]
  rfl

theorem pursue_of_sleeping {s : Session E} {shared after : Shared E.Memory} {call : Call E}
    {span : Nat} {rest : Activity E.Memory E.State E.Event}
    (advanced : advance shared call = (.sleeping span rest, after)) (n : Nat) :
    (s.pursue shared call (n + 1)).Matches (s.pursue after ⟨call.ticket, rest⟩ n) := by
  unfold pursue
  rw [await, advanced]
  simp only
  split <;> exact ⟨rfl, rfl, rfl⟩

theorem pursue_of_ended {s : Session E} {shared after : Shared E.Memory} {call : Call E}
    {ending : Except CommandError (Effect E.State E.Event)}
    (advanced : advance shared call = (.ended ending, after)) (n : Nat) :
    s.pursue shared call (n + 1) = s.conclude after call.ticket ending := by
  unfold pursue
  rw [await, advanced]

end Session

namespace Worker

variable {E : Entity} {now since : Instant} {w : Worker E}

/-- How many queued messages the worker has not dealt with, with the one in hand. -/
def pending (w : Worker E) : Nat :=
  w.inbound.items.length +
    match w.stage with
    | .running _ => 1
    | .sleeping .. => 1
    | .hanging _ => 1
    | .ended .. => 1
    | .delivering _ => 1
    | _ => 0

theorem pending_of_waiting (stage : w.stage = .waiting since) :
    w.pending = w.inbound.items.length := by
  rw [pending, stage]
  rfl

theorem isIdle_iff : w.isIdle now since = true ↔
    ∃ limit, w.passivation = some limit ∧ since + limit.total ≤ now := by
  simp only [isIdle, Option.any_eq_true, decide_eq_true_eq]

theorem waits_afterMessage (waits : (w.afterMessage now).stage = .waiting since) :
    since = now ∧ (w.afterMessage now).inbound = w.inbound := by
  unfold afterMessage at *
  split at waits
  · cases waits
  · next live =>
      rw [if_neg live]
      cases waits
      exact ⟨rfl, rfl⟩

/-- Only the termination of its session stops a worker after a message. -/
theorem exit_of_afterMessage {report : Report}
    (stopped : (w.afterMessage now).stage = .stopped report) : report.exit = .terminated := by
  unfold afterMessage at stopped
  split at stopped
  · cases stopped
    rfl
  · cases stopped

theorem waits_absorb {step : Step E} (waits : (w.absorb now step).worker.stage = .waiting since) :
    since = now ∧ (w.absorb now step).worker.inbound = w.inbound := by
  obtain ⟨session, shared, notices, calls, response⟩ := step
  cases response with
  | quiet => exact waits_afterMessage (w := { w with session }) waits
  | _ => cases waits

theorem exit_of_absorb {step : Step E} {report : Report}
    (stopped : (w.absorb now step).worker.stage = .stopped report) : report.exit = .terminated := by
  obtain ⟨session, shared, notices, calls, response⟩ := step
  cases response with
  | quiet => exact exit_of_afterMessage (w := { w with session }) stopped
  | _ => cases stopped

theorem runHandler_stage (now : Instant) (w : Worker E) (shared : Shared E.Memory)
    (call : Call E) :
    (∀ since, (w.runHandler now shared call).worker.stage ≠ .waiting since) ∧
      ∀ report, (w.runHandler now shared call).worker.stage ≠ .stopped report := by
  unfold runHandler
  rcases Session.advance shared call with ⟨progress, after⟩
  cases progress <;> simp

/-- A step with which the worker begins to wait is its first one, or the last one for a
message. -/
theorem Strides.waits {shared : Shared E.Memory} {stride : Stride E}
    (strides : Strides now w shared stride) (waits : stride.worker.stage = .waiting since) :
    since = now ∧ (w.stage = .starting ∨ w.pending = stride.worker.pending + 1) := by
  rw [pending_of_waiting waits]
  cases strides with
  | started stage =>
      cases waits
      exact ⟨rfl, .inl stage⟩
  | took stage items =>
      obtain ⟨same, inbound⟩ := waits_absorb waits
      refine ⟨same, .inr ?_⟩
      rw [pending_of_waiting stage, items, inbound, List.length_cons]
  | ran stage => exact ((runHandler_stage _ _ _ _).1 _ waits).elim
  | woke stage due => exact ((runHandler_stage _ _ _ _).1 _ waits).elim
  | concluded stage =>
      obtain ⟨same, inbound⟩ := waits_absorb waits
      refine ⟨same, .inr ?_⟩
      rw [pending, stage, inbound]
  | delivered stage receiving =>
      obtain ⟨same, inbound⟩ := waits_afterMessage waits
      have one : w.pending = w.inbound.items.length + 1 := by rw [pending, stage]
      exact ⟨same, .inr (one.trans (by simp only [inbound]))⟩
  | emptied => cases waits
  | idled => cases waits
  | undelivered => cases waits

/-- A step with which the worker gives up is made from a wait that was long enough. -/
theorem Strides.passivates {shared : Shared E.Memory} {stride : Stride E} {report : Report}
    (strides : Strides now w shared stride) (stopped : stride.worker.stage = .stopped report)
    (exit : report.exit = .passivated) :
    ∃ since, w.stage = .waiting since ∧ w.inbound.items = [] ∧ w.isIdle now since = true ∧
      stride.worker = w.stop .passivated := by
  cases strides with
  | idled stage items idle => exact ⟨_, stage, items, idle, rfl⟩
  | started => cases stopped
  | took stage items =>
      rw [exit_of_absorb stopped] at exit
      cases exit
  | ran stage => exact ((runHandler_stage _ _ _ _).2 _ stopped).elim
  | woke stage due => exact ((runHandler_stage _ _ _ _).2 _ stopped).elim
  | concluded stage =>
      rw [exit_of_absorb stopped] at exit
      cases exit
  | delivered stage receiving =>
      rw [exit_of_afterMessage stopped] at exit
      cases exit
  | emptied => cases stopped; cases exit
  | undelivered => cases stopped; cases exit

end Worker

namespace Traffic

variable {E : Entity} {s : Session E} {shared : Shared E.Memory} {t t' : Traffic E}

theorem run_concat (t : Traffic E) (moves : List Move) (move : Move) :
    t.run (moves ++ [move]) = (t.run moves).next move := by
  simp only [run, List.foldl_append, List.foldl_cons, List.foldl_nil]

theorem Tidy.run {capacity : Nat} {passivation : Option Duration}
    (tidy : Tidy capacity passivation t) (moves : List Move) :
    Tidy capacity passivation (t.run moves) := by
  induction moves generalizing t with
  | nil => exact tidy
  | cons move rest ih => exact ih (tidy.next move)

/-- The answers that the outbound queue has accepted. -/
def accepted (t : Traffic E) : List Outbound := t.received ++ t.lost ++ t.worker.outbound.items

/-- What the host's moves leave as it is, whatever they queue. -/
structure Hosted (t t' : Traffic E) : Prop where
  session : t'.worker.session = t.worker.session
  shared : t'.shared = t.shared
  stage : t'.worker.stage = t.worker.stage
  accepted : t'.accepted = t.accepted
  receiving : t'.worker.inbound.receiving = t.worker.inbound.receiving
  queued : ∃ messages, t'.sent = t.sent ++ messages ∧
    t'.worker.inbound.items = t.worker.inbound.items ++ messages
  deaf : t.worker.inbound.receiving = false → t'.sent = t.sent

theorem Hosted.refl (t : Traffic E) : Hosted t t :=
  ⟨rfl, rfl, rfl, rfl, rfl, ⟨[], by simp, by simp⟩, fun _ => rfl⟩

theorem Hosted.trans {t'' : Traffic E} (first : Hosted t t') (second : Hosted t' t'') :
    Hosted t t'' := by
  obtain ⟨earlier, sent, items⟩ := first.queued
  obtain ⟨later, sent', items'⟩ := second.queued
  exact {
    session := second.session.trans first.session
    shared := second.shared.trans first.shared
    stage := second.stage.trans first.stage
    accepted := second.accepted.trans first.accepted
    receiving := second.receiving.trans first.receiving
    queued := ⟨earlier ++ later, by rw [sent', sent, List.append_assoc],
      by rw [items', items, List.append_assoc]⟩
    deaf := fun deaf => (second.deaf (first.receiving.trans deaf)).trans (first.deaf deaf) }

theorem hosted_send (t : Traffic E) (message : Inbound) : Hosted t (t.next (.send message)) := by
  simp only [next]
  split
  · exact .refl t
  unfold Worker.send
  cases pushed : t.worker.inbound.push message with
  | error refusal => exact .refl t
  | ok inbound =>
      obtain ⟨receiving, -, rfl⟩ := Queue.push_eq_ok_iff.mp pushed
      refine ⟨rfl, rfl, rfl, rfl, rfl, ⟨[message], rfl, rfl⟩, fun deaf => ?_⟩
      rw [receiving] at deaf
      cases deaf

theorem hosted_receive {capacity : Nat} {passivation : Option Duration}
    (tidy : Tidy capacity passivation t) : Hosted t (t.next .receive) := by
  simp only [next, Worker.receive]
  cases popped : t.worker.outbound.pop with
  | item message outbound =>
      obtain ⟨items, same⟩ := Queue.pop_eq_item_iff.mp popped
      have receiving : t.worker.outbound.receiving = true := by
        by_contra deaf
        rw [tidy.deaf (Bool.eq_false_iff.mpr deaf)] at items
        cases items
      have unlost := (tidy.kept receiving).1
      rw [same]
      refine ⟨rfl, rfl, rfl, ?_, rfl, ⟨[], by simp, by simp⟩, fun _ => rfl⟩
      simp [accepted, items, unlost]
  | nothingYet => exact .refl t
  | finished => exact .refl t

theorem hosted_or_work {capacity : Nat} {passivation : Option Duration}
    (tidy : Tidy capacity passivation t) (move : Move) :
    Hosted t (t.next move) ∨ ∃ now, move = .work now := by
  cases move with
  | work now => exact .inr ⟨now, rfl⟩
  | send message => exact .inl (hosted_send t message)
  | receive => exact .inl (hosted_receive tidy)
  | addSender =>
      left
      simp only [next]
      split
      · exact .refl t
      · exact ⟨rfl, rfl, rfl, rfl, rfl, ⟨[], by simp, by simp [Queue.addSender]⟩, fun _ => rfl⟩
  | dropSender =>
      left
      exact ⟨rfl, rfl, rfl, rfl, rfl, ⟨[], by simp [next], by simp [next, Queue.dropSender]⟩,
        fun _ => rfl⟩
  | dropReceiver =>
      left
      refine ⟨rfl, rfl, rfl, ?_, rfl, ⟨[], by simp [next], by simp [next, Worker.closeOutbound]⟩,
        fun _ => rfl⟩
      simp [next, accepted, Worker.closeOutbound, Queue.dropReceiver]

/-- What the message in hand comes to if its handler may still go on so often. -/
def prospect (t : Traffic E) (n : Nat) : Option (Step E) :=
  match t.worker.stage with
  | .running call => some (t.worker.session.pursue t.shared call n)
  | .sleeping _ call => some (t.worker.session.pursue t.shared call n)
  | .ended ticket ending => some (t.worker.session.conclude t.shared ticket ending)
  | .delivering message => some ⟨t.worker.session, t.shared, [], [], .answered message⟩
  | _ => none

/-- Serving a message on top of a conversation comes to this, if its handler goes on so
often and then some more. -/
def ServesLike (c : Conversation E) (message : Inbound) (naps : Nat) (later : Nat → Step E) :
    Prop :=
  ∀ n, (c.session.serve c.shared ⟨message, naps + n⟩).Matches (later n)

/-- A conversation in which everything was dealt with and every answer was accepted. -/
structure AllAnswered (c : Conversation E) (t : Traffic E) : Prop where
  complete : c.Complete
  accepted : t.accepted = c.answers

/-- How a worker stands to the conversation over the messages that it is done with. -/
inductive FollowsConversation (s : Session E) (shared : Shared E.Memory) (t : Traffic E) : Prop
  | nothing {turns : List Turn}
      (idle : t.worker.stage = .starting ∧ turns = [] ∨ ∃ since, t.worker.stage = .waiting since)
      (session : t.worker.session = (s.converse shared turns).session)
      (after : t.shared = (s.converse shared turns).shared)
      (allAnswered : AllAnswered (s.converse shared turns) t)
      (sent : t.sent = turns.map Turn.message ++ t.worker.inbound.items)
  | one {turns : List Turn} {message : Inbound} {naps : Nat} {later : Nat → Step E}
      (prospect : ∀ n, t.prospect n = some (later n))
      (seen : ServesLike (s.converse shared turns) message naps later)
      (allAnswered : AllAnswered (s.converse shared turns) t)
      (sent : t.sent = turns.map Turn.message ++ message :: t.worker.inbound.items)
  | all (stuck : t.worker.hasEnded = true ∨ ∃ ticket, t.worker.stage = .hanging ticket)

theorem Hosted.allAnswered {c : Conversation E} (hosted : Hosted t t')
    (allAnswered : AllAnswered c t) :
    AllAnswered c t' :=
  ⟨allAnswered.complete, hosted.accepted.trans allAnswered.accepted⟩

theorem Hosted.prospect (hosted : Hosted t t') (n : Nat) : t'.prospect n = t.prospect n := by
  unfold Traffic.prospect
  rw [hosted.stage, hosted.session, hosted.shared]

theorem Hosted.followsConversation (hosted : Hosted t t')
    (follows : FollowsConversation s shared t) : FollowsConversation s shared t' := by
  obtain ⟨messages, sent', items⟩ := hosted.queued
  cases follows with
  | nothing idle session after allAnswered sent =>
      refine .nothing ?_ (hosted.session.trans session) (hosted.shared.trans after)
        (hosted.allAnswered allAnswered) ?_
      · rwa [hosted.stage]
      · rw [sent', sent, items, List.append_assoc]
  | one prospect seen allAnswered sent =>
      refine .one (fun n => (hosted.prospect n).trans (prospect n)) seen
        (hosted.allAnswered allAnswered) ?_
      rw [sent', sent, items, List.append_assoc, List.cons_append]
  | all stuck =>
      unfold Worker.hasEnded at stuck
      rw [← hosted.stage] at stuck
      exact .all stuck

theorem FollowsConversation.idle (follows : FollowsConversation s shared t)
    (idle : t.worker.stage = .starting ∨ ∃ since, t.worker.stage = .waiting since) :
    ∃ turns, (t.worker.stage = .starting → turns = []) ∧
      t.worker.session = (s.converse shared turns).session ∧
      t.shared = (s.converse shared turns).shared ∧ AllAnswered (s.converse shared turns) t ∧
      t.sent = turns.map Turn.message ++ t.worker.inbound.items := by
  cases follows with
  | nothing idle' session after allAnswered sent =>
      refine ⟨_, fun starting => ?_, session, after, allAnswered, sent⟩
      obtain ⟨-, none⟩ | ⟨since, stage⟩ := idle'
      · exact none
      · rw [starting] at stage
        cases stage
  | one prospect =>
      have foreseen := prospect 0
      obtain stage | ⟨since, stage⟩ := idle <;> rw [Traffic.prospect, stage] at foreseen <;>
        cases foreseen
  | all stuck =>
      unfold Worker.hasEnded at stuck
      obtain stage | ⟨since, stage⟩ := idle <;> rw [stage] at stuck <;> simp at stuck

theorem FollowsConversation.foreseen (follows : FollowsConversation s shared t)
    {later : Nat → Step E}
    (prospect : ∀ n, t.prospect n = some (later n)) :
    ∃ turns message naps, ServesLike (s.converse shared turns) message naps later ∧
      AllAnswered (s.converse shared turns) t ∧
      t.sent = turns.map Turn.message ++ message :: t.worker.inbound.items := by
  have foreseen := prospect 0
  unfold Traffic.prospect at foreseen
  cases follows with
  | nothing idle =>
      obtain ⟨stage, -⟩ | ⟨since, stage⟩ := idle <;> rw [stage] at foreseen <;> cases foreseen
  | @one turns message naps later' prospect' seen allAnswered sent =>
      have same : later' = later :=
        funext fun n => Option.some.inj ((prospect' n).symm.trans (prospect n))
      exact ⟨turns, message, naps, same ▸ seen, allAnswered, sent⟩
  | all stuck =>
      obtain ended | ⟨ticket, stage⟩ := stuck
      · unfold Worker.hasEnded at ended
        split at ended
        · next stage => rw [stage] at foreseen; cases foreseen
        · next stage => rw [stage] at foreseen; cases foreseen
        · cases ended
      · rw [stage] at foreseen
        cases foreseen

section InHand

variable {turns : List Turn} {message : Inbound} {naps : Nat}

theorem AllAnswered.concat {step : Step E} (allAnswered : AllAnswered (s.converse shared turns) t)
    (seen : ServesLike (s.converse shared turns) message naps fun _ => step)
    (handled : step.response.ending.Handled)
    (accepted : t'.accepted = t.accepted ++ step.response.ending.answer?.toList) :
    let talk := s.converse shared (turns ++ [⟨message, naps⟩])
    talk.session = step.session ∧ talk.shared = step.shared ∧ AllAnswered talk t' := by
  have seen := seen 0
  rw [Nat.add_zero] at seen
  simp only [Session.converse_concat]
  refine ⟨seen.session, seen.shared, ?_, ?_⟩
  · intro x member
    obtain earlier | last := List.mem_append.mp member
    · exact allAnswered.complete x earlier
    · rw [List.mem_singleton.mp last]
      simp only [seen.ending]
      exact handled
  · rw [accepted, allAnswered.accepted]
    simp only [Conversation.answers, List.filterMap_append, seen.ending]
    cases answer : step.response.ending.answer? <;> simp [answer]

theorem AllAnswered.afterMessage {step : Step E}
    (allAnswered : AllAnswered (s.converse shared turns) t)
    (seen : ServesLike (s.converse shared turns) message naps fun _ => step)
    (handled : step.response.ending.Handled) (now : Instant) {w : Worker E}
    (stands : t'.worker = w.afterMessage now) (session : w.session = step.session)
    (after : t'.shared = step.shared)
    (accepted : t'.received ++ t'.lost ++ w.outbound.items =
      t.accepted ++ step.response.ending.answer?.toList)
    (sent : t'.sent = turns.map Turn.message ++ message :: w.inbound.items) :
    FollowsConversation s shared t' := by
  unfold Worker.afterMessage at stands
  split at stands
  · exact .all (.inl (by rw [stands]; rfl))
  · have accepted : t'.accepted = t.accepted ++ step.response.ending.answer?.toList := by
      rw [Traffic.accepted, stands]
      exact accepted
    obtain ⟨session', shared', allAnswered⟩ := allAnswered.concat seen handled accepted
    refine .nothing (.inr ⟨now, by rw [stands]⟩) ?_ (after.trans shared'.symm) allAnswered ?_
    · rw [stands, session']
      exact session
    · rw [sent, stands]
      simp

theorem AllAnswered.absorb {step : Step E} (allAnswered : AllAnswered (s.converse shared turns) t)
    (seen : ServesLike (s.converse shared turns) message naps (Session.carry step))
    (now : Instant) {w : Worker E} (outbound : w.outbound = t.worker.outbound)
    (sent : t.sent = turns.map Turn.message ++ message :: w.inbound.items)
    (refused : Option Outbound) :
    FollowsConversation s shared
      { t with worker := (w.absorb now step).worker, shared := step.shared, refused } := by
  obtain ⟨session, after, notices, calls, response⟩ := step
  have accepted : t.received ++ t.lost ++ w.outbound.items = t.accepted := by
    rw [outbound, Traffic.accepted]
  cases response with
  | quiet =>
      refine allAnswered.afterMessage seen trivial now (w := { w with session }) rfl rfl rfl ?_ sent
      simpa [Response.ending, Ending.answer?] using accepted
  | answered out =>
      have seen : ServesLike (s.converse shared turns) message naps fun _ =>
        ⟨session, after, [], [], .answered out⟩ := fun n => (seen n).trans ⟨rfl, rfl, rfl⟩
      exact .one (fun _ => rfl) seen
        ⟨allAnswered.complete, accepted.trans allAnswered.accepted⟩ sent
  | crashed crash => exact .all (.inl rfl)
  | calling call =>
      have seen : ServesLike (s.converse shared turns) message naps fun n =>
        session.pursue after call n := fun n => (seen n).trans ⟨rfl, rfl, rfl⟩
      exact .one (fun _ => rfl) seen
        ⟨allAnswered.complete, accepted.trans allAnswered.accepted⟩ sent

/-- A run of the handler takes one nap off what is left. -/
theorem AllAnswered.runHandler {call : Call E}
    (allAnswered : AllAnswered (s.converse shared turns) t)
    (seen : ServesLike (s.converse shared turns) message naps
      fun n => t.worker.session.pursue t.shared call n) (now : Instant)
    (sent : t.sent = turns.map Turn.message ++ message :: t.worker.inbound.items)
    (refused : Option Outbound) :
    let stride := t.worker.runHandler now t.shared call
    FollowsConversation s shared
      { t with worker := stride.worker, shared := stride.shared, refused } := by
  intro stride
  have seen : ServesLike (s.converse shared turns) message (naps + 1)
      fun n => t.worker.session.pursue t.shared call (n + 1) := by
    intro n
    rw [Nat.add_assoc, Nat.add_comm 1]
    exact seen (n + 1)
  simp only [stride, Worker.runHandler]
  cases advanced : Session.advance t.shared call with
  | mk progress after =>
      cases progress with
      | ended ending =>
          simp only [Session.pursue_of_ended advanced] at seen
          exact .one (fun _ => rfl) seen ⟨allAnswered.complete, allAnswered.accepted⟩ sent
      | sleeping span rest =>
          have seen : ServesLike (s.converse shared turns) message (naps + 1)
              fun n => t.worker.session.pursue after ⟨call.ticket, rest⟩ n :=
            fun n => (seen n).trans (Session.pursue_of_sleeping advanced n)
          exact .one (fun _ => rfl) seen ⟨allAnswered.complete, allAnswered.accepted⟩ sent
      | hanging => exact .all (.inr ⟨_, rfl⟩)

end InHand

theorem FollowsConversation.work (follows : FollowsConversation s shared t) (now : Instant) :
    FollowsConversation s shared (t.next (.work now)) := by
  simp only [next]
  cases stepped : t.worker.step? now t.shared with
  | none => exact follows
  | some stride =>
      cases Worker.strides_of_step? stepped with
      | started stage =>
          obtain ⟨turns, -, session, after, allAnswered, sent⟩ := follows.idle (.inl stage)
          exact .nothing (.inr ⟨now, rfl⟩) session after
            ⟨allAnswered.complete, allAnswered.accepted⟩ sent
      | @took since message rest stage items =>
          obtain ⟨turns, -, session, after, allAnswered, sent⟩ := follows.idle (.inr ⟨_, stage⟩)
          rw [items] at sent
          have seen : ServesLike (s.converse shared turns) message 0
              (Session.carry (t.worker.session.begin t.shared message)) := by
            intro n
            rw [session, after, Nat.zero_add]
            exact ⟨rfl, rfl, rfl⟩
          exact allAnswered.absorb seen now
            (w := { t.worker with inbound := { t.worker.inbound with items := rest } }) rfl sent _
      | emptied stage items closed => exact .all (.inl rfl)
      | idled stage items idle => exact .all (.inl rfl)
      | ran stage =>
          obtain ⟨turns, message, naps, seen, allAnswered, sent⟩ := follows.foreseen
            (fun n => by rw [prospect, stage])
          exact allAnswered.runHandler seen now sent _
      | woke stage due =>
          obtain ⟨turns, message, naps, seen, allAnswered, sent⟩ := follows.foreseen
            (fun n => by rw [prospect, stage])
          exact allAnswered.runHandler seen now sent _
      | @concluded ticket ending stage =>
          obtain ⟨turns, message, naps, seen, allAnswered, sent⟩ := follows.foreseen
            (fun n => by rw [prospect, stage])
          have seen : ServesLike (s.converse shared turns) message naps
              (Session.carry (t.worker.session.conclude t.shared ticket ending)) := by
            intro n
            rw [Session.carry_conclude]
            exact seen n
          exact allAnswered.absorb seen now rfl sent _
      | delivered stage receiving =>
          obtain ⟨turns, message, naps, seen, allAnswered, sent⟩ := follows.foreseen
            (fun n => by rw [prospect, stage])
          refine allAnswered.afterMessage seen trivial now rfl rfl rfl ?_ sent
          simp [Traffic.accepted, Response.ending, Ending.answer?]
      | undelivered stage closed => exact .all (.inl rfl)

theorem followsConversation_run {capacity : Nat} {passivation : Option Duration}
    (tidy : Tidy capacity passivation t) (follows : FollowsConversation s shared t)
    (moves : List Move) :
    FollowsConversation s shared (t.run moves) := by
  induction moves generalizing t with
  | nil => exact follows
  | cons move rest ih =>
      apply ih (tidy.next move)
      obtain hosted | ⟨now, rfl⟩ := hosted_or_work tidy move
      · exact hosted.followsConversation follows
      · exact follows.work now

theorem followsConversation_fresh (s : Session E) (shared : Shared E.Memory)
    (inbound outbound : Nat)
    (passivation : Option Duration) :
    FollowsConversation s shared (fresh s shared inbound outbound passivation) :=
  @FollowsConversation.nothing _ _ _ _ [] (.inl ⟨rfl, rfl⟩) rfl rfl
    ⟨fun _ member => (nomatch member), rfl⟩ rfl

theorem waits_work {now since : Instant}
    (waits : (t.next (.work now)).worker.stage = .waiting since) :
    t.next (.work now) = t ∨ since = now ∧ (t.worker.stage = .starting ∨
      t.worker.pending = (t.next (.work now)).worker.pending + 1) := by
  simp only [next] at waits ⊢
  cases stepped : t.worker.step? now t.shared with
  | none => exact .inl rfl
  | some stride =>
      rw [stepped] at waits
      exact .inr ((Worker.strides_of_step? stepped).waits waits)

/-- The worker has begun to wait with one of these moves, and with the others after it only
the host has moved. -/
def IdleSince (t : Traffic E) (moves : List Move) (since : Instant) : Prop :=
  ∃ earlier idle, moves = earlier ++ .work since :: idle ∧
    ((t.run earlier).worker.stage = .starting ∨ (t.run earlier).worker.pending =
      (t.run (earlier ++ [.work since])).worker.pending + 1) ∧
    ∀ part, part <+: idle → Hosted (t.run (earlier ++ .work since :: part)) (t.run moves)

theorem IdleSince.concat {moves : List Move} {move : Move} {since : Instant}
    (idleSince : t.IdleSince moves since)
    (hosted : Hosted (t.run moves) ((t.run moves).next move)) :
    t.IdleSince (moves ++ [move]) since := by
  obtain ⟨earlier, idle, split, began, still⟩ := idleSince
  rw [← run_concat] at hosted
  refine ⟨earlier, idle ++ [move], by simp [split], began, fun part within => ?_⟩
  obtain rfl | within := List.prefix_concat_iff.mp within
  · rw [split, List.append_assoc]
    exact .refl _
  · exact (still part within).trans hosted

theorem idleSince_run {capacity : Nat} {passivation : Option Duration}
    (tidy : Tidy capacity passivation t) (busy : ∀ since, t.worker.stage ≠ .waiting since)
    {moves : List Move} {since : Instant}
    (waits : (t.run moves).worker.stage = .waiting since) : t.IdleSince moves since := by
  induction moves using List.reverseRecOn with
  | nil => exact (busy since waits).elim
  | append_singleton moves move ih =>
      rw [run_concat] at waits
      obtain hosted | ⟨now, rfl⟩ := hosted_or_work (tidy.run moves) move
      · exact (ih (hosted.stage.symm.trans waits)).concat hosted
      · obtain same | ⟨rfl, began⟩ := waits_work waits
        · rw [same] at waits
          exact (ih waits).concat (by rw [same]; exact .refl _)
        · rw [← run_concat] at began
          refine ⟨moves, [], rfl, began, fun part within => ?_⟩
          rw [List.prefix_nil.mp within]
          exact .refl _

/-- The worker has given up with one of these moves, from a wait that was long enough, and
with the others after it only the host has moved. -/
def Passivated (t : Traffic E) (moves : List Move) : Prop :=
  ∃ earlier now later since, moves = earlier ++ .work now :: later ∧
    (t.run earlier).worker.stage = .waiting since ∧
    (t.run earlier).worker.inbound.items = [] ∧
    (t.run earlier).worker.isIdle now since = true ∧
    (t.run (earlier ++ [.work now])).worker = (t.run earlier).worker.stop .passivated ∧
    (t.run (earlier ++ [.work now])).sent = (t.run earlier).sent ∧
    Hosted (t.run (earlier ++ [.work now])) (t.run moves)

theorem Passivated.concat {moves : List Move} {move : Move} (passivated : t.Passivated moves)
    (hosted : Hosted (t.run moves) ((t.run moves).next move)) : t.Passivated (moves ++ [move]) := by
  obtain ⟨earlier, now, later, since, split, stage, items, idle, worker, sent, still⟩ := passivated
  rw [← run_concat] at hosted
  exact ⟨earlier, now, later ++ [move], since, by simp [split], stage, items, idle, worker, sent,
    still.trans hosted⟩

theorem passivated_run {capacity : Nat} {passivation : Option Duration}
    (tidy : Tidy capacity passivation t) (going : t.worker.hasEnded = false)
    {moves : List Move} {report : Report}
    (stopped : (t.run moves).worker.stage = .stopped report) (exit : report.exit = .passivated) :
    t.Passivated moves := by
  induction moves using List.reverseRecOn with
  | nil =>
      rw [run, List.foldl_nil] at stopped
      rw [Worker.hasEnded, stopped] at going
      cases going
  | append_singleton moves move ih =>
      obtain hosted | ⟨now, rfl⟩ := hosted_or_work (tidy.run moves) move
      · rw [run_concat] at stopped
        exact (ih (hosted.stage.symm.trans stopped)).concat hosted
      · cases stepped : (t.run moves).worker.step? now (t.run moves).shared with
        | none =>
            have same : (t.run moves).next (.work now) = t.run moves := by
              simp only [next, stepped]
            rw [run_concat, same] at stopped
            exact (ih stopped).concat (by rw [same]; exact .refl _)
        | some stride =>
            have moved : t.run (moves ++ [.work now]) = { t.run moves with
                worker := stride.worker
                shared := stride.shared
                refused := (t.run moves).worker.undeliverable?.or (t.run moves).refused } := by
              simp only [run_concat, next, stepped]
            rw [moved] at stopped
            obtain ⟨since, stage, items, idle, same⟩ :=
              (Worker.strides_of_step? stepped).passivates stopped exit
            refine ⟨moves, now, [], since, rfl, stage, items, idle, ?_, ?_, .refl _⟩
            · rw [moved]
              exact same
            · rw [moved]

theorem Hosted.quiet (hosted : Hosted t t') (items : t'.worker.inbound.items = []) :
    t.worker.inbound.items = [] ∧ t.sent = t'.sent := by
  obtain ⟨messages, sent, queued⟩ := hosted.queued
  rw [items] at queued
  obtain ⟨before, rfl⟩ := List.append_eq_nil_iff.mp queued.symm
  exact ⟨before, by rw [sent, List.append_nil]⟩

theorem next_of_starting (starting : t.worker.stage = .starting) (now : Instant) :
    (t.next (.work now)).worker.inbound = t.worker.inbound ∧
      (t.next (.work now)).sent = t.sent := by
  simp only [next, Worker.step?, starting, and_self]

/-- However the messages and the steps follow each other and whatever the handlers do: if a
worker has given up, then it did so with a step before which its queue was empty, with every
message that was ever accepted handled to its end, and every answer accepted by the outbound
queue. It had been waiting for the whole limit. The wait had begun with the step that dealt
with the last message, or with the worker's first step if there was none, and the worker had
nothing to do since. Nothing is accepted afterwards. -/
theorem run_passivates (s : Session E) (shared : Shared E.Memory) (inbound outbound : Nat)
    (passivation : Option Duration) (moves : List Move) {report : Report}
    (stopped : ((fresh s shared inbound outbound passivation).run moves).worker.stage =
      .stopped report)
    (exit : report.exit = .passivated) :
    let opened : Traffic E := fresh s shared inbound outbound passivation
    ∃ limit earlier since idle now later turns,
      passivation = some limit ∧
        moves = earlier ++ .work since :: idle ++ .work now :: later ∧
        let before := opened.run (earlier ++ .work since :: idle)
        let talk := s.converse shared turns
        (before.next (.work now)).worker.stage = .stopped report ∧
        before.worker.inbound.items = [] ∧
        (opened.run moves).sent = before.sent ∧
        before.sent = turns.map Turn.message ∧
        talk.Complete ∧ before.accepted = talk.answers ∧ before.worker.session = talk.session ∧
        since + limit.total ≤ now ∧
        ((opened.run earlier).worker.stage = .starting ∧ before.sent = [] ∨
          (opened.run earlier).worker.pending = 1) ∧
        ∀ part, part <+: idle →
          let during := opened.run (earlier ++ .work since :: part)
          during.worker.stage = .waiting since ∧ during.worker.pending = 0 ∧
            during.sent = before.sent := by
  intro opened
  have tidy : Tidy outbound passivation opened := tidy_fresh s shared inbound outbound passivation
  obtain ⟨done, now, later, since, split, stage, items, idled, gone, kept, still⟩ :=
    passivated_run tidy rfl stopped exit
  have waits : ∀ since, opened.worker.stage ≠ .waiting since := fun _ waits => nomatch waits
  obtain ⟨earlier, idle, rfl, began, idleSince⟩ := idleSince_run tidy waits stage
  let before : Traffic E := opened.run (earlier ++ .work since :: idle)
  have follows : FollowsConversation s shared before :=
    followsConversation_run tidy (followsConversation_fresh s shared inbound outbound _) _
  obtain ⟨limit, limited, long⟩ := Worker.isIdle_iff.mp idled
  rw [(tidy.run _).passivation] at limited
  obtain ⟨turns, -, session, -, allAnswered, sent⟩ := follows.idle (.inr ⟨since, stage⟩)
  rw [items, List.append_nil] at sent
  have during (part : List Move) (within : part <+: idle) :
      let during := opened.run (earlier ++ .work since :: part)
      during.worker.stage = .waiting since ∧ during.worker.pending = 0 ∧
        during.sent = before.sent := by
    have hosted := idleSince part within
    obtain ⟨empty, same⟩ := hosted.quiet items
    have waiting := hosted.stage.symm.trans stage
    exact ⟨waiting, by rw [Worker.pending_of_waiting waiting, empty, List.length_nil], same⟩
  obtain ⟨-, none, first⟩ := during [] (List.nil_prefix)
  rw [run_concat] at gone kept still
  have ended : (before.next (.work now)).worker.stage = .stopped report := by
    rw [← still.stage, stopped]
  have refused : (opened.run moves).sent = before.sent :=
    (still.deaf (by rw [gone]; rfl)).trans kept
  refine ⟨limit, earlier, since, idle, now, later, turns, limited, split, ended, items, refused,
    sent, allAnswered.complete, allAnswered.accepted, session, long, ?_, during⟩
  rw [none] at began
  refine began.imp (fun starting => ⟨starting, ?_⟩) id
  rw [run_concat] at none first
  have follows : FollowsConversation s shared (opened.run earlier) :=
    followsConversation_run tidy (followsConversation_fresh s shared inbound outbound _) _
  obtain ⟨earlierTurns, untouched, -, -, -, queued⟩ := follows.idle (.inl starting)
  obtain ⟨same, unsent⟩ := next_of_starting starting since
  rw [← first, unsent, queued, untouched starting, ← same]
  rw [Worker.pending] at none
  exact List.eq_nil_of_length_eq_zero (Nat.eq_zero_of_add_eq_zero_right none)

end Traffic

namespace Samples.Counter

/-- A counter that gives up after five nanoseconds, between queues for one message. -/
def restless : Traffic entity := .fresh (.fresh .default) host 1 1 (some ⟨0, ⟨5, by decide⟩⟩)

def adding : Inbound := .command (.plain 1 "a" "increaseBy" (payload 4))

/-- The counter adds once, and its answer waits until nine to be delivered. -/
def lull : List Move :=
  [.send (.init ⟨"a", none⟩), .work 0, .work 1, .send adding, .work 3, .work 3, .work 3, .work 9,
    .work 13, .work 14, .send adding]

/-- The counter is still there at thirteen. It has given up at fourteen, with both messages
handled, and accepts no other one. -/
theorem run_passivates_restless :
    (restless.run (lull.take 9)).worker.hasEnded = false ∧
      ∃ report, (restless.run lull).worker.stage = .stopped report ∧
        report.exit = .passivated ∧
        ∃ turns, turns.map Turn.message = [.init ⟨"a", none⟩, adding] ∧
          ((Session.fresh .default : Session entity).converse host turns).Complete := by
  have stopped : (restless.run lull).worker.stage =
      .stopped ⟨.passivated, some ⟨"a"⟩, false⟩ :=
    Worker.report?_eq_some_iff.mp (by decide +kernel)
  have accepted : (restless.run lull).sent = [.init ⟨"a", none⟩, adding] := by decide +kernel
  obtain ⟨_, _, _, _, _, _, turns, -, -, -, -, kept, handled, complete, -⟩ :=
    Traffic.run_passivates _ _ _ _ _ _ stopped rfl
  exact ⟨by decide +kernel, _, stopped, rfl, turns, (kept.trans handled).symm.trans accepted,
    complete⟩

end Samples.Counter

end EntityEngine
