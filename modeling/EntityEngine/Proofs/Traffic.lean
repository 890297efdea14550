import EntityEngine.Worker

/-!
# Traffic between a host and a worker

A worker and its host share two bounded queues and nothing else. In any order the host
sends, receives, takes and drops senders and drops its receiver, and the worker makes its
steps. What was accepted, what was received and what can be received no more is kept
beside them. Each of these moves is possible at any time, and one that has no room changes
nothing.
-/

namespace EntityEngine

namespace Worker

variable {E : Entity}

inductive Strides (now : Instant) (w : Worker E) (shared : Shared E.Memory) : Stride E → Prop
  | started (stage : w.stage = .starting) :
      Strides now w shared ⟨{ w with stage := .waiting now }, shared, [], []⟩
  | took {since : Instant} {message : Inbound} {rest : List Inbound}
      (stage : w.stage = .waiting since) (items : w.inbound.items = message :: rest) :
      Strides now w shared
        (absorb now { w with inbound := { w.inbound with items := rest } }
          (w.session.begin shared message))
  | emptied {since : Instant} (stage : w.stage = .waiting since) (items : w.inbound.items = [])
      (closed : w.inbound.senders = 0) :
      Strides now w shared ⟨w.stop .inboundClosed, shared, [], []⟩
  | idled {since : Instant} (stage : w.stage = .waiting since) (items : w.inbound.items = [])
      (idle : w.isIdle now since = true) :
      Strides now w shared ⟨w.stop .passivated, shared, [.passivating E.name], []⟩
  | ran {call : Call E} (stage : w.stage = .running call) :
      Strides now w shared (w.runHandler now shared call)
  | woke {wake : Instant} {call : Call E} (stage : w.stage = .sleeping wake call)
      (due : wake ≤ now) : Strides now w shared (w.runHandler now shared call)
  | concluded {ticket : Ticket} {ending : Except CommandError (Effect E.State E.Event)}
      (stage : w.stage = .ended ticket ending) :
      Strides now w shared (w.absorb now (w.session.conclude shared ticket ending))
  | delivered {message : Outbound} (stage : w.stage = .delivering message)
      (receiving : w.outbound.receiving = true) :
      Strides now w shared
        ⟨afterMessage now { w with
          outbound := { w.outbound with items := w.outbound.items ++ [message] } }, shared, [], []⟩
  | undelivered {message : Outbound} (stage : w.stage = .delivering message)
      (closed : w.outbound.receiving = false) :
      Strides now w shared ⟨w.stop .outboundClosed, shared, [.outboundClosed], []⟩

theorem strides_of_step? {now : Instant} {w : Worker E} {shared : Shared E.Memory}
    {stride : Stride E} (h : w.step? now shared = some stride) : Strides now w shared stride := by
  unfold step? at h
  split at h
  · next stage =>
      cases h
      exact .started stage
  · next since stage =>
      unfold take? Queue.pop at h
      cases items : w.inbound.items with
      | cons message rest =>
          rw [items] at h
          cases h
          exact .took stage items
      | nil =>
          rw [items] at h
          by_cases closed : w.inbound.senders = 0
          · simp only [closed, if_true] at h
            cases h
            exact .emptied stage items closed
          · simp only [closed, if_false] at h
            split at h
            · next idle =>
                cases h
                exact .idled stage items idle
            · cases h
  · next call stage =>
      cases h
      exact .ran stage
  · next wake call stage =>
      split at h
      · next due =>
          cases h
          exact .woke stage due
      · cases h
  · cases h
  · next ticket ending stage =>
      cases h
      exact .concluded stage
  · next message stage =>
      unfold deliver? Queue.push at h
      cases receiving : w.outbound.receiving with
      | false =>
          simp only [receiving, Bool.not_false, if_true] at h
          cases h
          exact .undelivered stage receiving
      | true =>
          simp only [receiving, Bool.not_true, Bool.false_eq_true, if_false] at h
          cases room : w.outbound.hasRoom with
          | false => simp only [room, Bool.false_eq_true, if_false] at h; cases h
          | true =>
              simp only [room, if_true] at h
              cases h
              rw [← receiving]
              exact .delivered stage receiving
  · cases h
  · cases h

structure Keeps (w w' : Worker E) : Prop where
  passivation : w'.passivation = w.passivation
  capacity : w'.outbound.capacity = w.outbound.capacity
  receiving : w'.outbound.receiving = w.outbound.receiving
  items : w.outbound.receiving = false → w'.outbound.items = w.outbound.items
  senders : w'.outbound.senders = if w'.hasEnded then 0 else w.outbound.senders

theorem keeps_stop (w : Worker E) (exit : Exit) : w.Keeps (w.stop exit) :=
  ⟨rfl, rfl, rfl, fun _ => rfl, rfl⟩

theorem keeps_afterMessage (now : Instant) (w : Worker E) : w.Keeps (w.afterMessage now) := by
  unfold afterMessage
  split
  · exact w.keeps_stop _
  · exact ⟨rfl, rfl, rfl, fun _ => rfl, rfl⟩

theorem keeps_absorb (now : Instant) (w : Worker E) (step : Step E) :
    w.Keeps (w.absorb now step).worker := by
  obtain ⟨session, shared, notices, calls, response⟩ := step
  cases response with
  | quiet =>
      have kept := keeps_afterMessage now { w with session }
      exact ⟨kept.passivation, kept.capacity, kept.receiving, kept.items, kept.senders⟩
  | _ => exact ⟨rfl, rfl, rfl, fun _ => rfl, rfl⟩

theorem keeps_runHandler (now : Instant) (w : Worker E) (shared : Shared E.Memory)
    (call : Call E) : w.Keeps (w.runHandler now shared call).worker := by
  unfold runHandler
  cases Session.advance shared call with
  | mk progress after => cases progress <;> exact ⟨rfl, rfl, rfl, fun _ => rfl, rfl⟩

theorem Strides.keeps {now : Instant} {w : Worker E} {shared : Shared E.Memory}
    {stride : Stride E} (h : Strides now w shared stride) : w.Keeps stride.worker := by
  cases h with
  | started stage => exact ⟨rfl, rfl, rfl, fun _ => rfl, rfl⟩
  | @took since message rest stage items =>
      have kept := keeps_absorb now { w with inbound := { w.inbound with items := rest } }
        (w.session.begin shared message)
      exact ⟨kept.passivation, kept.capacity, kept.receiving, kept.items, kept.senders⟩
  | emptied stage items closed => exact w.keeps_stop _
  | idled stage items idle => exact w.keeps_stop _
  | ran stage => exact w.keeps_runHandler now shared _
  | woke stage due => exact w.keeps_runHandler now shared _
  | concluded stage => exact w.keeps_absorb now _
  | @delivered message stage receiving =>
      have kept := keeps_afterMessage now { w with
        outbound := { w.outbound with items := w.outbound.items ++ [message] } }
      refine ⟨kept.passivation, kept.capacity, kept.receiving, ?_, kept.senders⟩
      intro deaf
      rw [receiving] at deaf
      cases deaf
  | undelivered stage closed => exact w.keeps_stop _

theorem Strides.senders {now : Instant} {w : Worker E} {shared : Shared E.Memory}
    {stride : Stride E} (h : Strides now w shared stride) :
    stride.worker.inbound.senders = w.inbound.senders := by
  have after (w : Worker E) : (w.afterMessage now).inbound.senders = w.inbound.senders := by
    unfold afterMessage
    split <;> rfl
  have absorbed (w : Worker E) (step : Step E) :
      (w.absorb now step).worker.inbound.senders = w.inbound.senders := by
    obtain ⟨session, shared, notices, calls, response⟩ := step
    cases response with
    | quiet => exact after _
    | _ => rfl
  have ran (call : Call E) :
      (w.runHandler now shared call).worker.inbound.senders = w.inbound.senders := by
    unfold runHandler
    cases Session.advance shared call with
    | mk progress after => cases progress <;> rfl
  cases h with
  | took stage items => exact absorbed _ _
  | ran stage => exact ran _
  | woke stage due => exact ran _
  | concluded stage => exact absorbed _ _
  | delivered stage receiving => exact after _
  | _ => rfl

theorem hasEnded_of_step? {w : Worker E} {now : Instant} {shared : Shared E.Memory}
    {stride : Stride E} (stepped : w.step? now shared = some stride) : w.hasEnded = false := by
  unfold hasEnded
  split
  · next stage => rw [step?, stage] at stepped; cases stepped
  · next stage => rw [step?, stage] at stepped; cases stepped
  · rfl

theorem report?_eq_some_iff {w : Worker E} {report : Report} :
    w.report? = some report ↔ w.stage = .stopped report := by
  unfold report?
  cases w.stage <;> simp

end Worker

/-- A worker, and what has passed between it and its host. -/
structure Traffic (E : Entity) where
  worker : Worker E
  shared : Shared E.Memory
  sent : List Inbound
  received : List Outbound
  /-- The answers that were dropped with their receiver. -/
  lost : List Outbound
  /-- The answer that could not be delivered. -/
  refused : Option Outbound

inductive Move where
  | send (message : Inbound)
  | receive
  | addSender
  | dropSender
  | dropReceiver
  | work (now : Instant)

/-- The answer that has no receiver. -/
def Worker.undeliverable? {E : Entity} (w : Worker E) : Option Outbound :=
  match w.stage with
  | .delivering message => if w.outbound.receiving then none else some message
  | _ => none

namespace Traffic

variable {E : Entity} {t : Traffic E}

def fresh (s : Session E) (shared : Shared E.Memory) (inbound outbound : Nat)
    (passivation : Option Duration) : Traffic E :=
  ⟨⟨s, .empty inbound, .empty outbound, passivation, .starting⟩, shared, [], [], [], none⟩

theorem create_eq_fresh (options : Options) {capacity : Nat} (passivation : Option Duration)
    (fits : Worker.capacityCrash? capacity = none) (shared : Shared E.Memory) :
    Worker.create options capacity passivation =
      .ok (fresh (.fresh options) shared capacity capacity passivation).worker := by
  rw [Worker.create, fits]
  rfl

/-- A move that is not possible changes nothing. -/
def next (t : Traffic E) : Move → Traffic E
  | .send message =>
    if t.worker.inbound.senders = 0 then t
    else
      match t.worker.send message with
      | .ok worker => { t with worker, sent := t.sent ++ [message] }
      | .error _ => t
  | .receive =>
    match t.worker.receive with
    | .message message worker => { t with worker, received := t.received ++ [message] }
    | _ => t
  | .addSender =>
    if t.worker.inbound.senders = 0 then t
    else { t with worker := { t.worker with inbound := t.worker.inbound.addSender } }
  | .dropSender => { t with worker := { t.worker with inbound := t.worker.inbound.dropSender } }
  | .dropReceiver =>
    { t with worker := t.worker.closeOutbound, lost := t.lost ++ t.worker.outbound.items }
  | .work now =>
    match t.worker.step? now t.shared with
    | some stride =>
      { t with
        worker := stride.worker
        shared := stride.shared
        refused := t.worker.undeliverable?.or t.refused }
    | none => t

def run (t : Traffic E) (moves : List Move) : Traffic E := moves.foldl next t

/-- All answers that have left the worker's hands, in order. -/
def given (t : Traffic E) : List Outbound :=
  t.received ++ t.lost ++ t.worker.outbound.items ++ t.refused.toList

/-- The answers are lost only by dropping their receiver. -/
structure Tidy (capacity : Nat) (passivation : Option Duration) (t : Traffic E) : Prop where
  capacity : t.worker.outbound.capacity = capacity
  passivation : t.worker.passivation = passivation
  kept : t.worker.outbound.receiving = true → t.lost = [] ∧ t.refused = none
  deaf : t.worker.outbound.receiving = false → t.worker.outbound.items = []
  senders : t.worker.outbound.senders = if t.worker.hasEnded then 0 else 1

theorem tidy_fresh (s : Session E) (shared : Shared E.Memory) (inbound outbound : Nat)
    (passivation : Option Duration) :
    Tidy outbound passivation (fresh s shared inbound outbound passivation) :=
  ⟨rfl, rfl, fun _ => ⟨rfl, rfl⟩, (nomatch ·), rfl⟩

theorem Tidy.next {capacity : Nat} {passivation : Option Duration}
    (tidy : Tidy capacity passivation t) (move : Move) :
    Tidy capacity passivation (t.next move) := by
  cases move with
  | send message =>
      simp only [Traffic.next]
      split
      · exact tidy
      · unfold Worker.send
        cases t.worker.inbound.push message with
        | error refusal => exact tidy
        | ok inbound =>
            exact ⟨tidy.capacity, tidy.passivation, tidy.kept, tidy.deaf, tidy.senders⟩
  | receive =>
      simp only [Traffic.next, Worker.receive]
      cases popped : t.worker.outbound.pop with
      | item message outbound =>
          obtain ⟨items, same⟩ := Queue.pop_eq_item_iff.mp popped
          rw [same]
          refine ⟨tidy.capacity, tidy.passivation, tidy.kept, ?_, tidy.senders⟩
          intro deaf
          rw [tidy.deaf deaf] at items
          cases items
      | nothingYet => exact tidy
      | finished => exact tidy
  | addSender =>
      simp only [Traffic.next]
      split
      · exact tidy
      · exact ⟨tidy.capacity, tidy.passivation, tidy.kept, tidy.deaf, tidy.senders⟩
  | dropSender => exact ⟨tidy.capacity, tidy.passivation, tidy.kept, tidy.deaf, tidy.senders⟩
  | dropReceiver =>
      exact ⟨tidy.capacity, tidy.passivation, (nomatch ·), fun _ => rfl, tidy.senders⟩
  | work now =>
      simp only [Traffic.next]
      cases stepped : t.worker.step? now t.shared with
      | none => exact tidy
      | some stride =>
          have keeps := (Worker.strides_of_step? stepped).keeps
          have senders := tidy.senders
          rw [Worker.hasEnded_of_step? stepped] at senders
          refine ⟨keeps.capacity.trans tidy.capacity, keeps.passivation.trans tidy.passivation,
            ?_, ?_, ?_⟩
          · intro receiving
            have before : t.worker.outbound.receiving = true :=
              keeps.receiving.symm.trans receiving
            obtain ⟨unlost, unrefused⟩ := tidy.kept before
            refine ⟨unlost, ?_⟩
            have deliverable : t.worker.undeliverable? = none := by
              unfold Worker.undeliverable?
              split
              · simp [before]
              · rfl
            simp only [deliverable, unrefused, Option.none_or]
          · intro deaf
            have before : t.worker.outbound.receiving = false := keeps.receiving.symm.trans deaf
            exact (keeps.items before).trans (tidy.deaf before)
          · rw [keeps.senders, senders]
            rfl

end Traffic

end EntityEngine
