import EntityEngine.Proofs.Handling
import EntityEngine.Proofs.Traffic

/-!
# The course of a worker

At every moment a worker has an outlook: where the talk with its session will stand once
the message in hand is dealt with. Only the taking of a message changes the outlook, and
then by just what the session makes of the message. So the answers, in whatever queue or
hand they are, are those of the talk over the messages that were taken.

Every step that the worker can make lowers its rank, which counts the steps that are
left: a naps-dependent number for each message that it will take, some for the message in
hand, and one for each answer that waits for the host.
-/

namespace EntityEngine

/-- A stage that a worker of an entity whose handlers finish can be in. -/
inductive Stage.Sound {E : Entity} : Stage E → Prop
  | starting : Sound .starting
  | waiting (since : Instant) : Sound (.waiting since)
  | running {call : Call E} (finishes : call.activity.Finishes) : Sound (.running call)
  | sleeping (wake : Instant) {call : Call E} (finishes : call.activity.Finishes) :
      Sound (.sleeping wake call)
  | ended (ticket : Ticket) (ending : Except CommandError (Effect E.State E.Event)) :
      Sound (.ended ticket ending)
  | delivering (message : Outbound) : Sound (.delivering message)
  | stopped (report : Report) : Sound (.stopped report)

def Exit.followsMessage : Exit → Bool
  | .terminated | .outboundClosed => true
  | .inboundClosed | .passivated => false

/-- How many steps a worker needs for the message in hand and for stopping. -/
def Stage.rank {E : Entity} (shared : Shared E.Memory) : Stage E → Nat
  | .starting => 2
  | .waiting _ => 1
  | .running call => 5 + call.naps shared
  | .sleeping _ call => 5 + call.naps shared
  | .ended .. => 4
  | .delivering _ => 3
  | _ => 0

namespace Talk

variable {E : Entity}

/-- How many steps a worker and its host need at most for some messages. -/
def cost (t : Talk E) : List Inbound → Nat
  | [] => 0
  | message :: rest =>
    if t.isOver then 0
    else 3 + 2 * Session.patience (t.session.begin t.shared message) + (t.hear message).cost rest

theorem cost_of_isOver {t : Talk E} (past : t.isOver = true) (messages : List Inbound) :
    t.cost messages = 0 := by
  cases messages with
  | nil => rfl
  | cons message rest => simp only [cost, past, if_true]

theorem cost_append (t : Talk E) (earlier later : List Inbound) :
    t.cost (earlier ++ later) = t.cost earlier + (t.hearAll earlier).cost later := by
  induction earlier generalizing t with
  | nil => simp [cost]
  | cons message rest ih =>
      cases past : t.isOver with
      | true =>
          rw [hearAll_of_isOver past, cost_of_isOver past, cost_of_isOver past, cost_of_isOver past]
      | false =>
          simp only [List.cons_append, cost, past, Bool.false_eq_true, if_false, ih, hearAll_cons]
          omega

end Talk

namespace Worker

variable {E : Entity}

/-- What a step leaves of a worker's load: at most this rank, and no more messages. -/
structure LoadAtMost (w w' : Worker E) (shared : Shared E.Memory) (rank : Nat) : Prop where
  stage : w'.stage.rank shared ≤ rank
  inbound : w'.inbound.items = w.inbound.items ∨ w'.inbound.items = []
  outbound : w'.outbound.items = w.outbound.items

theorem loadAtMost_afterMessage (now : Instant) (w : Worker E) (shared : Shared E.Memory) :
    w.LoadAtMost (w.afterMessage now) shared 1 := by
  unfold afterMessage
  split
  · exact ⟨Nat.zero_le _, .inr rfl, rfl⟩
  · exact ⟨Nat.le_refl _, .inl rfl, rfl⟩

theorem loadAtMost_absorb (now : Instant) (w : Worker E) (step : Step E) :
    w.LoadAtMost (w.absorb now step).worker step.shared (3 + 2 * Session.patience step) := by
  obtain ⟨session, shared, notices, calls, response⟩ := step
  cases response with
  | quiet =>
      have loadAtMost := loadAtMost_afterMessage now { w with session } shared
      exact ⟨Nat.le_trans loadAtMost.stage (by omega), loadAtMost.inbound, loadAtMost.outbound⟩
  | answered message => exact ⟨by simp [absorb, Stage.rank], .inl rfl, rfl⟩
  | crashed crash => exact ⟨Nat.zero_le _, .inr rfl, rfl⟩
  | calling call =>
      refine ⟨?_, .inl rfl, rfl⟩
      simp only [absorb, Stage.rank, Session.patience]
      omega

theorem loadAtMost_runHandler {call : Call E} (finishes : call.activity.Finishes) (now : Instant)
    (w : Worker E) (shared : Shared E.Memory) :
    w.LoadAtMost (w.runHandler now shared call).worker (w.runHandler now shared call).shared
      (4 + call.naps shared) := by
  have advancesWithin := Session.advancesWithin_advance finishes shared
  unfold runHandler
  cases advanced : Session.advance shared call with
  | mk progress after =>
      rw [advanced] at advancesWithin
      cases advancesWithin with
      | ended ending => exact ⟨by simp [Stage.rank], .inl rfl, rfl⟩
      | sleeping span _ rested fewer =>
          refine ⟨?_, .inl rfl, rfl⟩
          simp only [Stage.rank, Call.naps] at *
          omega

end Worker

namespace Traffic

variable {E : Entity} {blank : E.State} {start : Talk E} {t : Traffic E}
  {taken untaken : List Inbound}

/-- Where the talk will stand once the message in hand is dealt with. -/
def outlook (t : Traffic E) : Talk E :=
  let s := t.worker.session
  let talk : Talk E := ⟨s, t.shared, t.given, false⟩
  match t.worker.stage with
  | .running call => talk.after (s.resolve t.shared call)
  | .sleeping _ call => talk.after (s.resolve t.shared call)
  | .ended ticket ending => talk.after (s.conclude t.shared ticket ending)
  | .delivering message => talk.after ⟨s, t.shared, [], [], .answered message⟩
  | .stopped report => { talk with isOver := report.exit.followsMessage && s.phase = .terminated }
  | _ => talk

/-- What is known of a worker's end when some accepted messages have not been taken. -/
structure Final (t : Traffic E) (untaken : List Inbound) (report : Report) : Prop where
  genuine : report = t.worker.report report.exit
  closed : t.worker.inbound.receiving = false
  drained : t.worker.inbound.items = []
  terminated : report.exit = .terminated → t.worker.session.phase = .terminated
  exhausted : report.exit = .inboundClosed → untaken = [] ∧ t.worker.inbound.senders = 0
  idle : report.exit = .passivated → untaken = [] ∧ t.worker.passivation.isSome = true
  refused : report.exit = .outboundClosed ↔ t.refused.isSome = true

/-- The accepted messages that the worker has not taken are in its queue. -/
structure Open (t : Traffic E) (untaken : List Inbound) : Prop where
  queued : untaken = t.worker.inbound.items
  receiving : t.worker.inbound.receiving = true
  unrefused : t.refused = none

/-- The worker has taken some messages, and the others wait for it. -/
structure Course (start : Talk E) (t : Traffic E) (taken untaken : List Inbound) : Prop where
  sent : t.sent = taken ++ untaken
  outlook : t.outlook = start.hearAll taken
  sound : t.worker.stage.Sound
  going : t.worker.hasEnded = false → t.Open untaken
  final : ∀ report, t.worker.stage = .stopped report → t.Final untaken report

/-- How many steps are left at most, of the worker and of a host that receives. -/
def rank (t : Traffic E) : Nat :=
  t.worker.stage.rank t.shared + t.outlook.cost t.worker.inbound.items +
    t.worker.outbound.items.length

theorem Course.inbound (course : Course start t taken untaken) {inbound : Queue Inbound}
    (items : inbound.items = t.worker.inbound.items)
    (receiving : inbound.receiving = t.worker.inbound.receiving)
    (senders : t.worker.inbound.senders = 0 → inbound.senders = 0) :
    Course start { t with worker := { t.worker with inbound } } taken untaken := by
  refine ⟨course.sent, course.outlook, course.sound, ?_, ?_⟩
  · intro going
    have before := course.going going
    exact ⟨before.queued.trans items.symm, receiving.trans before.receiving, before.unrefused⟩
  · intro report stopped
    have before := course.final report stopped
    exact { before with
      closed := receiving.trans before.closed
      drained := items.trans before.drained
      exhausted := fun exit => ⟨(before.exhausted exit).1, senders (before.exhausted exit).2⟩ }

theorem Course.send (course : Course start t taken untaken) {message : Inbound}
    {worker : Worker E} (accepted : t.worker.send message = .ok worker) :
    Course start { t with worker, sent := t.sent ++ [message] } taken (untaken ++ [message]) := by
  obtain ⟨inbound, pushed, rfl⟩ : ∃ inbound, t.worker.inbound.push message = .ok inbound ∧
      worker = { t.worker with inbound } := by
    unfold Worker.send at accepted
    cases pushed : t.worker.inbound.push message with
    | error refusal => rw [pushed] at accepted; cases accepted
    | ok inbound =>
        rw [pushed] at accepted
        cases accepted
        exact ⟨inbound, rfl, rfl⟩
  obtain ⟨receiving, -, rfl⟩ := Queue.push_eq_ok_iff.mp pushed
  refine ⟨?_, course.outlook, course.sound, ?_, ?_⟩
  · simp only [course.sent, List.append_assoc]
  · intro going
    have before := course.going going
    exact ⟨congrArg (· ++ [message]) before.queued, receiving, before.unrefused⟩
  · intro report stopped
    have closed := (course.final report stopped).closed
    rw [receiving] at closed
    cases closed

/-- What the host's end of the answers looks like does not matter to the worker's course. -/
theorem Course.outbound (course : Course start t taken untaken) (outbound : Queue Outbound)
    (received lost : List Outbound)
    (same : received ++ lost ++ outbound.items = t.received ++ t.lost ++ t.worker.outbound.items) :
    Course start { t with worker := { t.worker with outbound }, received, lost }
      taken untaken := by
  have given : given { t with worker := { t.worker with outbound }, received, lost } = t.given :=
    congrArg (· ++ t.refused.toList) same
  refine ⟨course.sent, ?_, course.sound, ?_, ?_⟩
  · rw [← course.outlook]
    unfold Traffic.outlook
    rw [given]
  · intro going
    have before := course.going going
    exact ⟨before.queued, before.receiving, before.unrefused⟩
  · intro report stopped
    exact { course.final report stopped with }

theorem Open.afterMessage (standing : t.Open untaken) (sent : t.sent = taken ++ untaken)
    (talk : start.hearAll taken =
      ⟨t.worker.session, t.shared, t.given, t.worker.session.phase = .terminated⟩)
    (now : Instant) :
    Course start { t with worker := t.worker.afterMessage now } taken untaken := by
  unfold Worker.afterMessage
  split
  · next terminated =>
      refine ⟨sent, ?_, .stopped _, ?_, ?_⟩
      · rw [talk]
        rfl
      · intro going
        cases going
      · intro report stopped
        cases stopped
        exact {
          genuine := rfl
          closed := rfl
          drained := rfl
          terminated := fun _ => terminated
          exhausted := by rintro ⟨⟩
          idle := by rintro ⟨⟩
          refused := by simp [Worker.report, standing.unrefused] }
  · next live =>
      refine ⟨sent, ?_, .waiting now, ?_, fun report stopped => nomatch stopped⟩
      · rw [talk]
        simp only [live, decide_false]
        rfl
      · intro going
        exact ⟨standing.queued, standing.receiving, standing.unrefused⟩

theorem Open.absorb (standing : t.Open untaken) (sent : t.sent = taken ++ untaken)
    {step : Step E} (tractable : step.response.Tractable)
    (talk : start.hearAll taken =
      (⟨step.session, step.shared, t.given, false⟩ : Talk E).after (Session.complete step))
    (now : Instant) :
    Course start { t with worker := (t.worker.absorb now step).worker, shared := step.shared }
      taken untaken := by
  obtain ⟨session, shared, notices, calls, response⟩ := step
  have settled : ∀ response : Response E, (∀ call, response ≠ .calling call) →
      Session.complete (⟨session, shared, notices, calls, response⟩ : Step E) =
        ⟨session, shared, notices, calls, response⟩ :=
    fun _ settled => Session.complete_of_settled settled
  cases tractable with
  | quiet =>
      rw [settled .quiet (fun _ => (nomatch ·))] at talk
      have standing : Open { t with worker := { t.worker with session }, shared } untaken :=
        ⟨standing.queued, standing.receiving, standing.unrefused⟩
      refine standing.afterMessage sent ?_ now
      rw [talk, Talk.after]
      simp only [Response.answer?, Option.toList_none, List.append_nil]
      rfl
  | answered message =>
      rw [settled (.answered message) (fun _ => (nomatch ·))] at talk
      refine ⟨sent, ?_, .delivering message, ?_, fun report stopped => nomatch stopped⟩
      · rw [talk]
        rfl
      · intro going
        exact ⟨standing.queued, standing.receiving, standing.unrefused⟩
  | @calling call finishes =>
      rw [Session.complete_of_calling rfl, Talk.after_preceded] at talk
      refine ⟨sent, ?_, .running finishes, ?_, fun report stopped => nomatch stopped⟩
      · rw [talk]
        rfl
      · intro going
        exact ⟨standing.queued, standing.receiving, standing.unrefused⟩

theorem Course.untold (course : Course start t taken untaken)
    (idle : t.worker.stage = .starting ∨ ∃ since, t.worker.stage = .waiting since) :
    start.hearAll taken = ⟨t.worker.session, t.shared, t.given, false⟩ ∧ t.Open untaken := by
  have outlook := course.outlook
  unfold Traffic.outlook at outlook
  obtain stage | ⟨since, stage⟩ := idle
  · rw [stage] at outlook
    exact ⟨outlook.symm, course.going (by rw [Worker.hasEnded, stage])⟩
  · rw [stage] at outlook
    exact ⟨outlook.symm, course.going (by rw [Worker.hasEnded, stage])⟩

theorem Course.finishes (course : Course start t taken untaken) {call : Call E}
    (stage : t.worker.stage = .running call ∨ ∃ wake, t.worker.stage = .sleeping wake call) :
    call.activity.Finishes := by
  have sound := course.sound
  obtain stage | ⟨wake, stage⟩ := stage
  · rw [stage] at sound
    cases sound
    assumption
  · rw [stage] at sound
    cases sound
    assumption

theorem Course.runHandler (course : Course start t taken untaken) {call : Call E}
    (stage : t.worker.stage = .running call ∨ ∃ wake, t.worker.stage = .sleeping wake call)
    (now : Instant) :
    let stride := t.worker.runHandler now t.shared call
    Course start { t with worker := stride.worker, shared := stride.shared } taken untaken := by
  intro stride
  have talk : start.hearAll taken = (⟨t.worker.session, t.shared, t.given, false⟩ : Talk E).after
      (t.worker.session.resolve t.shared call) := by
    rw [← course.outlook]
    unfold Traffic.outlook
    obtain stage | ⟨wake, stage⟩ := stage <;> rw [stage]
  have finishes := course.finishes stage
  have standing : t.Open untaken := by
    refine course.going ?_
    obtain stage | ⟨wake, stage⟩ := stage <;> rw [Worker.hasEnded, stage]
  have advancesWithin := Session.advancesWithin_advance finishes t.shared
  simp only [stride, Worker.runHandler]
  cases advanced : Session.advance t.shared call with
  | mk progress after =>
      rw [advanced] at advancesWithin
      cases advancesWithin with
      | ended ending =>
          rw [Session.resolve_of_ended advanced] at talk
          refine ⟨course.sent, talk.symm, .ended _ _, ?_, fun report stopped => nomatch stopped⟩
          intro going
          exact ⟨standing.queued, standing.receiving, standing.unrefused⟩
      | sleeping span _ rested fewer =>
          rw [Session.resolve_of_sleeping rested advanced fewer] at talk
          refine ⟨course.sent, talk.symm, .sleeping _ rested, ?_,
            fun report stopped => nomatch stopped⟩
          intro going
          exact ⟨standing.queued, standing.receiving, standing.unrefused⟩

theorem Course.stopEmpty (course : Course start t taken untaken) {since : Instant}
    (stage : t.worker.stage = .waiting since) (items : t.worker.inbound.items = []) {exit : Exit}
    (unforced : exit.followsMessage = false)
    (closed : exit = .inboundClosed → t.worker.inbound.senders = 0)
    (idle : exit = .passivated → t.worker.passivation.isSome = true) :
    Course start { t with worker := t.worker.stop exit } taken untaken := by
  obtain ⟨talk, standing⟩ := course.untold (.inr ⟨since, stage⟩)
  have none_left : untaken = [] := standing.queued.trans items
  refine ⟨course.sent, ?_, .stopped _, ?_, ?_⟩
  · rw [talk]
    simp only [Traffic.outlook, Worker.stop, Worker.hangUp, Worker.report, unforced,
      Bool.false_and]
    rfl
  · rintro ⟨⟩
  · intro report stopped
    cases stopped
    exact {
      genuine := rfl
      closed := rfl
      drained := rfl
      terminated := by
        intro terminated
        have : exit = .terminated := terminated
        rw [this] at unforced
        cases unforced
      exhausted := fun exhausted => ⟨none_left, closed exhausted⟩
      idle := fun passivated => ⟨none_left, idle passivated⟩
      refused := by
        simp only [standing.unrefused, Worker.report, Option.isSome_none, Bool.false_eq_true,
          iff_false]
        rintro rfl
        cases unforced }

theorem Course.take (empty : E.emptyState = .ok blank) (finishing : E.Finishing)
    (course : Course start t taken untaken) {since : Instant} {message : Inbound}
    {rest : List Inbound} (stage : t.worker.stage = .waiting since)
    (items : t.worker.inbound.items = message :: rest) (now : Instant) :
    let worker := { t.worker with inbound := { t.worker.inbound with items := rest } }
    let stride := worker.absorb now (t.worker.session.begin t.shared message)
    Course start { t with worker := stride.worker, shared := stride.shared }
      (taken ++ [message]) rest := by
  intro worker stride
  obtain ⟨talk, standing⟩ := course.untold (.inr ⟨since, stage⟩)
  have next : Open { t with worker } rest := ⟨rfl, standing.receiving, standing.unrefused⟩
  have sent : t.sent = (taken ++ [message]) ++ rest := by
    rw [course.sent, standing.queued, items, List.append_assoc]
    rfl
  refine next.absorb sent (Session.begin_tractable empty finishing _ _ _) ?_ now
  rw [Talk.hearAll_append, talk]
  rfl

theorem Course.conclude (empty : E.emptyState = .ok blank) (course : Course start t taken untaken)
    {ticket : Ticket} {ending : Except CommandError (Effect E.State E.Event)}
    (stage : t.worker.stage = .ended ticket ending) (now : Instant) :
    let stride := t.worker.absorb now (t.worker.session.conclude t.shared ticket ending)
    Course start { t with worker := stride.worker, shared := stride.shared } taken untaken := by
  intro stride
  have standing : t.Open untaken := course.going (by rw [Worker.hasEnded, stage])
  obtain ⟨out, answered⟩ :=
    Session.conclude_answered empty t.worker.session t.shared ticket ending
  have settled : ∀ call, (t.worker.session.conclude t.shared ticket ending).response ≠
      .calling call := by
    intro call called
    rw [answered] at called
    cases called
  refine standing.absorb course.sent ?_ ?_ now
  · rw [answered]
    exact .answered out
  · rw [← course.outlook, Session.complete_of_settled settled]
    unfold Traffic.outlook
    rw [stage]
    rfl

theorem Course.deliver (course : Course start t taken untaken) {message : Outbound}
    (stage : t.worker.stage = .delivering message) (now : Instant) :
    let outbound := { t.worker.outbound with items := t.worker.outbound.items ++ [message] }
    Course start { t with worker := Worker.afterMessage now { t.worker with outbound } }
      taken untaken := by
  intro outbound
  have standing : t.Open untaken := course.going (by rw [Worker.hasEnded, stage])
  have next : Open { t with worker := { t.worker with outbound } } untaken :=
    ⟨standing.queued, standing.receiving, standing.unrefused⟩
  refine next.afterMessage course.sent ?_ now
  rw [← course.outlook]
  unfold Traffic.outlook given
  simp only [stage, Talk.after, Response.answer?, Option.toList_some, standing.unrefused, outbound,
    Option.toList_none, List.append_nil, List.append_assoc]

theorem Course.stopDeaf (course : Course start t taken untaken) {message : Outbound}
    (stage : t.worker.stage = .delivering message) :
    Course start { t with worker := t.worker.stop .outboundClosed, refused := some message }
      taken untaken := by
  have standing : t.Open untaken := course.going (by rw [Worker.hasEnded, stage])
  refine ⟨course.sent, ?_, .stopped _, ?_, ?_⟩
  · rw [← course.outlook]
    unfold Traffic.outlook given
    simp only [stage, Talk.after, Response.answer?, Option.toList_some, standing.unrefused,
      Option.toList_none, List.append_nil]
    rfl
  · rintro ⟨⟩
  · intro report stopped
    cases stopped
    exact {
      genuine := rfl
      closed := rfl
      drained := rfl
      terminated := by rintro ⟨⟩
      exhausted := by rintro ⟨⟩
      idle := by rintro ⟨⟩
      refused := by simp [Worker.report] }

/-- The course has gone on, at a lower rank. -/
def Falls (start : Talk E) (t t' : Traffic E) : Prop :=
  ∃ taken untaken, Course start t' taken untaken ∧ t'.rank < t.rank

/-- The rank falls with the stage as long as no message is taken. -/
theorem Course.falls {t' : Traffic E} (course : Course start t taken untaken)
    (course' : Course start t' taken untaken)
    (inbound : t'.worker.inbound.items = t.worker.inbound.items ∨ t'.worker.inbound.items = [])
    (fewer : t'.worker.stage.rank t'.shared + t'.worker.outbound.items.length <
      t.worker.stage.rank t.shared + t.worker.outbound.items.length) : Falls start t t' := by
  refine ⟨taken, untaken, course', ?_⟩
  have outlook : t'.outlook = t.outlook := course'.outlook.trans course.outlook.symm
  unfold rank
  rw [outlook]
  obtain items | items := inbound
  · rw [items]
    omega
  · rw [items, Talk.cost]
    omega

theorem Course.start_falls (course : Course start t taken untaken)
    (stage : t.worker.stage = .starting) (now : Instant) :
    Falls start t { t with worker := { t.worker with stage := .waiting now } } := by
  obtain ⟨talk, standing⟩ := course.untold (.inl stage)
  have next : Course start { t with worker := { t.worker with stage := .waiting now } }
      taken untaken :=
    ⟨course.sent, talk.symm, .waiting now,
      fun _ => ⟨standing.queued, standing.receiving, standing.unrefused⟩,
      fun report stopped => nomatch stopped⟩
  refine course.falls next (.inl rfl) ?_
  simp [stage, Stage.rank]

theorem Course.take_falls (empty : E.emptyState = .ok blank) (finishing : E.Finishing)
    (course : Course start t taken untaken) {since : Instant} {message : Inbound}
    {rest : List Inbound} (stage : t.worker.stage = .waiting since)
    (items : t.worker.inbound.items = message :: rest) (now : Instant) :
    let worker := { t.worker with inbound := { t.worker.inbound with items := rest } }
    let stride := worker.absorb now (t.worker.session.begin t.shared message)
    Falls start t { t with worker := stride.worker, shared := stride.shared } := by
  intro worker stride
  have next := course.take empty finishing stage items now
  refine ⟨_, _, next, ?_⟩
  obtain ⟨talk, -⟩ := course.untold (.inr ⟨since, stage⟩)
  have loadAtMost := worker.loadAtMost_absorb now (t.worker.session.begin t.shared message)
  have heard : Traffic.outlook { t with worker := stride.worker, shared := stride.shared } =
      t.outlook.hear message := by
    rw [next.outlook, Talk.hearAll_append, course.outlook]
    rfl
  have open_ : t.outlook.isOver = false := by rw [course.outlook, talk]
  have here : t.outlook.session = t.worker.session ∧ t.outlook.shared = t.shared := by
    rw [course.outlook, talk]
    exact ⟨rfl, rfl⟩
  have before : t.rank = 1 + (3 + 2 * Session.patience (t.worker.session.begin t.shared message) +
      (t.outlook.hear message).cost rest) + t.worker.outbound.items.length := by
    unfold rank
    rw [stage, items, Talk.cost, open_, here.1, here.2]
    rfl
  have queued : (t.outlook.hear message).cost stride.worker.inbound.items ≤
      (t.outlook.hear message).cost rest := by
    obtain same | none := loadAtMost.inbound
    · exact Nat.le_of_eq (congrArg _ same)
    · rw [none]
      exact Nat.zero_le _
  have stage' : stride.worker.stage.rank stride.shared ≤ _ := loadAtMost.stage
  have outbound : stride.worker.outbound.items = t.worker.outbound.items := loadAtMost.outbound
  rw [before]
  unfold rank
  rw [heard]
  simp only [outbound]
  omega

theorem Course.runHandler_falls (course : Course start t taken untaken) {call : Call E}
    (stage : t.worker.stage = .running call ∨ ∃ wake, t.worker.stage = .sleeping wake call)
    (now : Instant) :
    let stride := t.worker.runHandler now t.shared call
    Falls start t { t with worker := stride.worker, shared := stride.shared } := by
  intro stride
  have loadAtMost := t.worker.loadAtMost_runHandler (course.finishes stage) now t.shared
  have rank : t.worker.stage.rank t.shared = 5 + call.naps t.shared := by
    obtain stage | ⟨wake, stage⟩ := stage <;> rw [stage] <;> rfl
  refine course.falls (course.runHandler stage now) loadAtMost.inbound ?_
  have stage' : stride.worker.stage.rank stride.shared ≤ _ := loadAtMost.stage
  have outbound : stride.worker.outbound.items = t.worker.outbound.items := loadAtMost.outbound
  simp only [outbound]
  omega

theorem Course.stopEmpty_falls (course : Course start t taken untaken) {since : Instant}
    (stage : t.worker.stage = .waiting since) (items : t.worker.inbound.items = []) {exit : Exit}
    (unforced : exit.followsMessage = false)
    (closed : exit = .inboundClosed → t.worker.inbound.senders = 0)
    (idle : exit = .passivated → t.worker.passivation.isSome = true) :
    Falls start t { t with worker := t.worker.stop exit } := by
  refine course.falls (course.stopEmpty stage items unforced closed idle) (.inr rfl) ?_
  simp [stage, Stage.rank, Worker.stop, Worker.hangUp, Queue.dropSenders]

theorem Course.conclude_falls (empty : E.emptyState = .ok blank)
    (course : Course start t taken untaken) {ticket : Ticket}
    {ending : Except CommandError (Effect E.State E.Event)}
    (stage : t.worker.stage = .ended ticket ending) (now : Instant) :
    let stride := t.worker.absorb now (t.worker.session.conclude t.shared ticket ending)
    Falls start t { t with worker := stride.worker, shared := stride.shared } := by
  intro stride
  obtain ⟨out, answered⟩ :=
    Session.conclude_answered empty t.worker.session t.shared ticket ending
  have loadAtMost :=
    t.worker.loadAtMost_absorb now (t.worker.session.conclude t.shared ticket ending)
  refine course.falls (course.conclude empty stage now) loadAtMost.inbound ?_
  have stage' : stride.worker.stage.rank stride.shared ≤ _ := loadAtMost.stage
  have outbound : stride.worker.outbound.items = t.worker.outbound.items := loadAtMost.outbound
  have before : t.worker.stage.rank t.shared = 4 := by rw [stage]; rfl
  simp only [Session.patience, answered] at stage'
  simp only [outbound, before]
  omega

theorem Course.deliver_falls (course : Course start t taken untaken) {message : Outbound}
    (stage : t.worker.stage = .delivering message) (now : Instant) :
    let outbound := { t.worker.outbound with items := t.worker.outbound.items ++ [message] }
    Falls start t { t with worker := Worker.afterMessage now { t.worker with outbound } } := by
  intro outbound
  have loadAtMost := Worker.loadAtMost_afterMessage now { t.worker with outbound } t.shared
  refine course.falls (course.deliver stage now) loadAtMost.inbound ?_
  have before : t.worker.stage.rank t.shared = 3 := by rw [stage]; rfl
  have stage' := loadAtMost.stage
  have length := congrArg List.length loadAtMost.outbound
  simp only [outbound, List.length_append, List.length_singleton] at length stage'
  simp only [before, outbound]
  omega

/-- The course goes on with every step of the worker, and the rank falls. -/
theorem Course.work (empty : E.emptyState = .ok blank) (finishing : E.Finishing)
    (course : Course start t taken untaken) {now : Instant} {stride : Stride E}
    (stepped : t.worker.step? now t.shared = some stride) :
    Falls start t (t.next (.work now)) := by
  have moved (quiet : t.worker.undeliverable? = none) :
      t.next (.work now) = { t with worker := stride.worker, shared := stride.shared } := by
    simp only [next, stepped, quiet, Option.none_or]
  cases Worker.strides_of_step? stepped with
  | started stage =>
      rw [moved (by rw [Worker.undeliverable?, stage])]
      exact course.start_falls stage now
  | took stage items =>
      rw [moved (by rw [Worker.undeliverable?, stage])]
      exact course.take_falls empty finishing stage items now
  | emptied stage items closed =>
      rw [moved (by rw [Worker.undeliverable?, stage])]
      exact course.stopEmpty_falls stage items rfl (fun _ => closed) (by simp)
  | idled stage items idle =>
      rw [moved (by rw [Worker.undeliverable?, stage])]
      have limited : t.worker.passivation.isSome = true := by
        unfold Worker.isIdle at idle
        cases passivation : t.worker.passivation with
        | none => rw [passivation] at idle; cases idle
        | some limit => rfl
      exact course.stopEmpty_falls stage items rfl (by simp) fun _ => limited
  | ran stage =>
      rw [moved (by rw [Worker.undeliverable?, stage])]
      exact course.runHandler_falls (.inl stage) now
  | woke stage due =>
      rw [moved (by rw [Worker.undeliverable?, stage])]
      exact course.runHandler_falls (.inr ⟨_, stage⟩) now
  | concluded stage =>
      rw [moved (by rw [Worker.undeliverable?, stage])]
      exact course.conclude_falls empty stage now
  | delivered stage receiving =>
      rw [moved (by simp [Worker.undeliverable?, stage, receiving])]
      exact course.deliver_falls stage now
  | @undelivered message stage closed =>
      have undelivered : t.worker.undeliverable? = some message := by
        simp [Worker.undeliverable?, stage, closed]
      simp only [next, stepped, undelivered, Option.some_or]
      refine course.falls (course.stopDeaf stage) (.inr rfl) ?_
      simp [stage, Stage.rank, Worker.stop, Worker.hangUp, Queue.dropSenders]

theorem Course.next {capacity : Nat} {passivation : Option Duration}
    (empty : E.emptyState = .ok blank) (finishing : E.Finishing)
    (tidy : Tidy capacity passivation t) (course : Course start t taken untaken) (move : Move) :
    ∃ taken' untaken', Course start (t.next move) taken' untaken' := by
  cases move with
  | send message =>
      simp only [Traffic.next]
      split
      · exact ⟨_, _, course⟩
      · cases accepted : t.worker.send message with
        | error refusal => exact ⟨_, _, course⟩
        | ok worker => exact ⟨_, _, course.send accepted⟩
  | receive =>
      simp only [Traffic.next, Worker.receive]
      cases popped : t.worker.outbound.pop with
      | item message outbound =>
          obtain ⟨items, -⟩ := Queue.pop_eq_item_iff.mp popped
          have unlost : t.lost = [] := by
            cases receiving : t.worker.outbound.receiving with
            | true => exact (tidy.kept receiving).1
            | false =>
                rw [tidy.deaf receiving] at items
                cases items
          refine ⟨_, _, course.outbound outbound (t.received ++ [message]) t.lost ?_⟩
          rw [items, unlost]
          simp
      | nothingYet => exact ⟨_, _, course⟩
      | finished => exact ⟨_, _, course⟩
  | addSender =>
      simp only [Traffic.next]
      split
      · exact ⟨_, _, course⟩
      · next open_ => exact ⟨_, _, course.inbound rfl rfl fun closed => (open_ closed).elim⟩
  | dropSender =>
      refine ⟨_, _, course.inbound rfl rfl fun closed => ?_⟩
      simp only [Queue.dropSender, closed]
  | dropReceiver =>
      refine ⟨_, _, course.outbound _ t.received (t.lost ++ t.worker.outbound.items) ?_⟩
      simp [Queue.dropReceiver]
  | work now =>
      cases stepped : t.worker.step? now t.shared with
      | none =>
          simp only [Traffic.next, stepped]
          exact ⟨_, _, course⟩
      | some stride =>
          obtain ⟨taken', untaken', next, -⟩ := course.work empty finishing stepped
          exact ⟨taken', untaken', next⟩

theorem course_run {capacity : Nat} {passivation : Option Duration}
    (empty : E.emptyState = .ok blank) (finishing : E.Finishing)
    (tidy : Tidy capacity passivation t) (course : Course start t taken untaken)
    (moves : List Move) :
    Tidy capacity passivation (t.run moves) ∧
      ∃ taken' untaken', Course start (t.run moves) taken' untaken' := by
  induction moves generalizing t taken untaken with
  | nil => exact ⟨tidy, _, _, course⟩
  | cons move rest ih =>
      obtain ⟨_, _, next⟩ := course.next empty finishing tidy move
      exact ih (tidy.next move) next

theorem course_fresh (s : Session E) (shared : Shared E.Memory) (inbound outbound : Nat)
    (passivation : Option Duration) :
    Course (s.talk shared) (fresh s shared inbound outbound passivation) [] [] :=
  ⟨rfl, rfl, .starting, fun _ => ⟨rfl, rfl, rfl⟩, fun _ stopped => nomatch stopped⟩

end Traffic

end EntityEngine
