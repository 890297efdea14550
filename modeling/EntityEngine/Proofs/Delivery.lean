import EntityEngine.Proofs.Course

/-!
# What a host gets from a worker

Whatever the order of the moves, the host receives the answers of the talk over the
messages that were accepted, as far as they have come. When the worker has stopped and
the receiver is still there, nothing is missing, and the report is that of the talk.

A schedule is fair when it lets the worker make its steps at ever later times and the
host receive again and again. Under a fair schedule a worker stops and its answers are
received, provided that the host closes its side or that a message terminates the
session. No move raises the rank, and a move that changes neither the stage nor the
answers' queue leaves the step that lowers it possible.
-/

namespace EntityEngine

/-- The report of a worker whose host has kept its receiver, after such a talk. -/
def Talk.report {E : Entity} (talk : Talk E) : Report :=
  ⟨if talk.isOver then .terminated else .inboundClosed,
    talk.session.identity.orElse fun _ => talk.session.options.expectedEntity,
    talk.session.deleted⟩

namespace Traffic

variable {E : Entity} {blank : E.State} {start : Talk E} {t : Traffic E}
  {taken untaken : List Inbound} {capacity : Nat} {passivation : Option Duration}

theorem given_prefix (t : Traffic E) : t.given <+: t.outlook.answers := by
  unfold outlook
  split
  · exact List.prefix_append _ _
  · exact List.prefix_append _ _
  · exact List.prefix_append _ _
  · exact List.prefix_append _ _
  · exact List.prefix_refl _
  · exact List.prefix_refl _

theorem Course.given (course : Course start t taken untaken) :
    t.given <+: (start.hearAll t.sent).answers := by
  rw [course.sent, Talk.hearAll_append, ← course.outlook]
  exact t.given_prefix.trans (Talk.answers_hearAll _ _)

theorem Course.received (course : Course start t taken untaken) :
    t.received <+: (start.hearAll t.sent).answers := by
  refine List.IsPrefix.trans ?_ course.given
  unfold Traffic.given
  rw [List.append_assoc, List.append_assoc]
  exact List.prefix_append _ _

/-- Where a worker that has stopped leaves the talk. -/
theorem Course.outlook_stopped (course : Course start t taken untaken) {report : Report}
    (stopped : t.worker.stage = .stopped report) :
    start.hearAll taken = ⟨t.worker.session, t.shared, t.given,
      report.exit.followsMessage && t.worker.session.phase = .terminated⟩ := by
  rw [← course.outlook, Traffic.outlook, stopped]

/-- A worker that was not kept from delivering has dealt with all messages that count. -/
theorem Course.complete (course : Course start t taken untaken) {report : Report}
    (stopped : t.worker.stage = .stopped report) (delivered : t.refused = none) :
    start.hearAll t.sent = start.hearAll taken ∧
      (start.hearAll taken).isOver = decide (report.exit = .terminated) := by
  have final := course.final report stopped
  have talk := course.outlook_stopped stopped
  cases exit : report.exit with
  | terminated =>
      have past : (start.hearAll taken).isOver = true := by
        rw [talk, exit]
        simp [Exit.followsMessage, final.terminated exit]
      refine ⟨?_, by rw [past]; rfl⟩
      rw [course.sent, Talk.hearAll_append, Talk.hearAll_of_isOver past]
  | inboundClosed =>
      refine ⟨?_, by rw [talk, exit]; rfl⟩
      rw [course.sent, (final.exhausted exit).1, List.append_nil]
  | passivated =>
      refine ⟨?_, by rw [talk, exit]; rfl⟩
      rw [course.sent, (final.idle exit).1, List.append_nil]
  | outboundClosed =>
      have refused := final.refused.mp exit
      rw [delivered] at refused
      cases refused

theorem Course.kept (course : Course start t taken untaken) (tidy : Tidy capacity none t)
    {report : Report} (stopped : t.worker.stage = .stopped report)
    (receiving : t.worker.outbound.receiving = true) :
    t.received ++ t.worker.outbound.items = (start.hearAll t.sent).answers ∧
      t.worker.session = (start.hearAll t.sent).session ∧
      report = (start.hearAll t.sent).report ∧
      (report.exit = .inboundClosed → t.worker.inbound.senders = 0) := by
  obtain ⟨unlost, unrefused⟩ := tidy.kept receiving
  obtain ⟨complete, past⟩ := course.complete stopped unrefused
  have final := course.final report stopped
  have talk := course.outlook_stopped stopped
  have given : t.given = t.received ++ t.worker.outbound.items := by
    simp only [Traffic.given, unlost, unrefused, List.append_nil, Option.toList_none]
  rw [complete]
  refine ⟨?_, ?_, ?_, fun exit => (final.exhausted exit).2⟩
  · rw [talk, given]
  · rw [talk]
  · have exit : report.exit = if (start.hearAll taken).isOver then .terminated
        else .inboundClosed := by
      rw [past]
      cases exit : report.exit with
      | terminated => rfl
      | inboundClosed => rfl
      | passivated =>
          have limited := (final.idle exit).2
          rw [tidy.passivation] at limited
          cases limited
      | outboundClosed =>
          have refused := final.refused.mp exit
          rw [unrefused] at refused
          cases refused
    rw [Talk.report, ← exit, talk]
    exact final.genuine

theorem Course.refused (course : Course start t taken untaken) (tidy : Tidy capacity passivation t)
    {report : Report} (stopped : t.worker.stage = .stopped report)
    (exit : report.exit = .outboundClosed) :
    t.worker.outbound.receiving = false ∧ ∃ out, t.refused = some out ∧
      t.received ++ t.lost ++ [out] <+: (start.hearAll t.sent).answers := by
  obtain ⟨out, refused⟩ :=
    Option.isSome_iff_exists.mp ((course.final report stopped).refused.mp exit)
  have deaf : t.worker.outbound.receiving = false := by
    cases receiving : t.worker.outbound.receiving with
    | false => rfl
    | true =>
        have unrefused := (tidy.kept receiving).2
        rw [refused] at unrefused
        cases unrefused
  refine ⟨deaf, out, refused, ?_⟩
  have given := course.given
  simp only [Traffic.given, tidy.deaf deaf, refused, List.append_nil, Option.toList_some] at given
  exact given

/-- No message that is still to be accepted will be heard. -/
def Settled (start : Talk E) (t : Traffic E) : Prop :=
  t.worker.inbound.senders = 0 ∨ (start.hearAll t.sent).isOver = true

/-- The rank has not risen, and the next step of the worker or its host is still there. -/
structure Waits (t t' : Traffic E) : Prop where
  stage : t'.worker.stage = t.worker.stage
  outbound : t'.worker.outbound = t.worker.outbound
  rank : t'.rank ≤ t.rank

theorem Waits.refl (t : Traffic E) : Waits t t := ⟨rfl, rfl, Nat.le_refl _⟩

theorem outlook_isOver (course : Course start t taken untaken) (going : t.worker.hasEnded = false)
    (past : (start.hearAll t.sent).isOver = true) :
    (t.outlook.hearAll t.worker.inbound.items).isOver = true := by
  rw [course.outlook, ← (course.going going).queued, ← Talk.hearAll_append, ← course.sent]
  exact past

theorem Course.send_waits (course : Course start t taken untaken) (settled : Settled start t)
    (message : Inbound) : Waits t (t.next (.send message)) := by
  simp only [Traffic.next]
  split
  · exact .refl t
  · next open_ =>
      have past := settled.resolve_left open_
      unfold Worker.send
      cases pushed : t.worker.inbound.push message with
      | error refusal => exact .refl t
      | ok inbound =>
          obtain ⟨receiving, -, rfl⟩ := Queue.push_eq_ok_iff.mp pushed
          have going : t.worker.hasEnded = false := by
            cases stage : t.worker.stage with
            | stopped report =>
                have closed := (course.final report stage).closed
                rw [receiving] at closed
                cases closed
            | failed crash =>
                have sound := course.sound
                rw [stage] at sound
                cases sound
            | _ => rw [Worker.hasEnded, stage]
          refine ⟨rfl, rfl, ?_⟩
          have free := Talk.cost_of_isOver (outlook_isOver course going past) [message]
          show t.worker.stage.rank t.shared +
            t.outlook.cost (t.worker.inbound.items ++ [message]) + _ ≤ t.rank
          rw [Talk.cost_append, free]
          exact Nat.le_refl _

theorem Course.receive_falls (course : Course start t taken untaken)
    (tidy : Tidy capacity passivation t) (some_left : t.worker.outbound.items ≠ []) :
    (t.next .receive).rank < t.rank := by
  cases items : t.worker.outbound.items with
  | nil => exact (some_left items).elim
  | cons message rest =>
      have receiving : t.worker.outbound.receiving = true := by
        cases receiving : t.worker.outbound.receiving with
        | true => rfl
        | false => exact (some_left (tidy.deaf receiving)).elim
      have unlost := (tidy.kept receiving).1
      have moved : t.next .receive =
          { t with
            worker := { t.worker with outbound := { t.worker.outbound with items := rest } }
            received := t.received ++ [message] } := by
        simp only [Traffic.next, Worker.receive, Queue.pop, items]
      have next := course.outbound { t.worker.outbound with items := rest }
        (t.received ++ [message]) t.lost (by simp [items, unlost])
      have outlook := next.outlook.trans course.outlook.symm
      rw [moved]
      unfold rank
      rw [outlook, items, List.length_cons]
      exact Nat.lt_succ_self _

theorem Course.next_waits (empty : E.emptyState = .ok blank) (finishing : E.Finishing)
    (course : Course start t taken untaken) (tidy : Tidy capacity passivation t)
    (settled : Settled start t) {move : Move} (kept : move ≠ .dropReceiver) :
    (t.next move).rank < t.rank ∨ Waits t (t.next move) := by
  cases move with
  | send message => exact .inr (course.send_waits settled message)
  | receive =>
      by_cases items : t.worker.outbound.items = []
      · right
        simp only [Traffic.next, Worker.receive, Queue.pop, items]
        by_cases closed : t.worker.outbound.senders = 0
        · simpa only [closed, if_true] using .refl t
        · simpa only [closed, if_false] using .refl t
      · exact .inl (course.receive_falls tidy items)
  | addSender =>
      right
      simp only [Traffic.next]
      split
      · exact .refl t
      · exact ⟨rfl, rfl, Nat.le_refl _⟩
  | dropSender => exact .inr ⟨rfl, rfl, Nat.le_refl _⟩
  | dropReceiver => exact (kept rfl).elim
  | work now =>
      cases stepped : t.worker.step? now t.shared with
      | none =>
          right
          simp only [Traffic.next, stepped]
          exact .refl t
      | some stride =>
          obtain ⟨-, -, -, falls⟩ := course.work empty finishing stepped
          exact .inl falls

theorem Settled.next (settled : Settled start t) (move : Move) : Settled start (t.next move) := by
  cases move with
  | send message =>
      simp only [Traffic.next]
      split
      · exact settled
      · next open_ =>
          have past := settled.resolve_left open_
          cases t.worker.send message with
          | error refusal => exact settled
          | ok worker =>
              right
              rw [Talk.hearAll_append, Talk.hearAll_of_isOver past]
              exact past
  | receive =>
      simp only [Traffic.next, Worker.receive]
      cases t.worker.outbound.pop <;> exact settled
  | addSender =>
      simp only [Traffic.next]
      split
      · exact settled
      · next open_ => exact .inr (settled.resolve_left open_)
  | dropSender =>
      refine settled.imp ?_ id
      intro closed
      simp only [Traffic.next, Queue.dropSender, closed]
  | dropReceiver => exact settled
  | work now =>
      simp only [Traffic.next]
      cases stepped : t.worker.step? now t.shared with
      | none => exact settled
      | some stride =>
          refine settled.imp ?_ id
          intro closed
          exact (Worker.strides_of_step? stepped).senders.trans closed

/-- The moment from which a worker in this stage can go on. -/
def Stage.deadline : Stage E → Instant
  | .sleeping wake _ => wake
  | _ => 0

theorem Course.work_falls (empty : E.emptyState = .ok blank) (finishing : E.Finishing)
    (course : Course start t taken untaken) (tidy : Tidy capacity passivation t)
    (room : 0 < capacity) (settled : Settled start t) (going : t.worker.hasEnded = false)
    (emptied : t.worker.outbound.items = []) {now : Instant}
    (late : Stage.deadline t.worker.stage ≤ now) : (t.next (.work now)).rank < t.rank := by
  have steps : ∃ stride, t.worker.step? now t.shared = some stride := by
    have sound := course.sound
    cases stage : t.worker.stage with
    | starting => exact ⟨_, by rw [Worker.step?, stage]⟩
    | waiting since =>
        simp only [Worker.step?, stage, Worker.take?, Queue.pop]
        cases items : t.worker.inbound.items with
        | cons message rest => exact ⟨_, rfl⟩
        | nil =>
            have closed : t.worker.inbound.senders = 0 := by
              refine settled.resolve_right fun past => ?_
              have heard := outlook_isOver course going past
              rw [items, Talk.hearAll_nil, Traffic.outlook, stage] at heard
              cases heard
            simp only [closed, if_true]
            exact ⟨_, rfl⟩
    | running call => exact ⟨_, by rw [Worker.step?, stage]⟩
    | sleeping wake call =>
        rw [stage] at late
        have late : wake ≤ now := late
        exact ⟨_, by simp only [Worker.step?, stage, late, if_true]; rfl⟩
    | hanging ticket =>
        rw [stage] at sound
        cases sound
    | ended ticket ending => exact ⟨_, by rw [Worker.step?, stage]⟩
    | delivering message =>
        have roomy : t.worker.outbound.hasRoom = true := by
          simp [Queue.hasRoom, emptied, tidy.capacity, room]
        simp only [Worker.step?, stage, Worker.deliver?, Queue.push, roomy]
        cases t.worker.outbound.receiving with
        | false => exact ⟨_, rfl⟩
        | true => exact ⟨_, rfl⟩
    | stopped report =>
        rw [Worker.hasEnded, stage] at going
        cases going
    | failed crash =>
        rw [Worker.hasEnded, stage] at going
        cases going
  obtain ⟨stride, stepped⟩ := steps
  obtain ⟨-, -, -, falls⟩ := course.work empty finishing stepped
  exact falls

end Traffic

/-- Which move is made at which turn. -/
abbrev Schedule := Nat → Move

namespace Schedule

def upTo (schedule : Schedule) (n : Nat) : List Move := (List.range n).map schedule

/-- The worker is let on at ever later times, and the host receives again and again. -/
structure Fair (schedule : Schedule) : Prop where
  works : ∀ n (deadline : Instant), ∃ i ≥ n, ∃ now ≥ deadline, schedule i = .work now
  receives : ∀ n, ∃ i ≥ n, schedule i = .receive

/-- Some moves, and then turns of the worker and the host. -/
def after (moves : List Move) : Schedule :=
  fun n => moves[n]?.getD (if n % 2 = 0 then .work n else .receive)

theorem after_of_le {moves : List Move} {n : Nat} (late : moves.length ≤ n) :
    after moves n = if n % 2 = 0 then .work n else .receive := by
  rw [after, List.getElem?_eq_none late, Option.getD_none]

theorem fair_after (moves : List Move) : Fair (after moves) := by
  constructor
  · intro n deadline
    have late : moves.length ≤ 2 * (n + deadline + moves.length) := by omega
    refine ⟨2 * (n + deadline + moves.length), by omega, 2 * (n + deadline + moves.length), ?_, ?_⟩
    · show deadline ≤ 2 * (n + deadline + moves.length)
      exact Nat.le_trans (by omega) (Nat.le_mul_of_pos_left _ (by decide))
    · rw [after_of_le late, if_pos (Nat.mul_mod_right 2 _)]
  · intro n
    refine ⟨2 * (n + moves.length) + 1, by omega, ?_⟩
    rw [after_of_le (by omega), if_neg (by omega)]

theorem after_ne_dropReceiver {moves : List Move} (kept : .dropReceiver ∉ moves) (n : Nat) :
    after moves n ≠ .dropReceiver := by
  intro dropped
  unfold after at dropped
  cases found : moves[n]? with
  | none =>
      rw [found, Option.getD_none] at dropped
      split at dropped <;> cases dropped
  | some move =>
      rw [found, Option.getD_some] at dropped
      exact kept (dropped ▸ List.mem_of_getElem? found)

end Schedule

namespace Traffic

variable {E : Entity} {blank : E.State} {start : Talk E} {t : Traffic E}
  {taken untaken : List Inbound} {capacity : Nat} {passivation : Option Duration}

theorem run_upTo_succ (t : Traffic E) (schedule : Schedule) (n : Nat) :
    t.run (schedule.upTo (n + 1)) = (t.run (schedule.upTo n)).next (schedule n) := by
  simp only [run, Schedule.upTo, List.range_succ, List.map_append, List.foldl_append,
    List.map_cons, List.map_nil, List.foldl_cons, List.foldl_nil]

/-- All that a run keeps from some turn on. -/
structure Steady (start : Talk E) (capacity : Nat) (passivation : Option Duration)
    (t : Traffic E) : Prop where
  tidy : Tidy capacity passivation t
  course : ∃ taken untaken, Course start t taken untaken
  settled : Settled start t

theorem Steady.next (empty : E.emptyState = .ok blank) (finishing : E.Finishing)
    (steady : Steady start capacity passivation t) (move : Move) :
    Steady start capacity passivation (t.next move) := by
  obtain ⟨_, _, course⟩ := steady.course
  exact ⟨steady.tidy.next move, course.next empty finishing steady.tidy move,
    steady.settled.next move⟩

/-- The worker has ended and its host has received everything. -/
def Drained (t : Traffic E) : Prop :=
  t.worker.hasEnded = true ∧ t.worker.outbound.items = []

/-- While the rank stays, nothing happens that the worker or its host waits for. -/
theorem waits_upTo (empty : E.emptyState = .ok blank) (finishing : E.Finishing)
    {schedule : Schedule} (kept : ∀ n, schedule n ≠ .dropReceiver) {n : Nat}
    (steady : ∀ m ≥ n, Steady start capacity passivation (t.run (schedule.upTo m)))
    (constant : ∀ m ≥ n, (t.run (schedule.upTo n)).rank ≤ (t.run (schedule.upTo m)).rank)
    (m : Nat) (later : m ≥ n) :
    Waits (t.run (schedule.upTo n)) (t.run (schedule.upTo m)) := by
  induction later with
  | refl => exact .refl _
  | @step m later ih =>
      have later : n ≤ m := later
      obtain ⟨_, _, course⟩ := (steady m later).course
      have next := course.next_waits empty finishing (steady m later).tidy
        (steady m later).settled (kept m)
      rw [← run_upTo_succ] at next
      obtain falls | waits := next
      · have more := constant (m + 1) (Nat.le_succ_of_le later)
        have less := ih.rank
        omega
      · exact ⟨waits.stage.trans ih.stage, waits.outbound.trans ih.outbound,
          Nat.le_trans waits.rank ih.rank⟩

/-- As long as the worker and its host are not done, the rank falls again. -/
theorem rank_falls (empty : E.emptyState = .ok blank) (finishing : E.Finishing)
    (room : 0 < capacity) {schedule : Schedule} (fair : schedule.Fair)
    (kept : ∀ n, schedule n ≠ .dropReceiver) {n : Nat}
    (steady : ∀ m ≥ n, Steady start capacity passivation (t.run (schedule.upTo m)))
    (undone : ¬ Drained (t.run (schedule.upTo n))) :
    ∃ m ≥ n, (t.run (schedule.upTo m)).rank < (t.run (schedule.upTo n)).rank := by
  by_contra never
  have constant (m : Nat) (later : m ≥ n) :
      (t.run (schedule.upTo n)).rank ≤ (t.run (schedule.upTo m)).rank := by
    by_contra less
    exact never ⟨m, later, Nat.lt_of_not_le less⟩
  have waits (m : Nat) (later : m ≥ n) :=
    waits_upTo empty finishing kept steady constant m later
  by_cases items : (t.run (schedule.upTo n)).worker.outbound.items = []
  · have going : (t.run (schedule.upTo n)).worker.hasEnded = false := by
      cases ended : (t.run (schedule.upTo n)).worker.hasEnded with
      | true => exact (undone ⟨ended, items⟩).elim
      | false => rfl
    obtain ⟨i, later, now, late, move⟩ :=
      fair.works n (Stage.deadline (t.run (schedule.upTo n)).worker.stage)
    have waiting := waits i later
    rw [← waiting.stage] at late
    rw [Worker.hasEnded, ← waiting.stage] at going
    rw [← waiting.outbound] at items
    obtain ⟨_, _, course⟩ := (steady i later).course
    have falls := course.work_falls empty finishing (steady i later).tidy room
      (steady i later).settled going items late
    rw [← move, ← run_upTo_succ] at falls
    have more := constant (i + 1) (by omega)
    have less := waiting.rank
    omega
  · obtain ⟨i, later, move⟩ := fair.receives n
    have waiting := waits i later
    obtain ⟨_, _, course⟩ := (steady i later).course
    rw [← waiting.outbound] at items
    have falls := course.receive_falls (steady i later).tidy items
    rw [← move, ← run_upTo_succ] at falls
    have more := constant (i + 1) (by omega)
    have less := waiting.rank
    omega

theorem eventually_drained (empty : E.emptyState = .ok blank) (finishing : E.Finishing)
    (room : 0 < capacity) {schedule : Schedule} (fair : schedule.Fair)
    (kept : ∀ n, schedule n ≠ .dropReceiver) {n : Nat}
    (steady : ∀ m ≥ n, Steady start capacity passivation (t.run (schedule.upTo m))) :
    ∃ m ≥ n, Drained (t.run (schedule.upTo m)) := by
  induction rank : (t.run (schedule.upTo n)).rank using Nat.strongRecOn generalizing n with
  | ind rank' ih =>
      by_cases done : Drained (t.run (schedule.upTo n))
      · exact ⟨n, Nat.le_refl n, done⟩
      · obtain ⟨m, later, falls⟩ := rank_falls empty finishing room fair kept steady done
        have steady' (k : Nat) (latest : k ≥ m) := steady k (Nat.le_trans later latest)
        obtain ⟨k, latest, drained⟩ := ih _ (rank ▸ falls) steady' rfl
        exact ⟨k, Nat.le_trans later latest, drained⟩

theorem Drained.next (drained : Drained t) (move : Move) : Drained (t.next move) := by
  obtain ⟨ended, items⟩ := drained
  cases move with
  | send message =>
      simp only [Traffic.next, Worker.send]
      split
      · exact ⟨ended, items⟩
      · cases t.worker.inbound.push message <;> exact ⟨ended, items⟩
  | receive =>
      simp only [Traffic.next, Worker.receive, Queue.pop, items]
      by_cases closed : t.worker.outbound.senders = 0
      · simpa only [closed, if_true] using ⟨ended, items⟩
      · simpa only [closed, if_false] using ⟨ended, items⟩
  | addSender =>
      simp only [Traffic.next]
      split <;> exact ⟨ended, items⟩
  | dropSender => exact ⟨ended, items⟩
  | dropReceiver => exact ⟨ended, rfl⟩
  | work now =>
      simp only [Traffic.next]
      cases stepped : t.worker.step? now t.shared with
      | none => exact ⟨ended, items⟩
      | some stride =>
          rw [Worker.hasEnded_of_step? stepped] at ended
          cases ended

theorem receiving_next {move : Move} (kept : move ≠ .dropReceiver) :
    (t.next move).worker.outbound.receiving = t.worker.outbound.receiving := by
  cases move with
  | send message =>
      simp only [Traffic.next, Worker.send]
      split
      · rfl
      · cases t.worker.inbound.push message <;> rfl
  | receive =>
      simp only [Traffic.next, Worker.receive]
      cases popped : t.worker.outbound.pop with
      | item message rest =>
          obtain ⟨-, same⟩ := Queue.pop_eq_item_iff.mp popped
          rw [same]
      | nothingYet => rfl
      | finished => rfl
  | addSender =>
      simp only [Traffic.next]
      split <;> rfl
  | dropSender => rfl
  | dropReceiver => exact (kept rfl).elim
  | work now =>
      simp only [Traffic.next]
      cases stepped : t.worker.step? now t.shared with
      | none => rfl
      | some stride => exact (Worker.strides_of_step? stepped).keeps.receiving

theorem receiving_run (t : Traffic E) {moves : List Move} (kept : .dropReceiver ∉ moves) :
    (t.run moves).worker.outbound.receiving = t.worker.outbound.receiving := by
  induction moves generalizing t with
  | nil => rfl
  | cons move rest ih =>
      have first : move ≠ .dropReceiver := fun same => kept (same ▸ List.mem_cons_self)
      have others : Move.dropReceiver ∉ rest := fun member => kept (List.mem_cons_of_mem _ member)
      exact (ih (t.next move) others).trans (receiving_next first)

theorem steady_upTo (empty : E.emptyState = .ok blank) (finishing : E.Finishing)
    {schedule : Schedule} {n : Nat}
    (steady : Steady start capacity passivation (t.run (schedule.upTo n))) (m : Nat)
    (later : m ≥ n) : Steady start capacity passivation (t.run (schedule.upTo m)) := by
  induction later with
  | refl => exact steady
  | @step m later ih =>
      have next := ih.next empty finishing (schedule m)
      rw [← run_upTo_succ] at next
      exact next

theorem drained_upTo {schedule : Schedule} {n : Nat} (drained : Drained (t.run (schedule.upTo n)))
    (m : Nat) (later : m ≥ n) : Drained (t.run (schedule.upTo m)) := by
  induction later with
  | refl => exact drained
  | @step m later ih =>
      have next := ih.next (schedule m)
      rw [← run_upTo_succ] at next
      exact next

theorem receive_of_drained (tidy : Tidy capacity passivation t) (drained : Drained t) :
    t.worker.receive = .closed := by
  have senders := tidy.senders
  rw [drained.1] at senders
  simp only [Worker.receive, Queue.pop, drained.2, senders, if_true]

/-- A worker is the fold of its session over the messages that its queue accepts. While the
host keeps its receiver, nothing else comes out at the other end, and everything does under
a fair schedule. A host that drops its receiver has got a beginning of it. -/
theorem run_refines_talk (empty : E.emptyState = .ok blank) (finishing : E.Finishing)
    (s : Session E) (shared : Shared E.Memory) (inbound : Nat) {outbound : Nat}
    (room : 0 < outbound) :
    let opened : Traffic E := fresh s shared inbound outbound none
    (∀ moves : List Move,
      let t := opened.run moves
      let talk := (s.talk shared).hearAll t.sent
      t.received <+: talk.answers ∧
      ∀ report, t.worker.stage = .stopped report →
        (.dropReceiver ∉ moves →
          t.received ++ t.worker.outbound.items = talk.answers ∧
          t.worker.session = talk.session ∧ report = talk.report ∧
          (report.exit = .inboundClosed → t.worker.inbound.senders = 0)) ∧
        (report.exit = .outboundClosed →
          .dropReceiver ∈ moves ∧ ∃ out, t.refused = some out ∧
            t.received ++ t.lost ++ [out] <+: talk.answers)) ∧
    ∀ schedule : Schedule, schedule.Fair → (∀ n, schedule n ≠ .dropReceiver) →
      (∃ n, Settled (s.talk shared) (opened.run (schedule.upTo n))) →
      ∃ n, ∀ m ≥ n,
        let t := opened.run (schedule.upTo m)
        let talk := (s.talk shared).hearAll t.sent
        t.worker.stage = .stopped talk.report ∧ t.received = talk.answers ∧
          t.worker.receive = .closed := by
  intro opened
  have tidy : Tidy outbound none opened := tidy_fresh s shared inbound outbound none
  have course := course_fresh s shared inbound outbound none
  have sound (moves : List Move) := course_run empty finishing tidy course moves
  constructor
  · intro moves t talk
    obtain ⟨tidy, _, _, course⟩ := sound moves
    refine ⟨course.received, fun report stopped => ⟨fun kept => ?_, fun exit => ?_⟩⟩
    · exact course.kept tidy stopped (receiving_run opened kept)
    · obtain ⟨deaf, undelivered⟩ := course.refused tidy stopped exit
      refine ⟨?_, undelivered⟩
      by_contra kept
      rw [receiving_run opened kept] at deaf
      cases deaf
  · intro schedule fair kept ⟨n, settled⟩
    have steady (m : Nat) (later : m ≥ n) := steady_upTo empty finishing
      ⟨(sound (schedule.upTo n)).1, (sound (schedule.upTo n)).2, settled⟩ m later
    obtain ⟨k, later, drained⟩ := eventually_drained empty finishing room fair kept steady
    refine ⟨k, fun m latest => ?_⟩
    intro t talk
    have drained : Drained t := drained_upTo drained m latest
    obtain ⟨tidy, _, _, course⟩ := sound (schedule.upTo m)
    have receiving : t.worker.outbound.receiving = true := by
      refine receiving_run opened fun member => ?_
      obtain ⟨i, -, move⟩ := List.mem_map.mp member
      exact kept i move
    cases stage : t.worker.stage with
    | stopped report =>
        obtain ⟨answers, -, report_eq, -⟩ := course.kept tidy stage receiving
        rw [drained.2, List.append_nil] at answers
        exact ⟨by rw [report_eq], answers, receive_of_drained tidy drained⟩
    | failed crash =>
        have sound := course.sound
        rw [stage] at sound
        cases sound
    | _ =>
        have ended := drained.1
        rw [Worker.hasEnded, stage] at ended
        cases ended

/-- A counter is opened, adds once and is closed, over queues with room for one message. -/
theorem run_refines_talk_visit :
    let opened : Traffic Samples.Counter.entity :=
      fresh (.fresh .default) Samples.Counter.host 1 1 none
    let init : Inbound := .init ⟨"a", none⟩
    let add : Inbound := .command (.plain 1 "a" "increaseBy" (Samples.Counter.payload 4))
    let opening : List Move := [.send init, .work 0, .work 0, .send add, .dropSender]
    let talk := ((Session.fresh .default : Session Samples.Counter.entity).talk
      Samples.Counter.host).hearAll [init, add]
    (opened.run opening).sent = [init, add] ∧ talk.answers.length = 1 ∧
      ∃ n, (opened.run ((Schedule.after opening).upTo n)).worker.receive = .closed := by
  intro opened init add opening talk
  have kept : Move.dropReceiver ∉ opening := by
    intro member
    simp [opening] at member
  have settled : Settled ((Session.fresh .default : Session Samples.Counter.entity).talk
      Samples.Counter.host) (opened.run ((Schedule.after opening).upTo 5)) := .inl (by rfl)
  obtain ⟨n, done⟩ := (run_refines_talk rfl Samples.Counter.finishing (.fresh .default)
    Samples.Counter.host 1 Nat.one_pos).2 (Schedule.after opening) (Schedule.fair_after opening)
    (Schedule.after_ne_dropReceiver kept) ⟨5, settled⟩
  exact ⟨by decide, by decide, n, (done n (Nat.le_refl n)).2.2⟩

end Traffic

end EntityEngine
