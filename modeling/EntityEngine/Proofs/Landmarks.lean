import EntityEngine.Proofs.Refusals
import EntityEngine.Proofs.Replacement

/-!
# The number of the last snapshot

Beside the number of its last event a life keeps the number of its last snapshot. It is set
when the life is seeded, and by a command whose reply carries a snapshot; the two numbers are
kept apart and never compared. The main statement is that the exchanges of a channel tell
the number of the last snapshot, that it is never ahead of the last event, and that it does
not fall while the entity lives. Numbers are words and wrap around, so this is said of runs
in which none of them does.
-/

namespace EntityEngine

def Ending.attached? (ending : Ending) : Option Snapshot := ending.reply?.bind Reply.snapshot

def Ending.marks (ending : Ending) : Bool := ending.deletes || ending.attached?.isSome

theorem Ending.marks_eq_false_iff {ending : Ending} :
    ending.marks = false ↔ ending.deletes = false ∧ ending.attached? = none := by
  simp [marks]

theorem Ending.unmarked {ending : Ending} (unreplied : ending.reply? = none) :
    ending.marks = false := by
  simp [marks, deletes, attached?, unreplied]

/-- The snapshot that an `Init` brings, unless it is to be ignored. -/
def Exchange.seed? (o : Options) (x : Exchange) : Option Snapshot :=
  match x.turn.message with
  | .init init => if o.ignoreInitSnapshot then none else init.snapshot
  | _ => none

/-- The number of the last snapshot, as the exchanges of a channel tell it. The latest mark
decides: a snapshot by its number, a deletion by starting again at zero. Before any mark it
is the number of the snapshot that the first message brought, or zero. -/
def lastMark (o : Options) (exchanges : List Exchange) : SequenceNumber :=
  match exchanges.reverse.find? fun x => x.ending.marks with
  | some x => if x.ending.deletes then 0 else x.ending.attached?.elim 0 Snapshot.sequenceNumber
  | none => (exchanges.head?.bind (Exchange.seed? o)).elim 0 Snapshot.sequenceNumber

section

variable {o : Options} {exchanges : List Exchange} {x : Exchange}

theorem lastMark_singleton (unmarked : x.ending.marks = false) :
    lastMark o [x] = (x.seed? o).elim 0 Snapshot.sequenceNumber := by
  simp [lastMark, unmarked]

theorem lastMark_concat_of_unmarked (nonempty : exchanges ≠ [])
    (unmarked : x.ending.marks = false) :
    lastMark o (exchanges ++ [x]) = lastMark o exchanges := by
  obtain ⟨first, rest, rfl⟩ := List.exists_cons_of_ne_nil nonempty
  simp [lastMark, unmarked]

theorem lastMark_concat_of_attached {snapshot : Snapshot} (keeps : x.ending.deletes = false)
    (attached : x.ending.attached? = some snapshot) :
    lastMark o (exchanges ++ [x]) = snapshot.sequenceNumber := by
  simp [lastMark, Ending.marks, keeps, attached]

theorem lastMark_concat_of_deletes (deletes : x.ending.deletes = true) :
    lastMark o (exchanges ++ [x]) = 0 := by
  simp [lastMark, Ending.marks, deletes]

end

/-- An event of the history, a snapshot request, or a message that did not succeed. -/
inductive Exchange.Passive (x : Exchange) : Prop
  | event {record : EventRecord} (message : x.turn.message = .event record) : Passive x
  | snapshotRequest {request : SnapshotRequest}
      (message : x.turn.message = .snapshotRequest request) : Passive x
  | failed {failure : Failure} (ended : x.ending = .answered (.failure failure)) : Passive x
  | rejected {r : Reply} (ended : x.ending = .answered (.reply r))
      (error : r.clientAction.isError = true) : Passive x
  | crashed {crash : Crash} (ended : x.ending = .crashed crash) : Passive x
  | givenUp (ended : x.ending = .cancelled) : Passive x

theorem Effect.Interpreted.dated {S Event : Type} {m : Mechanics S Event}
    {effect : Effect S Event} {state : S} {i : Interpretation} {result : CommandResult S}
    (h : Interpreted m effect state i result) {snapshot : Snapshot}
    (taken : result.snapshot = some snapshot) :
    snapshot.sequenceNumber = i.sequenceNumber + UInt64.ofNat result.events.length := by
  cases h with
  | rejected => cases taken
  | carried _ _ _ _ _ found =>
      subst taken
      exact (encodeState_of_snapshot? found state).1

namespace Session

variable {E : Entity} {blank : E.State} {s : Session E} {o : Options}

/-- What a message leaves of the life of a session that has begun. -/
inductive LeavesLife (blank : E.State) (s : Session E) (message : Inbound) :
    Ending → Option (Incarnation E.State) → Prop
  | still {ending : Ending} (unmarked : ending.marks = false) :
      LeavesLife blank s message ending s.incarnation
  | woken {ending : Ending} (unmarked : ending.marks = false) :
      LeavesLife blank s message ending (some (s.life blank))
  | counted {ending : Ending} {record : EventRecord} {life : Incarnation E.State}
      (replaying : s.phase = .replaying) (event : message = .event record)
      (next : record.sequenceNumber = (s.life blank).position.current + 1)
      (position : life.position =
        { (s.life blank).position with current := record.sequenceNumber })
      (unmarked : ending.marks = false) : LeavesLife blank s message ending (some life)
  | grown {command : Command} {result : CommandResult E.State} (asked : message = .command command)
      (keeps : result.deletes = false)
      (dated : ∀ snapshot, result.snapshot = some snapshot → snapshot.sequenceNumber =
        (s.life blank).position.current + UInt64.ofNat result.events.length) :
      LeavesLife blank s message (.answered (.reply (result.toReply command.commandId)))
        (some ((s.life blank).after result))
  | ended {r : Reply} (deletes : r.deleteAfter = true) :
      LeavesLife blank s message (.answered (.reply r)) none

theorem incarnation_endIfFatal (s : Session E) (severity : Severity) :
    (s.endIfFatal severity).incarnation = s.incarnation := by
  unfold endIfFatal
  split <;> rfl

theorem leavesLife_violate (s : Session E) {t : Session E} (same : t.incarnation = s.incarnation)
    (shared : Shared E.Memory) (violation : Violation) (commandId : Option UInt64)
    (message : Inbound) (patience : Nat) :
    LeavesLife blank s message
      (carry (t.violate shared violation commandId) patience).response.ending
      (carry (t.violate shared violation commandId) patience).session.incarnation := by
  have kept : (carry (t.violate shared violation commandId) patience).session.incarnation =
      s.incarnation := (incarnation_endIfFatal t .protocol).trans same
  rw [kept]
  exact .still (Ending.unmarked rfl)

theorem leavesLife_event (replaying : s.phase = .replaying) {life : Incarnation E.State}
    (living : s.incarnation = some life) {record : EventRecord} {ending : Ending}
    {after : Session E} (empty : E.emptyState = .ok blank) (h : Takes s life record ending after) :
    LeavesLife blank s (.event record) ending after.incarnation := by
  have here : s.life blank = life := by rw [Session.life, living, Option.getD_some]
  cases h with
  | applied _ replays =>
      obtain ⟨next, -, -⟩ := replays
      exact .counted replaying rfl (here ▸ next) (by rw [here]) (Ending.unmarked rfl)
  | misnumbered =>
      change LeavesLife blank s _ _ (some life)
      rw [← here]
      exact .woken (Ending.unmarked rfl)
  | undecodable next =>
      exact .counted replaying rfl (here ▸ next) (by rw [here]; rfl) (Ending.unmarked rfl)
  | unprepared _ _ unwinds =>
      rw [empty] at unwinds
      cases unwinds
  | panicked next =>
      exact .counted replaying rfl (here ▸ next) (by rw [here]; rfl) (Ending.unmarked rfl)

theorem leavesLife_decided (s : Session E) (shared : Shared E.Memory) (command : Command)
    (patience : Nat) (id : Uuid) :
    let v := s.verdict blank shared command patience
    LeavesLife blank s (.command command) (v.ending command.commandId id)
      ((s.awake blank).settle v).incarnation := by
  intro v
  cases verdict : v with
  | crashed crash => exact .woken (Ending.unmarked rfl)
  | givenUp => exact .woken (Ending.unmarked rfl)
  | refused e =>
      refine .woken (Ending.marks_eq_false_iff.mpr ?_)
      rw [Verdict.ending, Ending.deletes, Ending.attached?, Ending.reply?]
      cases replied : (e.answer command.commandId id).reply? with
      | none => exact ⟨rfl, rfl⟩
      | some r =>
          obtain ⟨-, bare, idle⟩ := reply?_answer e command.commandId id replied
          simpa [bare, Reply.Changes] using fun deletes => idle (.inr deletes)
  | granted result =>
      obtain ⟨effect, -, interpreted⟩ := interpreted_of_judge verdict
      simp only [settle, commit]
      split
      · next deletes => exact .ended deletes
      · next keeps => exact .grown rfl (by simpa using keeps) fun snapshot => interpreted.dated

theorem leavesLife_serve (empty : E.emptyState = .ok blank) (begun : s.phase ≠ .awaitingInit)
    {messages : List Inbound} (recovers : s.Recovers messages) (shared : Shared E.Memory)
    (turn : Turn) :
    LeavesLife blank s turn.message (s.serve shared turn).response.ending
      (s.serve shared turn).session.incarnation := by
  by_cases closed : s.phase = .terminated
  · obtain ⟨same, ended⟩ := serve_terminated closed shared turn
    rw [same, ended]
    exact .still (Ending.unmarked (reply?_closing _))
  by_cases allowed : s.Allows turn.message
  · obtain ⟨message, patience⟩ := turn
    cases message with
    | init init => exact (begun allowed).elim
    | event record =>
        obtain ⟨life, living, -⟩ := recovers allowed
        rw [serve_replaying allowed]
        exact leavesLife_event allowed living empty
          (takes_receiveEvent allowed living shared record)
    | command command =>
        by_cases own : s.identity = some command.entityId
        · obtain ⟨id, after, ended⟩ := serve_command empty allowed own shared patience
          rw [after, ended]
          exact leavesLife_decided s shared command patience id
        · rw [serve, begin_foreign allowed own]
          exact leavesLife_violate s rfl _ _ _ _ _
    | snapshotRequest request =>
        obtain ⟨id, after, ended⟩ := serve_snapshotRequest empty allowed request shared patience
        rw [after, ended]
        exact .woken (Ending.unmarked (reply?_portrait _ _ _))
  · obtain ⟨violation, begun⟩ := begin_misplaced closed shared allowed
    rw [serve, begun]
    exact leavesLife_violate s rfl _ _ _ _ _

/-- By how many events a message can move the number of the session on. -/
def increment (s : Session E) (message : Inbound) (ending : Ending) : Nat :=
  match s.phase, message with
  | .replaying, .event _ => 1
  | _, _ => (ending.reply?.map fun r => r.emittedEvents.length).getD 0

/-- While these messages are served no number wraps around. -/
def InRange (s : Session E) (shared : Shared E.Memory) : List Turn → Prop
  | [] => True
  | turn :: rest =>
    let step := s.serve shared turn
    (s.sequenceNumber?.getD 0).toNat + s.increment turn.message step.response.ending < 2 ^ 64 ∧
      step.session.InRange step.shared rest

theorem inRange_append (s : Session E) (shared : Shared E.Memory) (before after : List Turn) :
    s.InRange shared (before ++ after) ↔ s.InRange shared before ∧
      (s.converse shared before).session.InRange (s.converse shared before).shared after := by
  induction before generalizing s shared with
  | nil => simp [InRange, converse]
  | cons turn rest ih => simp only [List.cons_append, InRange, converse, ih, and_assoc]

theorem le_add_ofNat {last : SequenceNumber} {n : Nat} (bounded : last.toNat + n < 2 ^ 64) :
    last ≤ last + UInt64.ofNat n := by
  rw [UInt64.le_iff_toNat_le, toNat_add_ofNat bounded]
  exact Nat.le_add_right _ n

theorem lastSnapshot_after (life : Incarnation E.State) (result : CommandResult E.State) :
    (life.after result).position.lastSnapshot =
      result.snapshot.elim life.position.lastSnapshot Snapshot.sequenceNumber := by
  unfold Incarnation.after
  cases result.snapshot <;> rfl

section

variable {message : Inbound} {ending : Ending} {after : Option (Incarnation E.State)}

theorem le_after_of_bounded (blank : E.State) {command : Command}
    {result : CommandResult E.State}
    (bounded : (s.sequenceNumber?.getD 0).toNat + s.increment (.command command)
      (.answered (.reply (result.toReply command.commandId))) < 2 ^ 64) :
    (s.life blank).position.current ≤
      (s.life blank).position.current + UInt64.ofNat result.events.length := by
  rw [sequenceNumber_getD s blank] at bounded
  refine le_add_ofNat ?_
  simpa [increment, Ending.reply?, Outbound.reply?, CommandResult.toReply] using bounded

/-- The number of the last event is never passed by that of the last snapshot. -/
theorem LeavesLife.ordered (h : LeavesLife blank s message ending after)
    (ordered : (s.life blank).position.lastSnapshot ≤ (s.life blank).position.current)
    (bounded : (s.sequenceNumber?.getD 0).toNat + s.increment message ending < 2 ^ 64) :
    (after.getD (.fresh blank)).position.lastSnapshot ≤
      (after.getD (.fresh blank)).position.current := by
  cases h with
  | still => exact ordered
  | woken => exact ordered
  | counted replaying event next position =>
      subst event
      rw [sequenceNumber_getD s blank] at bounded
      simp only [increment, replaying] at bounded
      rw [Option.getD_some, position, next]
      exact UInt64.le_trans ordered (le_add_ofNat bounded)
  | @grown command result asked keeps dated =>
      subst asked
      have further := le_after_of_bounded blank bounded
      rw [Option.getD_some, Incarnation.current_after, lastSnapshot_after]
      cases taken : result.snapshot with
      | none => exact UInt64.le_trans ordered further
      | some snapshot => exact UInt64.le_of_eq (dated snapshot taken)
  | ended => exact UInt64.le_refl _

/-- Unless it is deleted, a life goes on. Its last snapshot does not fall, and without a mark
it stays. -/
theorem LeavesLife.rises (h : LeavesLife blank s message ending after) {life : Incarnation E.State}
    (living : s.incarnation = some life)
    (ordered : (s.life blank).position.lastSnapshot ≤ (s.life blank).position.current)
    (bounded : (s.sequenceNumber?.getD 0).toNat + s.increment message ending < 2 ^ 64)
    (keeps : ending.deletes = false) :
    ∃ next, after = some next ∧ life.position.lastSnapshot ≤ next.position.lastSnapshot ∧
      (ending.marks = false → next.position.lastSnapshot = life.position.lastSnapshot) := by
  have here : s.life blank = life := by rw [Session.life, living, Option.getD_some]
  cases h with
  | still => exact ⟨life, living, UInt64.le_refl _, fun _ => rfl⟩
  | woken => exact ⟨_, rfl, by rw [here]; exact UInt64.le_refl _, fun _ => by rw [here]⟩
  | counted _ _ _ position =>
      rw [here] at position
      exact ⟨_, rfl, by rw [position]; exact UInt64.le_refl _, fun _ => by rw [position]⟩
  | @grown command result asked _ dated =>
      subst asked
      have further := le_after_of_bounded blank bounded
      refine ⟨_, rfl, ?_, fun unmarked => ?_⟩
      · rw [← here, lastSnapshot_after]
        cases taken : result.snapshot with
        | none => exact UInt64.le_refl _
        | some snapshot =>
            rw [Option.elim_some, dated snapshot taken]
            exact UInt64.le_trans ordered further
      · have bare : result.snapshot = none := (Ending.marks_eq_false_iff.mp unmarked).2
        rw [lastSnapshot_after, bare, here, Option.elim_none]
  | @ended r deletes =>
      have deletes : (Ending.answered (.reply r)).deletes = true := deletes
      rw [deletes] at keeps
      cases keeps

theorem LeavesLife.marked (h : LeavesLife blank s message ending after) {exchanges : List Exchange}
    (nonempty : exchanges ≠ [])
    (marked : (s.life blank).position.lastSnapshot = lastMark o exchanges) (turn : Turn)
    (notices : List Notice) (calls : List TraceCall) :
    (after.getD (.fresh blank)).position.lastSnapshot =
      lastMark o (exchanges ++ [⟨turn, ending, notices, calls⟩]) := by
  have passed (unmarked : ending.marks = false) :
      lastMark o (exchanges ++ [⟨turn, ending, notices, calls⟩]) =
        (s.life blank).position.lastSnapshot :=
    (lastMark_concat_of_unmarked nonempty unmarked).trans marked.symm
  cases h with
  | still unmarked => exact (passed unmarked).symm
  | woken unmarked => exact (passed unmarked).symm
  | counted _ _ _ position unmarked => rw [passed unmarked, Option.getD_some, position]
  | @grown command result _ keeps _ =>
      rw [Option.getD_some, lastSnapshot_after]
      cases taken : result.snapshot with
      | none =>
          have bare : Ending.attached? (.answered (.reply (result.toReply command.commandId))) =
              none := taken
          exact (passed (Ending.marks_eq_false_iff.mpr ⟨keeps, bare⟩)).symm
      | some snapshot =>
          refine Eq.symm (lastMark_concat_of_attached ?_ ?_)
          · exact keeps
          · exact taken
  | ended deletes =>
      refine Eq.symm (lastMark_concat_of_deletes ?_)
      exact deletes

end

/-- The number of the last snapshot is the one that the exchanges tell, and not ahead of the
last event. A session that was never begun has neither. -/
inductive TracksLastSnapshot (o : Options) (blank : E.State) : List Exchange → Session E → Prop
  | waiting {s : Session E} (waiting : s.phase = .awaitingInit) (options : s.options = o)
      (unborn : s.incarnation = none) : TracksLastSnapshot o blank [] s
  | refused {exchanges : List Exchange} {s : Session E} (closed : s.phase = .terminated)
      (unborn : s.incarnation = none) : TracksLastSnapshot o blank exchanges s
  | begun {exchanges : List Exchange} {s : Session E} (begun : s.phase ≠ .awaitingInit)
      (nonempty : exchanges ≠ [])
      (marked : (s.life blank).position.lastSnapshot = lastMark o exchanges)
      (ordered : (s.life blank).position.lastSnapshot ≤ (s.life blank).position.current) :
      TracksLastSnapshot o blank exchanges s

theorem begun_serve (empty : E.emptyState = .ok blank) (s : Session E)
    (shared : Shared E.Memory) (turn : Turn) :
    (s.serve shared turn).session.phase ≠ .awaitingInit := by
  have served := serve_served empty s shared turn
  generalize (s.serve shared turn).session = after at *
  generalize (s.serve shared turn).response.ending = ending at *
  cases served with
  | closed closed => simp [closed]
  | broken _ _ closed => simp [closed]
  | opened => simp [opened]
  | replayed replaying => simp [Session.replayed, replaying]
  | portrayed => simp
  | decided => simp [(settle_frame _ _).1]

theorem unborn_receiveInit (unborn : s.incarnation = none) (shared : Shared E.Memory) (init : Init)
    (closed : (s.receiveInit shared init).session.phase = .terminated) :
    (s.receiveInit shared init).session.incarnation = none := by
  unfold receiveInit at *
  split
  · exact (incarnation_endIfFatal s .protocol).trans unborn
  next admitted =>
    rw [admitted] at closed
    dsimp only at closed ⊢
    split
    · exact (incarnation_endIfFatal _ .unexpected).trans unborn
    · exact unborn
    next life seeded =>
      rw [seeded] at closed
      cases closed

/-- The first message seeds a life, or it ends the channel. -/
theorem first_serve (empty : E.emptyState = .ok blank) (waiting : s.phase = .awaitingInit)
    (unborn : s.incarnation = none) (shared : Shared E.Memory) (turn : Turn) :
    ((s.serve shared turn).session.phase = .terminated ∧
        (s.serve shared turn).session.incarnation = none) ∨
      ∃ init life, turn.message = .init init ∧ Seeded s.options blank init.snapshot life ∧
        (s.serve shared turn).session = s.opened init.entityId life ∧
        (s.serve shared turn).response.ending = .quiet := by
  have open_ : s.phase ≠ .terminated := by simp [waiting]
  obtain ⟨message, patience⟩ := turn
  by_cases fits : s.Fits blank message
  · cases fits with
    | @init init life _ admits seeded =>
        obtain ⟨after, ended⟩ := serve_init empty waiting admits seeded shared patience
        exact .inr ⟨init, life, rfl, seeded, after, ended⟩
    | event replaying => simp [waiting] at replaying
    | command live => simp [Live, waiting] at live
    | snapshotRequest live => simp [Live, waiting] at live
  · have closed : (s.serve shared ⟨message, patience⟩).session.phase = .terminated :=
      (serve_terminates_iff empty open_ shared _).mpr fits
    refine .inl ⟨closed, ?_⟩
    by_cases allowed : s.Allows message
    · cases message with
      | init init =>
          rw [serve, begin_init waiting, carry_of_plain (s.plain_receiveInit shared init)] at *
          exact unborn_receiveInit unborn shared init closed
      | event => simp [Allows, waiting] at allowed
      | command => simp [Allows, Live, waiting] at allowed
      | snapshotRequest => simp [Allows, Live, waiting] at allowed
    · obtain ⟨violation, begun⟩ := begin_misplaced open_ shared allowed
      rw [serve, begun]
      exact (incarnation_endIfFatal s .protocol).trans unborn

theorem position_of_seeded {init : Init} {life : Incarnation E.State}
    (seeded : Seeded o blank init.snapshot life) {x : Exchange}
    (message : x.turn.message = .init init) :
    life.position.lastSnapshot = (x.seed? o).elim 0 Snapshot.sequenceNumber ∧
      life.position.lastSnapshot = life.position.current := by
  simp only [Exchange.seed?, message]
  generalize init.snapshot = snapshot at seeded
  cases seeded with
  | none => exact ⟨by split <;> rfl, rfl⟩
  | ignored ignoring => exact ⟨by rw [if_pos ignoring]; rfl, rfl⟩
  | decoded heeding => exact ⟨by rw [heeding]; rfl, rfl⟩

theorem tracksLastSnapshot_serve (empty : E.emptyState = .ok blank) {exchanges : List Exchange}
    (h : TracksLastSnapshot o blank exchanges s) {messages : List Inbound}
    (recovers : s.Recovers messages)
    (shared : Shared E.Memory) (turn : Turn)
    (bounded : (s.sequenceNumber?.getD 0).toNat +
      s.increment turn.message (s.serve shared turn).response.ending < 2 ^ 64) :
    let step := s.serve shared turn
    TracksLastSnapshot o blank
      (exchanges ++ [⟨turn, step.response.ending, step.notices, step.calls⟩])
      step.session := by
  intro step
  cases h with
  | waiting waiting options unborn =>
      obtain ⟨closed, unborn⟩ | ⟨init, life, message, seeded, after, ended⟩ :=
        first_serve empty waiting unborn shared turn
      · exact .refused closed unborn
      · rw [options] at seeded
        have unmarked : step.response.ending.marks = false := by
          rw [ended]
          exact Ending.unmarked rfl
        have here : step.session.life blank = life := by rw [after]; rfl
        let x : Exchange := ⟨turn, step.response.ending, step.notices, step.calls⟩
        have opens : x.turn.message = .init init := message
        obtain ⟨number, ordered⟩ := position_of_seeded seeded opens
        refine .begun (begun_serve empty s shared turn) (List.cons_ne_nil _ _) ?_ ?_
        · rw [List.nil_append, lastMark_singleton unmarked, here]
          exact number
        · rw [here]
          exact UInt64.le_of_eq ordered
  | refused closed unborn =>
      rw [(serve_terminated closed shared turn).1]
      exact .refused closed unborn
  | begun begun nonempty marked ordered =>
      have leavesLife := leavesLife_serve empty begun recovers shared turn
      exact .begun (begun_serve empty s shared turn) (by simp)
        (leavesLife.marked nonempty marked turn step.notices step.calls)
        (leavesLife.ordered ordered bounded)

theorem tracksLastSnapshot_converse (empty : E.emptyState = .ok blank) {exchanges : List Exchange}
    (h : TracksLastSnapshot o blank exchanges s) {messages : List Inbound}
    (recovers : s.Recovers messages)
    {shared : Shared E.Memory} {turns : List Turn} (inRange : s.InRange shared turns) :
    TracksLastSnapshot o blank (exchanges ++ (s.converse shared turns).exchanges)
      (s.converse shared turns).session := by
  induction turns generalizing s shared exchanges messages with
  | nil => simpa [converse] using h
  | cons turn rest ih =>
      obtain ⟨bounded, later⟩ := inRange
      have next := ih (tracksLastSnapshot_serve empty h recovers shared turn bounded)
        (recovers_serve recovers shared turn) later
      rwa [List.append_assoc, List.singleton_append] at next

theorem TracksLastSnapshot.of_living {exchanges : List Exchange}
    (h : TracksLastSnapshot o blank exchanges s)
    {life : Incarnation E.State} (living : s.incarnation = some life) :
    s.phase ≠ .awaitingInit ∧ life.position.lastSnapshot = lastMark o exchanges ∧
      life.position.lastSnapshot ≤ life.position.current := by
  cases h with
  | waiting _ _ unborn => rw [living] at unborn; cases unborn
  | refused _ unborn => rw [living] at unborn; cases unborn
  | begun begun _ marked ordered =>
      rw [Session.life, living] at marked ordered
      exact ⟨begun, marked, ordered⟩

/-- While nothing deletes it, the last snapshot of a life does not fall, and without marks it
stays. -/
theorem rises_converse (empty : E.emptyState = .ok blank) {exchanges : List Exchange}
    (h : TracksLastSnapshot o blank exchanges s) {messages : List Inbound}
    (recovers : s.Recovers messages)
    {shared : Shared E.Memory} {turns : List Turn} (inRange : s.InRange shared turns)
    {life : Incarnation E.State} (living : s.incarnation = some life)
    (keeps : ∀ x ∈ (s.converse shared turns).exchanges, x.ending.deletes = false) :
    ∃ last, (s.converse shared turns).session.incarnation = some last ∧
      life.position.lastSnapshot ≤ last.position.lastSnapshot ∧
      ((∀ x ∈ (s.converse shared turns).exchanges, x.ending.marks = false) →
        last.position.lastSnapshot = life.position.lastSnapshot) := by
  induction turns generalizing s shared exchanges messages life with
  | nil => exact ⟨life, living, UInt64.le_refl _, fun _ => rfl⟩
  | cons turn rest ih =>
      obtain ⟨bounded, later⟩ := inRange
      obtain ⟨kept, others⟩ := List.forall_mem_cons.mp keeps
      obtain ⟨begun, -, ordered⟩ := h.of_living living
      have here : s.life blank = life := by rw [Session.life, living, Option.getD_some]
      obtain ⟨next, lives, risen, same⟩ := (leavesLife_serve empty begun recovers shared turn).rises
        living (here.symm ▸ ordered) bounded kept
      obtain ⟨last, lasts, higher, equal⟩ := ih
        (tracksLastSnapshot_serve empty h recovers shared turn bounded)
        (recovers_serve recovers shared turn) later lives others
      refine ⟨last, lasts, UInt64.le_trans risen higher, fun unmarked => ?_⟩
      obtain ⟨first, rest⟩ := List.forall_mem_cons.mp unmarked
      exact (equal rest).trans (same first)

/-- Only a command is answered by a reply, and a rejection has neither a snapshot nor a
deletion. -/
theorem serve_reply (empty : E.emptyState = .ok blank) (s : Session E) (shared : Shared E.Memory)
    (turn : Turn) {r : Reply} (replied : (s.serve shared turn).response.ending.reply? = some r) :
    (∃ command, turn.message = .command command) ∧
      (r.clientAction.isError = true → r.deleteAfter = false ∧ r.snapshot = none) := by
  have served := serve_served empty s shared turn
  generalize (s.serve shared turn).session = after at *
  generalize (s.serve shared turn).response.ending = ending at *
  cases served with
  | closed => rw [reply?_closing] at replied; cases replied
  | broken => cases replied
  | opened => cases replied
  | replayed => cases replied
  | portrayed => rw [Ending.reply?, reply?_portrait] at replied; cases replied
  | @decided command patience id _ _ =>
      refine ⟨⟨command, rfl⟩, fun error => ?_⟩
      cases verdict : s.verdict blank shared command patience with
      | crashed crash => rw [verdict] at replied; cases replied
      | givenUp => rw [verdict] at replied; cases replied
      | refused e =>
          rw [verdict] at replied
          obtain ⟨-, bare, idle⟩ := reply?_answer e command.commandId id replied
          exact ⟨by simpa using fun deletes => idle (.inr deletes), bare⟩
      | granted result =>
          rw [verdict] at replied
          cases replied
          obtain ⟨effect, -, interpreted⟩ := interpreted_of_judge verdict
          obtain ⟨-, -, bare, keeps⟩ := interpreted.unchanged (.inl error)
          exact ⟨keeps, bare⟩

theorem unmarked_of_passive (empty : E.emptyState = .ok blank) (s : Session E)
    (shared : Shared E.Memory) (turns : List Turn) :
    ∀ x ∈ (s.converse shared turns).exchanges, x.Passive → x.ending.marks = false := by
  induction turns generalizing s shared with
  | nil => exact fun x member => nomatch member
  | cons turn rest ih =>
      refine List.forall_mem_cons.mpr ⟨fun passive => ?_, ih _ _⟩
      cases replied : (s.serve shared turn).response.ending.reply? with
      | none => exact Ending.unmarked replied
      | some r =>
          obtain ⟨⟨command, asked⟩, spares⟩ := serve_reply empty s shared turn replied
          have rejects : r.clientAction.isError = true := by
            cases passive with
            | event message => simp [asked] at message
            | snapshotRequest message => simp [asked] at message
            | failed ended => simp only at ended; rw [ended] at replied; cases replied
            | rejected ended error =>
                simp only at ended
                rw [ended] at replied
                cases replied
                exact error
            | crashed ended => simp only at ended; rw [ended] at replied; cases replied
            | givenUp ended => simp only at ended; rw [ended] at replied; cases replied
          obtain ⟨keeps, bare⟩ := spares rejects
          simp [Ending.marks, Ending.deletes, Ending.attached?, replied, keeps, bare]

/-- For an entity with an empty state and any run in which no number wraps around, whatever
its handlers do, terminated or not: the number of the last snapshot, where there is a life,
is the one that the exchanges tell, and it is not ahead of the number of the last event. From
any point of the run on it does not fall until the entity is deleted, and events of the
history, snapshot requests and messages without success leave it as it is. -/
theorem converse_lastSnapshot (empty : E.emptyState = .ok blank) (o : Options)
    (shared : Shared E.Memory) (turns : List Turn)
    (inRange : (fresh o : Session E).InRange shared turns) :
    let channel (turns : List Turn) := (fresh o : Session E).converse shared turns
    let talk := channel turns
    (∀ n, talk.session.lastSnapshot? = some n → n = lastMark o talk.exchanges ∧
      ∃ current, talk.session.sequenceNumber? = some current ∧ n ≤ current) ∧
    ∀ before after, turns = before ++ after →
      let early := channel before
      let late := early.session.converse early.shared after
      ∀ m, early.session.lastSnapshot? = some m →
        ((∀ x ∈ late.exchanges, x.ending.deletes = false) →
          ∃ n, talk.session.lastSnapshot? = some n ∧ m ≤ n) ∧
        ((∀ x ∈ late.exchanges, x.Passive) → talk.session.lastSnapshot? = some m) := by
  intro channel talk
  have start : TracksLastSnapshot o blank [] (fresh o : Session E) := .waiting rfl rfl rfl
  have recovers : (fresh o : Session E).Recovers [] := .of_phase nofun
  constructor
  · intro n last
    obtain ⟨life, living, rfl⟩ := Option.map_eq_some_iff.mp last
    obtain ⟨-, marked, ordered⟩ :=
      (tracksLastSnapshot_converse empty start recovers inRange).of_living living
    exact ⟨marked, life.position.current, by rw [sequenceNumber?, living]; rfl, ordered⟩
  · rintro before after rfl early late m last
    obtain ⟨life, living, rfl⟩ := Option.map_eq_some_iff.mp last
    obtain ⟨first, second⟩ := (inRange_append _ shared before after).mp inRange
    have same : talk.session = late.session := session_converse_append _ shared before after
    have rises := rises_converse empty (tracksLastSnapshot_converse empty start recovers first)
      (recovers_converse recovers shared before) second living
    constructor
    · intro keeps
      obtain ⟨last, living, risen, -⟩ := rises keeps
      exact ⟨_, by rw [same, lastSnapshot?, living]; rfl, risen⟩
    · intro passive
      have unmarked : ∀ x ∈ late.exchanges, x.ending.marks = false := fun x member =>
        unmarked_of_passive empty _ _ _ x member (passive x member)
      obtain ⟨last, living, -, equal⟩ :=
        rises fun x member => (Ending.marks_eq_false_iff.mp (unmarked x member)).1
      rw [same, lastSnapshot?, living, Option.map_some, equal unmarked]

/-- A visit to a counter that takes a snapshot at every second event. It is taken once, and
what fails afterwards and the third event leave it behind. -/
theorem converse_lastSnapshot_visit :
    let o : Options := { Options.default with policy := .every 2 (by decide) }
    let channel (turns : List Turn) :=
      (fresh o : Session Samples.Counter.entity).converse Samples.Counter.host turns
    let talk := channel Samples.Counter.visit
    (fresh o : Session Samples.Counter.entity).InRange Samples.Counter.host
        Samples.Counter.visit ∧
      (channel (Samples.Counter.visit.take 2)).session.lastSnapshot? = some 0 ∧
      talk.session.lastSnapshot? = some 2 ∧ talk.session.sequenceNumber? = some 3 ∧
      2 = lastMark o talk.exchanges ∧ ∃ n, talk.session.lastSnapshot? = some n ∧ 0 ≤ n := by
  intro o channel talk
  have inRange : (fresh o : Session Samples.Counter.entity).InRange Samples.Counter.host
      Samples.Counter.visit :=
    ⟨by decide, by decide, by decide, by decide, by decide, by decide, by decide, trivial⟩
  obtain ⟨tells, rises⟩ := @converse_lastSnapshot Samples.Counter.entity ⟨0⟩ rfl o
    Samples.Counter.host Samples.Counter.visit inRange
  have early : (channel (Samples.Counter.visit.take 2)).session.lastSnapshot? = some 0 := rfl
  have last : talk.session.lastSnapshot? = some 2 := by decide
  exact ⟨inRange, early, last, by decide, (tells 2 last).1,
    (rises _ (Samples.Counter.visit.drop 2) rfl 0 early).1 (by decide)⟩

end Session

end EntityEngine
