import Mathlib.Data.List.Nodup
import Mathlib.Data.Set.Function
import Mathlib.Order.Interval.Set.Defs
import EntityEngine.Proofs.Chaining
import EntityEngine.Proofs.Replacement
import EntityEngine.Proofs.Spans

/-!
# What is written about a message

The log and the caller are told of the same message in different places. A failure that the
caller can trace comes with one record of level `ERROR`, which has the correlation id that the
failure has and that its text ends with. A rejection comes with one record of level `DEBUG` and
with nothing above it, and a deletion with one of level `INFO`. No other ending comes with any
of these records. Correlation ids are drawn one after the other, and nobody else draws any
while the session is at it, so that a supply of fresh ids never makes a session repeat one.
-/

namespace EntityEngine

/-- The correlation id that the caller sees. -/
def Outbound.correlationId? : Outbound → Option Uuid
  | .failure f => f.correlationId
  | _ => none

def Ending.correlationId? : Ending → Option Uuid
  | .answered out => out.correlationId?
  | _ => none

/-- The ending rejects a command. -/
def Ending.rejects (ending : Ending) : Bool :=
  ending.reply?.any fun r => r.clientAction.isError

/-- The correlation ids that the callers see in a conversation, in their order. -/
def Conversation.correlationIds {E : Entity} (c : Conversation E) : List Uuid :=
  c.exchanges.filterMap fun x => x.ending.correlationId?

namespace Notice

/-- The id of a notice, and what its record shows of it. -/
def mark (n : Notice) : Option Uuid × Option String :=
  (n.correlationId?, n.fields.lookup "correlation_id")

def IsRejection (n : Notice) : Prop := n.level = .debug ∧ n.message = "command rejected"

def IsDeletion (n : Notice) : Prop := n.level = .info ∧ n.message = "entity deleted"

instance : DecidablePred IsRejection := fun _ => inferInstanceAs (Decidable (_ ∧ _))

instance : DecidablePred IsDeletion := fun _ => inferInstanceAs (Decidable (_ ∧ _))

/-- The notice is neither an alarm nor about a rejection or a deletion. -/
structure IsAside (n : Notice) : Prop where
  calm : n.level ≠ .error
  unrejecting : ¬ n.IsRejection
  undeleting : ¬ n.IsDeletion

end Notice

/-- What is written about a message agrees with how its handling ended. -/
structure Accounts (notices : List Notice) (ending : Ending) : Prop where
  alarms : (notices.filter fun n => n.level = .error).map Notice.mark =
    ending.correlationId?.toList.map fun id => (some id, some id.text)
  bracketed : ∀ f id, ending = .answered (.failure f) → f.correlationId = some id →
    ∃ text : String, f.description = s!"{text} [{id.text}]"
  rejections : notices.countP (fun n => n.IsRejection) = ending.rejects.toNat
  lenient : ending.rejects = true ∨ ending = .cancelled → ∀ n ∈ notices, n.level = .debug
  deletions : notices.countP (fun n => n.IsDeletion) = ending.deletes.toNat

theorem Accounts.preceded {notices before : List Notice} {ending : Ending}
    (h : Accounts notices ending) (aside : ∀ n ∈ before, n.IsAside)
    (lenient : ending.rejects = true ∨ ending = .cancelled → ∀ n ∈ before, n.level = .debug) :
    Accounts (before ++ notices) ending where
  alarms := by
    have calm : before.filter (fun n => n.level = .error) = [] :=
      List.filter_eq_nil_iff.mpr fun n member => by simpa using (aside n member).calm
    rw [List.filter_append, calm, List.nil_append, h.alarms]
  bracketed := h.bracketed
  rejections := by
    have none : before.countP (fun n => n.IsRejection) = 0 :=
      List.countP_eq_zero.mpr fun n member => by simpa using (aside n member).unrejecting
    rw [List.countP_append, none, Nat.zero_add, h.rejections]
  lenient mild n member :=
    (List.mem_append.mp member).elim (lenient mild n) (h.lenient mild n)
  deletions := by
    have none : before.countP (fun n => n.IsDeletion) = 0 :=
      List.countP_eq_zero.mpr fun n member => by simpa using (aside n member).undeleting
    rw [List.countP_append, none, Nat.zero_add, h.deletions]

/-- The ending is no failure that can be traced, no rejection and no deletion. -/
structure Ending.Plain (ending : Ending) : Prop where
  untraced : ending.correlationId? = none
  unrejecting : ending.rejects = false
  undeleting : ending.deletes = false

/-- A plain ending needs no record of its own. -/
theorem Ending.Plain.accounts {ending : Ending} (plain : ending.Plain) : Accounts [] ending where
  alarms := by rw [plain.untraced]; rfl
  bracketed f id ended traced := by
    have untraced := plain.untraced
    rw [ended] at untraced
    exact (nomatch traced.symm.trans untraced)
  rejections := by rw [plain.unrejecting]; rfl
  lenient _ _ := nofun
  deletions := by rw [plain.undeleting]; rfl

theorem accounts_rejection {r : Reply} (rejects : r.clientAction.isError = true)
    (kept : r.deleteAfter = false) (entityType : String) (entityId : EntityId) (operation : String)
    (commandId : UInt64) (reason : Option String) :
    Accounts [.commandRejected entityType entityId operation commandId reason]
      (.answered (.reply r)) where
  alarms := rfl
  bracketed := nofun
  rejections := congrArg Bool.toNat rejects.symm
  lenient _ n member := by
    obtain rfl := List.mem_singleton.mp member
    rfl
  deletions := congrArg Bool.toNat kept.symm

theorem accounts_reply {r : Reply} (accepts : r.clientAction.isError = false)
    (entityType : String) (entityId : EntityId) :
    Accounts (if r.deleteAfter then [.entityDeleted entityType entityId] else [])
      (.answered (.reply r)) := by
  have unrejecting : (Ending.answered (.reply r)).rejects = false := accepts
  cases deletes : r.deleteAfter with
  | false => exact Ending.Plain.accounts ⟨rfl, unrejecting, deletes⟩
  | true =>
      refine ⟨rfl, nofun, ?_, ?_, congrArg Bool.toNat deletes.symm⟩
      · rw [unrejecting]
        rfl
      · rintro (rejects | cancelled)
        · exact (nomatch unrejecting.symm.trans rejects)
        · cases cancelled

/-- Nothing but asides is written before a handler has ended. -/
theorem Accounts.isAside {notices : List Notice} (h : Accounts notices .cancelled) :
    ∀ n ∈ notices, n.IsAside ∧ n.level = .debug := by
  intro n member
  have level := h.lenient (.inr rfl) n member
  have unrejecting := List.countP_eq_zero.mp h.rejections n member
  have undeleting := List.countP_eq_zero.mp h.deletions n member
  exact ⟨⟨by simp [level], by simpa using unrejecting, by simpa using undeleting⟩, level⟩

/-- The ids are the next ones that the channels had, and nobody else drew any. -/
structure Draws {M : Type} (shared : Shared M) (ids : List Uuid) (after : Shared M) : Prop where
  supply : after.supply = shared.supply
  drawn : after.drawn = shared.drawn + ids.length
  next : ids = (List.range' shared.drawn ids.length).map shared.supply

section

variable {M : Type} {shared after later : Shared M} {ids more : List Uuid}

theorem draws_nil (supply : after.supply = shared.supply) (drawn : after.drawn = shared.drawn) :
    Draws shared [] after :=
  ⟨supply, drawn, rfl⟩

theorem draws_draw (shared : Shared M) : Draws shared [shared.draw.1] shared.draw.2 :=
  ⟨rfl, rfl, rfl⟩

theorem Draws.trans (h : Draws shared ids after) (h' : Draws after more later) :
    Draws shared (ids ++ more) later where
  supply := h'.supply.trans h.supply
  drawn := by rw [h'.drawn, h.drawn, List.length_append, Nat.add_assoc]
  next := by
    rw [List.length_append, ← List.range'_append_1, List.map_append, ← h.next, ← h.drawn,
      ← h.supply, ← h'.next]

/-- What is drawn from a supply of fresh ids does not repeat. -/
theorem Draws.nodup (h : Draws shared ids after)
    (fresh : Set.InjOn shared.supply (Set.Ico shared.drawn after.drawn)) : ids.Nodup := by
  rw [h.next]
  refine List.Nodup.map_on (fun i first j second same => fresh ?_ ?_ same) List.nodup_range'
  all_goals simp only [List.mem_range'_1] at first second
  · exact ⟨first.1, by rw [h.drawn]; exact first.2⟩
  · exact ⟨second.1, by rw [h.drawn]; exact second.2⟩

end

namespace Session

variable {E : Entity} {blank : E.State} {s : Session E}

/-- The step accounts for how it ends, and draws an id exactly for a failure that can be
traced. -/
structure Reports (shared : Shared E.Memory) (step : Step E) : Prop where
  accounts : Accounts step.notices step.response.ending
  draws : Draws shared step.response.ending.correlationId?.toList step.shared

theorem Reports.preceded {shared : Shared E.Memory} {step : Step E} (h : Reports shared step)
    {notices : List Notice} (calls : List TraceCall) (aside : ∀ n ∈ notices, n.IsAside)
    (lenient : step.response.ending.rejects = true ∨ step.response.ending = .cancelled →
      ∀ n ∈ notices, n.level = .debug) :
    Reports shared (step.preceded notices calls) :=
  ⟨h.accounts.preceded aside lenient, h.draws⟩

theorem Reports.after {shared now : Shared E.Memory} {step : Step E} (h : Reports now step)
    (none : Draws shared [] now) : Reports shared step :=
  ⟨h.accounts, none.trans h.draws⟩

theorem reports_violate (s : Session E) (shared : Shared E.Memory) (violation : Violation)
    (commandId : Option UInt64) : Reports shared (s.violate shared violation commandId) where
  accounts :=
    { alarms := by cases commandId <;> rfl
      bracketed := by
        rintro f id ⟨⟩ ⟨⟩
        exact ⟨s!"protocol violation: {violation.message}", rfl⟩
      rejections := rfl
      lenient := nofun
      deletions := rfl }
  draws := draws_draw shared

theorem reports_failRecovery (s : Session E) (shared : Shared E.Memory) (error : RecoveryError) :
    Reports shared (s.failRecovery shared error) where
  accounts :=
    { alarms := rfl
      bracketed := by
        rintro f id ⟨⟩ ⟨⟩
        exact ⟨"unexpected error", rfl⟩
      rejections := rfl
      lenient := nofun
      deletions := rfl }
  draws := draws_draw shared

theorem reports_plain {shared after : Shared E.Memory} {notices : List Notice}
    {calls : List TraceCall} {response : Response E} (plain : response.ending.Plain)
    (supply : after.supply = shared.supply) (drawn : after.drawn = shared.drawn)
    (aside : ∀ n ∈ notices, n.IsAside)
    (lenient : response.ending = .cancelled → ∀ n ∈ notices, n.level = .debug) :
    Reports shared ⟨s, after, notices, calls, response⟩ where
  accounts := by
    rw [← List.append_nil notices]
    refine plain.accounts.preceded aside ?_
    rintro (rejects | cancelled)
    · exact (nomatch plain.unrejecting.symm.trans rejects)
    · exact lenient cancelled
  draws := by
    rw [plain.untraced]
    exact draws_nil supply drawn

/-- Of a snapshot that is ignored there is a warning. -/
theorem isAside_admitSnapshot (s : Session E) (snapshot : Option Snapshot) :
    ∀ n ∈ (s.admitSnapshot snapshot).2, n.IsAside := by
  unfold admitSnapshot
  cases snapshot with
  | none => exact nofun
  | some snapshot =>
      simp only
      split
      · intro n member
        obtain rfl := List.mem_singleton.mp member
        exact ⟨nofun, nofun, nofun⟩
      · exact nofun

theorem reports_receiveInit (s : Session E) (shared : Shared E.Memory) (init : Init) :
    Reports shared (s.receiveInit shared init) := by
  unfold receiveInit
  split
  · exact reports_violate s shared _ _
  simp only
  have aside := ({ s with identity := some init.entityId } : Session E).isAside_admitSnapshot
    init.snapshot
  split
  · exact (reports_failRecovery _ shared _).preceded [] aside (by rintro (h | h) <;> cases h)
  · exact reports_plain ⟨rfl, rfl, rfl⟩ rfl rfl aside nofun
  · refine reports_plain ⟨rfl, rfl, rfl⟩ rfl rfl (fun n member => ?_) nofun
    obtain ignored | seeded := List.mem_append.mp member
    · exact aside n ignored
    · obtain rfl := List.mem_singleton.mp seeded
      exact ⟨nofun, fun h => absurd h.2 (by simp [Notice.message]), nofun⟩

theorem reports_receiveEvent (s : Session E) (shared : Shared E.Memory) (record : EventRecord) :
    Reports shared (s.receiveEvent shared record) := by
  unfold receiveEvent
  split
  · exact reports_plain ⟨rfl, rfl, rfl⟩ rfl rfl nofun nofun
  split
  · exact reports_violate _ shared _ _
  simp only
  split
  · exact reports_failRecovery _ shared _
  split
  · exact reports_plain ⟨rfl, rfl, rfl⟩ rfl rfl nofun nofun
  split
  · exact reports_plain ⟨rfl, rfl, rfl⟩ rfl rfl nofun nofun
  · exact reports_failRecovery _ shared _

/-- Nothing is written when an entity is awakened, except that it is recreated. -/
theorem recreated_of_revive {n : Notice} (member : n ∈ s.revive.2.1) :
    n = .recreated E.name s.identityOrBlank := by
  have only : s.revive.2.1 =
      if s.incarnation.isNone && s.deleted then [.recreated E.name s.identityOrBlank] else [] := by
    unfold revive
    simp only
    split <;> rfl
  rw [only] at member
  split at member
  · exact List.mem_singleton.mp member
  · cases member

theorem isAside_revive {n : Notice} (member : n ∈ s.revive.2.1) : n.IsAside ∧ n.level = .debug := by
  obtain rfl := recreated_of_revive member
  exact ⟨⟨nofun, fun h => absurd h.2 (by simp [Notice.message]), nofun⟩, rfl⟩

theorem reports_receiveSnapshotRequest (s : Session E) (shared : Shared E.Memory)
    (request : SnapshotRequest) : Reports shared (s.receiveSnapshotRequest shared request) := by
  have quietly := fun n (member : n ∈ s.revive.2.1) => isAside_revive member
  unfold receiveSnapshotRequest
  generalize s.revive = revived at quietly ⊢
  obtain ⟨t, notices, crash | life⟩ := revived
  · exact reports_plain ⟨rfl, rfl, rfl⟩ rfl rfl (fun n member => (quietly n member).1) nofun
  · simp only
    split
    · exact reports_plain ⟨rfl, rfl, rfl⟩ rfl rfl (fun n member => (quietly n member).1) nofun
    · exact (reports_failRecovery t shared _).preceded [] (fun n member => (quietly n member).1)
        fun _ n member => (quietly n member).2

theorem reports_refuse (s : Session E) (shared : Shared E.Memory) (ticket : Ticket)
    (error : CommandError) : Reports shared (s.refuse shared ticket error) := by
  unfold refuse
  split
  · exact ⟨accounts_rejection (isError_rejectionAction error) rfl .., draws_nil rfl rfl⟩
  · refine ⟨⟨rfl, ?_, rfl, nofun, rfl⟩, draws_draw shared⟩
    rintro f id ⟨⟩ ⟨⟩
    exact ⟨"unexpected error", rfl⟩

/-- What is written about a result whose rejection, if it is one, changes nothing. -/
theorem reports_succeed (s : Session E) (shared : Shared E.Memory) (ticket : Ticket)
    {result : CommandResult E.State}
    (strict : result.clientAction.isError = true → result.events = [] ∧ result.deletes = false) :
    Reports shared (s.succeed shared ticket result) := by
  refine ⟨?_, draws_nil rfl rfl⟩
  simp only [succeed, Response.ending, resultNotices]
  cases rejects : result.clientAction.isError with
  | true =>
      obtain ⟨silent, kept⟩ := strict rejects
      simp only [silent, kept]
      cases s.incarnation <;> exact accounts_rejection rejects rfl ..
  | false =>
      have replied := accounts_reply (r := result.toReply ticket.commandId) rejects E.name
        s.identityOrBlank
      simp only [Bool.false_eq_true, if_false, List.nil_append]
      refine replied.preceded (fun n member => ?_) ?_
      · split at member
        · split at member
          · cases member
          · obtain rfl := List.mem_singleton.mp member
            exact ⟨nofun, fun h => absurd h.2 (by simp [Notice.message]), nofun⟩
        · cases member
      · rintro (h | h)
        · exact (nomatch rejects.symm.trans h)
        · cases h

theorem reports_conclude (s : Session E) (shared : Shared E.Memory) (ticket : Ticket)
    (ending : Except CommandError (Effect E.State E.Event)) :
    Reports shared (s.conclude shared ticket ending) := by
  have abandoned : Draws shared [] (abandon shared ticket) := draws_nil rfl rfl
  refine Reports.after ?_ abandoned
  unfold conclude
  cases ending with
  | error e => exact reports_refuse s (abandon shared ticket) ticket e
  | ok effect =>
      cases s.present with
      | error crash => exact reports_plain ⟨rfl, rfl, rfl⟩ rfl rfl nofun nofun
      | ok life =>
          simp only
          split
          · next interpreted =>
              refine reports_succeed _ (abandon shared ticket) ticket fun rejects => ?_
              cases Effect.interpreted_of_ok interpreted with
              | rejected kept outcome => exact ⟨rfl, rfl⟩
              | carried accepted => exact (nomatch accepted.symm.trans rejects)
          · exact reports_refuse _ (abandon shared ticket) ticket _

theorem reports_launch (s : Session E) (shared : Shared E.Memory) (command : Command)
    (life : Incarnation E.State) : Reports shared (s.launch shared command life) := by
  unfold launch
  simp only
  split
  · exact reports_plain ⟨rfl, rfl, rfl⟩ rfl rfl nofun nofun
  · exact reports_plain ⟨rfl, rfl, rfl⟩ rfl rfl nofun nofun
  · refine Reports.preceded ?_ _ (List.forall_mem_nil _) fun _ => List.forall_mem_nil _
    exact (reports_conclude s _ _ _).after (draws_nil rfl rfl)

theorem reports_receiveCommand (s : Session E) (shared : Shared E.Memory) (command : Command) :
    Reports shared (s.receiveCommand shared command) := by
  have quietly := fun n (member : n ∈ s.revive.2.1) => isAside_revive member
  unfold receiveCommand
  split
  · generalize s.revive = revived at quietly ⊢
    obtain ⟨t, notices, crash | life⟩ := revived
    · exact reports_plain ⟨rfl, rfl, rfl⟩ rfl rfl (fun n member => (quietly n member).1) nofun
    · exact (reports_launch t shared command life).preceded []
        (fun n member => (quietly n member).1) fun _ n member => (quietly n member).2
  · exact reports_violate s shared _ _

theorem reports_closing (s : Session E) (shared : Shared E.Memory) (message : Inbound) :
    Reports shared ⟨s, shared, [], [], (afterTermination message).elim .quiet .answered⟩ := by
  cases message <;> exact reports_plain ⟨rfl, rfl, rfl⟩ rfl rfl nofun nofun

theorem reports_begin (s : Session E) (shared : Shared E.Memory) (message : Inbound) :
    Reports shared (s.begin shared message) := by
  unfold begin
  split
  · exact reports_closing s shared _
  · exact reports_receiveInit s shared _
  · exact reports_violate s shared _ _
  · exact reports_violate s shared _ _
  · exact reports_receiveEvent s shared _
  · exact reports_violate s shared _ _
  · exact reports_receiveCommand _ shared _
  · exact reports_receiveSnapshotRequest _ shared _

/-- A handler draws no correlation ids. -/
theorem draws_await (ticket : Ticket) (patience : Nat)
    (activity : Activity E.Memory E.State E.Event) (shared : Shared E.Memory) :
    Draws shared [] (await ticket patience activity shared).2 := by
  induction patience generalizing activity shared with
  | zero => exact draws_nil rfl rfl
  | succ patience ih =>
      have none : Draws shared [] (advance shared ⟨ticket, activity⟩).2 := draws_nil rfl rfl
      unfold await
      generalize advance shared ⟨ticket, activity⟩ = advanced at *
      obtain ⟨ending | ⟨span, rest⟩ | _, after⟩ := advanced
      · exact none
      · exact none.trans (ih rest after)
      · exact none

theorem reports_pursue (s : Session E) (shared : Shared E.Memory) (call : Call E)
    (patience : Nat) : Reports shared (s.pursue shared call patience) := by
  have none := draws_await call.ticket patience call.activity shared
  unfold pursue
  generalize await call.ticket patience call.activity shared = awaited at none ⊢
  obtain ⟨_ | ending, after⟩ := awaited
  · exact reports_plain ⟨rfl, rfl, rfl⟩ none.supply none.drawn nofun nofun
  · exact (reports_conclude s after call.ticket ending).after none

theorem reports_serve (s : Session E) (shared : Shared E.Memory) (turn : Turn) :
    Reports shared (s.serve shared turn) := by
  obtain ⟨message, patience⟩ := turn
  have begun := reports_begin s shared message
  cases response : (s.begin shared message).response with
  | calling call =>
      obtain ⟨accounts, none⟩ := begun
      rw [response] at accounts none
      rw [serve_eq_pursue response patience]
      exact ((reports_pursue _ _ call patience).after none).preceded _
        (fun n member => (accounts.isAside n member).1)
        fun _ n member => (accounts.isAside n member).2
  | _ => rwa [serve, carry, response]

/-- What a handler came to turns its command down: it is a rejection, it was given a payload that
it does not take, or it is an effect with an error as its outcome and without a deletion. -/
inductive Declines {S T : Type} : Except CommandError (Effect S T) → Prop
  | rejected (message : String) (code : Option ErrorCode) :
      Declines (.error (.handler (.rejected message code)))
  | unreadable (operation : String) (error : DecodeError) :
      Declines (.error (.invalidPayload operation error))
  | refused {effect : Effect S T} (outcome : effect.isError = true)
      (kept : effect.deletes = false) : Declines (.ok effect)

theorem rejects_answer_iff (e : CommandError) (commandId : UInt64) (id : Uuid) :
    (Ending.answered (e.answer commandId id)).rejects = true ↔ e.severity = .validation := by
  unfold CommandError.answer
  cases e.severity with
  | validation => exact iff_of_true (isError_rejectionAction e) rfl
  | _ => exact iff_of_false nofun nofun

theorem declines_error_iff {S T : Type} (e : CommandError) :
    Declines (.error e : Except CommandError (Effect S T)) ↔ e.severity = .validation := by
  constructor
  · rintro (_ | _)
    · rfl
    · rfl
  · intro severity
    unfold CommandError.severity at severity
    split at severity
    · exact .rejected _ _
    · exact .unreadable _ _
    · cases severity

theorem rejects_judge_iff (policy : SnapshotPolicy) (life : Incarnation E.State)
    (operation : String) (ending : Except CommandError (Effect E.State E.Event))
    (commandId : UInt64) (id : Uuid) :
    ((E.judge policy life operation (.ended ending)).ending commandId id).rejects = true ↔
      Declines ending := by
  cases ending with
  | error e => exact (rejects_answer_iff e commandId id).trans (declines_error_iff e).symm
  | ok effect =>
      simp only [Entity.judge]
      split
      · next interpreted =>
          cases Effect.interpreted_of_ok interpreted with
          | rejected kept outcome =>
              exact iff_of_true rfl (.refused (by rw [Effect.isError, outcome]) kept)
          | carried accepted unrejected =>
              refine iff_of_false ?_ ?_
              · intro rejects
                cases accepted.symm.trans rejects
              · rintro (_ | _ | ⟨outcome, -⟩)
                cases unrejected.symm.trans outcome
      · next defect failed =>
          refine iff_of_false Bool.false_ne_true ?_
          rintro (_ | _ | ⟨rejects, kept⟩)
          cases outcome : effect.outcome with
          | error message code =>
              rw [Effect.interpret_of_error _ _ _ outcome, kept] at failed
              cases failed
          | _ => simp only [Effect.isError, outcome, Bool.false_eq_true] at rejects

/-- The message is a command that is handed to the entity, and its handler turns it down. -/
def DeclinesCommand (s : Session E) (blank : E.State) (shared : Shared E.Memory) (turn : Turn) :
    Prop :=
  ∃ command ending, turn.message = .command command ∧ s.Live ∧
    s.identity = some command.entityId ∧
    s.hearing blank shared command turn.patience = .ended ending ∧ Declines ending

theorem serve_rejects_iff (empty : E.emptyState = .ok blank) (s : Session E)
    (shared : Shared E.Memory) (turn : Turn) :
    (s.serve shared turn).response.ending.rejects = true ↔ s.DeclinesCommand blank shared turn := by
  have served := serve_served empty s shared turn
  generalize (s.serve shared turn).session = after at served
  generalize (s.serve shared turn).response.ending = ending at served ⊢
  cases served with
  | closed closed =>
      refine iff_of_false ?_ ?_
      · cases message : turn.message <;> exact nofun
      · rintro ⟨command, ending, -, live | live, -⟩ <;> exact (nomatch closed.symm.trans live)
  | broken opening unfit =>
      refine iff_of_false nofun ?_
      rintro ⟨command, ending, message, live, own, -⟩
      rw [message] at unfit
      exact unfit (.command live own)
  | opened waiting => exact iff_of_false nofun (by rintro ⟨command, ending, ⟨⟩, -⟩)
  | replayed replaying => exact iff_of_false nofun (by rintro ⟨command, ending, ⟨⟩, -⟩)
  | portrayed live =>
      refine iff_of_false ?_ (by rintro ⟨command, ending, ⟨⟩, -⟩)
      unfold portrait
      split <;> exact nofun
  | @decided command patience id live own =>
      unfold verdict
      constructor
      · intro rejects
        cases heard : s.hearing blank shared command patience with
        | crashed crash => rw [heard] at rejects; cases rejects
        | givenUp => rw [heard] at rejects; cases rejects
        | ended ending =>
            rw [heard, rejects_judge_iff] at rejects
            exact ⟨command, ending, rfl, live, own, heard, rejects⟩
      · rintro ⟨_, ending, ⟨⟩, -, -, heard, declines⟩
        rw [heard, rejects_judge_iff]
        exact declines

theorem draws_converse (s : Session E) (shared : Shared E.Memory) (turns : List Turn) :
    Draws shared (s.converse shared turns).correlationIds (s.converse shared turns).shared := by
  induction turns generalizing s shared with
  | nil => exact draws_nil rfl rfl
  | cons turn rest ih =>
      have first := (reports_serve s shared turn).draws
      have later := ih (s.serve shared turn).session (s.serve shared turn).shared
      have split : (s.converse shared (turn :: rest)).correlationIds =
          (s.serve shared turn).response.ending.correlationId?.toList ++
            ((s.serve shared turn).session.converse (s.serve shared turn).shared
              rest).correlationIds := by
        simp only [Conversation.correlationIds, converse, List.filterMap_cons]
        cases (s.serve shared turn).response.ending.correlationId? <;> rfl
      rw [split]
      exact first.trans later

/-- Whatever was said before, the records about a message agree with how it ends. It is a
rejection exactly when the handler of a command turns it down. The correlation ids of the whole
conversation are the next ones of the supply, each used once, so that none of them repeats if
the supply is fresh. -/
theorem converse_reports (empty : E.emptyState = .ok blank) (o : Options)
    (shared : Shared E.Memory) (before : List Turn) (turn : Turn) (after : List Turn) :
    let earlier := (fresh o : Session E).converse shared before
    let step := earlier.session.serve earlier.shared turn
    let run := (fresh o : Session E).converse shared (before ++ turn :: after)
    run.exchanges[before.length]? =
        some ⟨turn, step.response.ending, step.notices, step.calls⟩ ∧
      Accounts step.notices step.response.ending ∧
      (step.response.ending.rejects = true ↔
        earlier.session.DeclinesCommand blank earlier.shared turn) ∧
      Draws shared run.correlationIds run.shared ∧
      (Set.InjOn shared.supply (Set.Ico shared.drawn run.shared.drawn) →
        run.correlationIds.Nodup) := by
  intro earlier step run
  have drawn : Draws shared run.correlationIds run.shared := draws_converse _ shared _
  refine ⟨?_, (reports_serve earlier.session earlier.shared turn).accounts,
    serve_rejects_iff empty earlier.session earlier.shared turn, drawn, drawn.nodup⟩
  have length : earlier.exchanges.length = before.length := by
    rw [← List.length_map Exchange.turn, map_turn_exchanges]
  simp only [run, converse_append]
  rw [List.getElem?_append_right length.le, length, Nat.sub_self]
  rfl

end Session

namespace Samples.Counter

/-- One command is rejected, two fail, one deletes the entity and the last one is not for it. -/
def ordeal : List Turn :=
  [⟨.init ⟨"a", none⟩, 0⟩,
    ⟨.command (.plain 1 "a" "panic" none), 1⟩,
    ⟨.command (.plain 2 "a" "increaseBy" (payload (-1))), 1⟩,
    ⟨.command (.plain 3 "a" "explode" none), 1⟩,
    ⟨.command (.plain 4 "a" "delete" none), 1⟩,
    ⟨.command (.plain 5 "b" "get" none), 1⟩]

theorem converse_reports_ordeal :
    let earlier := (Session.fresh .default : Session entity).converse host (ordeal.take 2)
    let turn : Turn := ⟨.command (.plain 2 "a" "increaseBy" (payload (-1))), 1⟩
    let step := earlier.session.serve earlier.shared turn
    let run := (Session.fresh .default : Session entity).converse host ordeal
    entity.emptyState = .ok ⟨0⟩ ∧
      Set.InjOn host.supply (Set.Ico host.drawn run.shared.drawn) ∧
      earlier.session.DeclinesCommand ⟨0⟩ earlier.shared turn ∧
      Accounts step.notices step.response.ending ∧
      step.notices = [.commandRejected "counter" "a" "increaseBy" 2
        (some "Increase requires a positive value")] ∧
      run.correlationIds = [Uuid.ofNat 0, Uuid.ofNat 1, Uuid.ofNat 2] ∧
      run.correlationIds.Nodup := by
  intro earlier turn step run
  have empty : entity.emptyState = .ok ⟨0⟩ := rfl
  have apart : ∀ i < 3, ∀ j < 3, Uuid.ofNat i = Uuid.ofNat j → i = j := by decide
  have fresh : Set.InjOn host.supply (Set.Ico host.drawn run.shared.drawn) :=
    fun i first j second same => apart i first.2 j second.2 same
  obtain ⟨-, accounts, declinesCommand, -, nodup⟩ :=
    Session.converse_reports empty .default host (ordeal.take 2) turn (ordeal.drop 3)
  have whole : ordeal.take 2 ++ turn :: ordeal.drop 3 = ordeal := rfl
  rw [whole] at nodup
  exact ⟨empty, fresh, declinesCommand.mp rfl, accounts, rfl, rfl, nodup fresh⟩

end Samples.Counter

end EntityEngine
