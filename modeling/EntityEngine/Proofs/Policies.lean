import Mathlib.Data.Option.Basic
import EntityEngine.Proofs.Steadiness
import EntityEngine.Samples.Script

/-!
# What a snapshot policy can change

A snapshot is only attached to what a command comes to. Under any policy an effect is
interpreted as it is without snapshots, and then the snapshot is added if one is due.
The one way in which a policy can show is that the state cannot be encoded at that
moment: then the command fails, while without snapshots it would have succeeded.

Two sessions agree up to snapshots when they differ in nothing but their policies and the
number of their last snapshot. The main statement is that they still do after every list of
messages, as long as every state that an event leads to can be encoded. The crashes of
an entity without an empty state are the same in both, too. Without the condition on the
encoding it fails, as a scripted entity shows.
-/

namespace EntityEngine

/-- Every state that an event leads to can be encoded. -/
def Mechanics.StatesEncode {S E : Type} (m : Mechanics S E) : Prop :=
  ∀ state event next, m.apply state event = .ok next → ∃ json, m.encodeState next = .ok json

def Entity.StatesEncode (E : Entity) : Prop := E.mechanics.StatesEncode

namespace Effect

variable {S E : Type} {m : Mechanics S E} {effect : Effect S E} {state : S} {i : Interpretation}

/-- Add the snapshot that is due to a result. -/
def attach (m : Mechanics S E) (effect : Effect S E) (policy : SnapshotPolicy)
    (result : CommandResult S) : Except Defect (CommandResult S) :=
  (snapshot? m effect policy result.endSequenceNumber result.nextState).map fun snapshot =>
    { result with snapshot }

theorem snapshot?_never (last : SequenceNumber) (next : Option S) :
    snapshot? m effect .never last next = .ok none := by
  cases next with
  | none => rfl
  | some next => simp [snapshot?]

theorem carryOut_eq_attach (action : ClientAction) :
    carryOut m effect state i action =
      carryOut m effect state { i with policy := .never } action >>= attach m effect i.policy := by
  unfold carryOut attach
  cases (records m.encodeEvent i.sequenceNumber effect.events).mapError Defect.eventEncoding with
  | error e => rfl
  | ok events =>
      cases nextState m effect state with
      | error e => rfl
      | ok changed =>
          obtain ⟨next, update⟩ := changed
          simp only [bind, Except.bind, snapshot?_never, pure, Except.pure]
          cases snapshot? m effect i.policy
              (i.sequenceNumber + UInt64.ofNat events.length) next <;> rfl

/-- Under a policy an effect is interpreted as without snapshots, and then the snapshot that
is due is added. -/
theorem interpret_eq_attach :
    effect.interpret m state i =
      effect.interpret m state { i with policy := .never } >>= attach m effect i.policy := by
  have model : checkModel effect { i with policy := .never } = checkModel effect i := rfl
  unfold interpret
  cases checkDeletion effect with
  | error e => rfl
  | ok allowed =>
      simp only [bind, Except.bind, model]
      cases effect.outcome with
      | error message code => rfl
      | reply payload =>
          cases checkModel effect i with
          | error e => rfl
          | ok sound =>
              cases payload with
              | error e => rfl
              | ok answer => exact carryOut_eq_attach _
      | forward target =>
          cases checkModel effect i with
          | error e => rfl
          | ok sound => exact carryOut_eq_attach _
      | noReply =>
          cases checkModel effect i with
          | error e => rfl
          | ok sound => exact carryOut_eq_attach _

theorem foldlM_concat_ok {α β ε : Type} {f : β → α → Except ε β} {xs : List α} {x : α} {b c : β}
    (h : (xs ++ [x]).foldlM f b = .ok c) : ∃ before, f before x = .ok c := by
  rw [List.foldlM_append, bind_eq_ok] at h
  obtain ⟨before, -, last⟩ := h
  simp only [List.foldlM_cons, List.foldlM_nil, bind_pure] at last
  exact ⟨before, last⟩

/-- The state that an effect with events leads to can be encoded: a replacement has been, and
otherwise the last event led to it. -/
theorem encodeState_of_nextState (encodes : m.StatesEncode) {next : S} {update : Option Json}
    (busy : effect.events ≠ []) (changed : nextState m effect state = .ok (some next, update)) :
    ∃ json, m.encodeState next = .ok json := by
  cases replacement : effect.replacement with
  | some replaced =>
      simp only [nextState, replacement] at changed
      split at changed
      · next encoded =>
          cases changed
          exact ⟨_, encoded⟩
      · cases changed
  | none =>
      obtain ⟨-, folded⟩ := foldlM_of_nextState replacement changed
      obtain ⟨earlier, event, split⟩ := List.eq_nil_or_concat' effect.events |>.resolve_left busy
      rw [split] at folded
      obtain ⟨before, applied⟩ := foldlM_concat_ok folded
      exact encodes _ _ _ applied

theorem snapshot?_ok (encodes : m.StatesEncode) {next : Option S} {update : Option Json}
    (changed : nextState m effect state = .ok (next, update)) (policy : SnapshotPolicy)
    (last : SequenceNumber) : ∃ snapshot, snapshot? m effect policy last next = .ok snapshot := by
  cases next with
  | none => exact ⟨none, rfl⟩
  | some next =>
      simp only [snapshot?]
      split
      · next due =>
          have busy : effect.events ≠ [] := by
            intro empty
            simp [empty] at due
          obtain ⟨json, encoded⟩ := encodeState_of_nextState encodes busy changed
          exact ⟨_, by rw [encoded]⟩
      · exact ⟨none, rfl⟩

theorem attach_ok (encodes : m.StatesEncode) {result : CommandResult S}
    (h : effect.interpret m state i = .ok result) (policy : SnapshotPolicy) :
    ∃ snapshot, attach m effect policy result = .ok { result with snapshot } := by
  cases interpreted_of_ok h with
  | rejected kept outcome => exact ⟨none, rfl⟩
  | @carried _ events _ _ _ _ _ _ _ changed _ =>
      obtain ⟨snapshot, taken⟩ := snapshot?_ok encodes changed policy
        (i.sequenceNumber + UInt64.ofNat events.length)
      exact ⟨snapshot, by simp only [attach, taken, Except.map]⟩

/-- Two interpretations come to the same, but for the snapshot. -/
inductive ResultUpToSnapshot :
    Except Defect (CommandResult S) → Except Defect (CommandResult S) → Prop
  | defect (defect : Defect) : ResultUpToSnapshot (.error defect) (.error defect)
  | result (result : CommandResult S) (snapshot other : Option Snapshot) :
      ResultUpToSnapshot (.ok { result with snapshot }) (.ok { result with snapshot := other })

theorem interpret_upToSnapshot (encodes : m.StatesEncode) (effect : Effect S E) (state : S)
    (i : Interpretation) (p q : SnapshotPolicy) :
    ResultUpToSnapshot (effect.interpret m state { i with policy := p })
      (effect.interpret m state { i with policy := q }) := by
  rw [interpret_eq_attach (i := { i with policy := p }),
    interpret_eq_attach (i := { i with policy := q })]
  cases plain : effect.interpret m state { i with policy := .never } with
  | error defect => exact .defect defect
  | ok result =>
      obtain ⟨snapshot, attached⟩ := attach_ok encodes plain p
      obtain ⟨other, attached'⟩ := attach_ok encodes plain q
      simp only [bind, Except.bind, attached, attached']
      exact .result result snapshot other

end Effect

/-- The same ending, but for the correlation id of a failure or the snapshot of a reply. -/
inductive Ending.UpToSnapshot : Ending → Ending → Prop
  | alike {x y : Ending} (alike : x.Alike y) : UpToSnapshot x y
  | replies (reply : Reply) (snapshot other : Option Snapshot) :
      UpToSnapshot (.answered (.reply { reply with snapshot }))
        (.answered (.reply { reply with snapshot := other }))

def Exchange.UpToSnapshot (x y : Exchange) : Prop :=
  x.turn = y.turn ∧ x.ending.UpToSnapshot y.ending

/-- What handlers can see of the shared things is the same. -/
structure Shared.Agrees {M : Type} (first second : Shared M) : Prop where
  memory : first.memory = second.memory
  board : first.board = second.board

structure Incarnation.UpToSnapshot {S : Type} (first second : Incarnation S) : Prop where
  state : first.state = second.state
  current : first.position.current = second.position.current

structure Options.UpToSnapshot (o o' : Options) : Prop where
  tracer : o.tracer = o'.tracer
  expectedEntity : o.expectedEntity = o'.expectedEntity
  ignoreInitSnapshot : o.ignoreInitSnapshot = o'.ignoreInitSnapshot

structure Session.UpToSnapshot {E : Entity} (t s : Session E) : Prop where
  options : t.options.UpToSnapshot s.options
  phase : t.phase = s.phase
  identity : t.identity = s.identity
  lives : Option.Rel Incarnation.UpToSnapshot t.incarnation s.incarnation
  deleted : t.deleted = s.deleted

inductive Response.UpToSnapshot {E : Entity} : Response E → Response E → Prop
  | quiet : UpToSnapshot .quiet .quiet
  | answered {message other : Outbound}
      (upToSnapshot : Ending.UpToSnapshot (.answered message) (.answered other)) :
      UpToSnapshot (.answered message) (.answered other)
  | crashed (crash : Crash) : UpToSnapshot (.crashed crash) (.crashed crash)
  | calling (call : Call E) : UpToSnapshot (.calling call) (.calling call)

structure Step.UpToSnapshot {E : Entity} (first second : Step E) : Prop where
  session : first.session.UpToSnapshot second.session
  shared : first.shared.Agrees second.shared
  response : first.response.UpToSnapshot second.response

theorem Shared.Agrees.draw {M : Type} {first second : Shared M} (agree : first.Agrees second) :
    first.draw.2.Agrees second.draw.2 := ⟨agree.memory, agree.board⟩

theorem Incarnation.UpToSnapshot.refl {S : Type} (life : Incarnation S) :
    life.UpToSnapshot life :=
  ⟨rfl, rfl⟩

theorem Response.UpToSnapshot.ending {E : Entity} {first second : Response E}
    (upTo : first.UpToSnapshot second) :
    first.ending.UpToSnapshot second.ending := by
  cases upTo with
  | quiet => exact .alike (.same _)
  | answered upToSnapshot => exact upToSnapshot
  | crashed crash => exact .alike (.same _)
  | calling call => exact .alike (.same _)

theorem Step.UpToSnapshot.preceded {E : Entity} {first second : Step E}
    (upTo : first.UpToSnapshot second)
    (notices notices' : List Notice) (calls calls' : List TraceCall) :
    (first.preceded notices calls).UpToSnapshot (second.preceded notices' calls') :=
  ⟨upTo.session, upTo.shared, upTo.response⟩

namespace Session

variable {E : Entity} {t s : Session E} {shared shared' : Shared E.Memory}

namespace UpToSnapshot

theorem identityOrBlank (upTo : UpToSnapshot t s) : t.identityOrBlank = s.identityOrBlank := by
  unfold Session.identityOrBlank
  rw [upTo.identity]

theorem with_life (upTo : UpToSnapshot t s) {life other : Incarnation E.State}
    (lives : life.UpToSnapshot other) :
    UpToSnapshot { t with incarnation := some life } { s with incarnation := some other } :=
  { upTo with lives := .some lives }

theorem with_phase (upTo : UpToSnapshot t s) (phase : Phase) :
    UpToSnapshot { t with phase } { s with phase } :=
  { upTo with phase := rfl }

/-- The present lives of both sessions, which can crash only in both. -/
theorem present (upTo : UpToSnapshot t s) :
    (∃ crash, t.present = .error crash ∧ s.present = .error crash) ∨
      ∃ life other, t.present = .ok life ∧ s.present = .ok other ∧ life.UpToSnapshot other := by
  unfold Session.present
  have lives := upTo.lives
  generalize t.incarnation = first at *
  generalize s.incarnation = second at *
  cases lives with
  | some lives => exact .inr ⟨_, _, rfl, rfl, lives⟩
  | none =>
      cases E.emptyState with
      | error crash => exact .inl ⟨crash, rfl, rfl⟩
      | ok blank => exact .inr ⟨_, _, rfl, rfl, .refl _⟩

theorem endIfFatal (upTo : UpToSnapshot t s) (severity : Severity) :
    UpToSnapshot (t.endIfFatal severity) (s.endIfFatal severity) := by
  unfold Session.endIfFatal
  rw [upTo.phase]
  split
  · exact upTo.with_phase _
  · exact upTo

theorem violate (upTo : UpToSnapshot t s) (agree : shared.Agrees shared') (violation : Violation)
    (commandId : Option UInt64) :
    (t.violate shared violation commandId).UpToSnapshot (s.violate shared' violation commandId) :=
  ⟨upTo.endIfFatal .protocol, agree.draw, .answered (.alike (.failures _ _ _ _))⟩

theorem failRecovery (upTo : UpToSnapshot t s) (agree : shared.Agrees shared')
    (error : RecoveryError) :
    (t.failRecovery shared error).UpToSnapshot (s.failRecovery shared' error) :=
  ⟨upTo.endIfFatal .unexpected, agree.draw,
    .answered (.alike (.failures _ "unexpected error [" _ _))⟩

theorem admitSnapshot (upTo : UpToSnapshot t s) (snapshot : Option Snapshot) :
    (t.admitSnapshot snapshot).1 = (s.admitSnapshot snapshot).1 := by
  unfold Session.admitSnapshot
  rw [upTo.options.ignoreInitSnapshot]
  cases snapshot with
  | none => rfl
  | some snapshot => cases s.options.ignoreInitSnapshot <;> rfl

theorem receiveInit (upTo : UpToSnapshot t s) (agree : shared.Agrees shared') (init : Init) :
    (t.receiveInit shared init).UpToSnapshot (s.receiveInit shared' init) := by
  have named : UpToSnapshot { t with identity := some init.entityId }
      { s with identity := some init.entityId } := { upTo with identity := rfl }
  unfold Session.receiveInit
  rw [upTo.options.expectedEntity]
  cases s.options.expectedEntity.filter (· ≠ init.entityId) with
  | some expected => exact upTo.violate agree _ none
  | none =>
      simp only
      rw [named.admitSnapshot init.snapshot]
      rcases seed (E := E) _ with error | crash | life
      · exact (named.failRecovery agree error).preceded _ _ _ _
      · exact ⟨named, agree, .crashed crash⟩
      · exact ⟨(named.with_life (.refl life)).with_phase .replaying, agree, .quiet⟩

theorem receiveEvent (upTo : UpToSnapshot t s) (agree : shared.Agrees shared')
    (record : EventRecord) :
    (t.receiveEvent shared record).UpToSnapshot (s.receiveEvent shared' record) := by
  unfold Session.receiveEvent
  rcases upTo.present with ⟨crash, first, second⟩ | ⟨life, other, first, second, lives⟩
  · rw [first, second]
    exact ⟨upTo, agree, .crashed crash⟩
  rw [first, second]
  simp only [LogPosition.replay, lives.current]
  let moved (life : Incarnation E.State) (state : E.State) : Incarnation E.State :=
    ⟨state, { life.position with current := record.sequenceNumber }⟩
  have advanced (state state' : E.State) (same : state = state') :
      (moved life state).UpToSnapshot (moved other state') := ⟨same, rfl⟩
  by_cases next : record.sequenceNumber = other.position.current + 1
  · simp only [if_pos next]
    cases E.events.decode record.payload with
    | error e => exact (upTo.with_life (advanced _ _ lives.state)).failRecovery agree _
    | ok event =>
        cases E.emptyState with
        | error crash => exact ⟨upTo.with_life (advanced _ _ lives.state), agree, .crashed crash⟩
        | ok blank =>
            simp only [lives.state]
            cases E.apply other.state event with
            | error crash =>
                exact (upTo.with_life (advanced blank blank rfl)).failRecovery agree
                  (.applyPanicked record.sequenceNumber)
            | ok state => exact ⟨upTo.with_life (advanced state state rfl), agree, .quiet⟩
  · simp only [if_neg next]
    exact (upTo.with_life lives).violate agree _ none

theorem revive (upTo : UpToSnapshot t s) :
    UpToSnapshot t.revive.1 s.revive.1 ∧
      ((∃ crash, t.revive.2.2 = .error crash ∧ s.revive.2.2 = .error crash) ∨
        ∃ life other, t.revive.2.2 = .ok life ∧ s.revive.2.2 = .ok other ∧
          life.UpToSnapshot other) := by
  have vacant : t.incarnation.isNone = s.incarnation.isNone := by
    have lives := upTo.lives
    generalize t.incarnation = first at *
    generalize s.incarnation = second at *
    cases lives <;> rfl
  let awake (u : Session E) : Session E :=
    if u.incarnation.isNone && u.deleted then { u with deleted := false } else u
  have woken : UpToSnapshot (awake t) (awake s) := by
    simp only [awake]
    rw [vacant, upTo.deleted]
    split
    · exact { upTo with deleted := rfl }
    · exact upTo
  unfold Session.revive
  simp only
  rcases woken.present with ⟨crash, first, second⟩ | ⟨life, other, first, second, lives⟩
  · simp only [awake] at first second
    rw [first, second]
    exact ⟨woken, .inl ⟨crash, rfl, rfl⟩⟩
  · simp only [awake] at first second
    rw [first, second]
    exact ⟨woken.with_life lives, .inr ⟨life, other, rfl, rfl, lives⟩⟩

theorem receiveSnapshotRequest (upTo : UpToSnapshot t s) (agree : shared.Agrees shared')
    (request : SnapshotRequest) :
    (t.receiveSnapshotRequest shared request).UpToSnapshot
      (s.receiveSnapshotRequest shared' request) := by
  obtain ⟨woken, revived⟩ := upTo.revive
  unfold Session.receiveSnapshotRequest
  generalize t.revive = first at *
  generalize s.revive = second at *
  obtain ⟨t', notices, life⟩ := first
  obtain ⟨s', notices', other⟩ := second
  rcases revived with ⟨crash, rfl, rfl⟩ | ⟨life, other, rfl, rfl, lives⟩
  · exact ⟨woken, agree, .crashed crash⟩
  · simp only [lives.state, lives.current]
    cases E.states.encode other.state with
    | ok state => exact ⟨woken, agree, .answered (.alike (.same _))⟩
    | error e => exact (woken.failRecovery agree _).preceded _ _ _ _

theorem commit (upTo : UpToSnapshot t s) (result : CommandResult E.State)
    (snapshot other : Option Snapshot) :
    UpToSnapshot (t.commit { result with snapshot })
      (s.commit { result with snapshot := other }) := by
  unfold Session.commit
  cases deletes : result.deletes with
  | true =>
      simp only [if_true]
      exact { upTo with lives := .none, deleted := rfl }
  | false =>
      simp only [Bool.false_eq_true, if_false]
      refine { upTo with lives := ?_ }
      have lives := upTo.lives
      generalize t.incarnation = first at *
      generalize s.incarnation = second at *
      cases lives with
      | none => exact .none
      | some lives =>
          refine .some ⟨by simp only [lives.state], ?_⟩
          cases snapshot <;> cases other <;>
            simp only [LogPosition.markSnapshot, LogPosition.current_advance, lives.current]

theorem succeed (upTo : UpToSnapshot t s) (agree : shared.Agrees shared') (ticket : Ticket)
    (result : CommandResult E.State) (snapshot other : Option Snapshot) :
    (t.succeed shared ticket { result with snapshot }).UpToSnapshot
      (s.succeed shared' ticket { result with snapshot := other }) :=
  ⟨upTo.commit result snapshot other, agree,
    .answered (.replies (result.toReply ticket.commandId) snapshot other)⟩

theorem refuse (upTo : UpToSnapshot t s) (agree : shared.Agrees shared') (ticket : Ticket)
    (error : CommandError) :
    (t.refuse shared ticket error).UpToSnapshot (s.refuse shared' ticket error) := by
  unfold Session.refuse
  cases error.severity with
  | validation => exact ⟨upTo.endIfFatal .validation, agree, .answered (.alike (.same _))⟩
  | protocol =>
      exact ⟨upTo.endIfFatal .protocol, agree.draw,
        .answered (.alike (.failures _ "unexpected error [" _ _))⟩
  | unexpected =>
      exact ⟨upTo.endIfFatal .unexpected, agree.draw,
        .answered (.alike (.failures _ "unexpected error [" _ _))⟩

theorem abandon (agree : shared.Agrees shared') (ticket : Ticket) :
    (Session.abandon shared ticket).Agrees (Session.abandon shared' ticket) :=
  ⟨agree.memory, by simp only [Session.abandon, agree.board]⟩

theorem conclude (encodes : E.StatesEncode) (upTo : UpToSnapshot t s)
    (agree : shared.Agrees shared')
    (ticket : Ticket) (ending : Except CommandError (Effect E.State E.Event)) :
    (t.conclude shared ticket ending).UpToSnapshot (s.conclude shared' ticket ending) := by
  have closed := abandon agree ticket
  unfold Session.conclude
  cases ending with
  | error e => exact upTo.refuse closed ticket e
  | ok effect =>
      rcases upTo.present with ⟨crash, first, second⟩ | ⟨life, other, first, second, lives⟩
      · simp only [first, second]
        exact ⟨upTo, closed, .crashed crash⟩
      have living := upTo.with_life lives
      simp only [first, second, lives.state]
      have upToSnapshot := Effect.interpret_upToSnapshot encodes effect other.state
        ⟨ticket.operation, E.model, .never, ticket.sequenceNumber⟩ t.options.policy
        s.options.policy
      simp only at upToSnapshot
      generalize effect.interpret E.mechanics other.state
        ⟨ticket.operation, E.model, t.options.policy, ticket.sequenceNumber⟩ = one at *
      generalize effect.interpret E.mechanics other.state
        ⟨ticket.operation, E.model, s.options.policy, ticket.sequenceNumber⟩ = two at *
      cases upToSnapshot with
      | defect defect => exact living.refuse closed ticket _
      | result result snapshot other => exact living.succeed closed ticket result snapshot other

theorem launch (encodes : E.StatesEncode) (upTo : UpToSnapshot t s) (agree : shared.Agrees shared')
    (command : Command) {life other : Incarnation E.State} (lives : life.UpToSnapshot other) :
    (t.launch shared command life).UpToSnapshot (s.launch shared' command other) := by
  unfold Session.launch
  simp only [upTo.options.tracer, lives.current, lives.state, agree.board]
  generalize shared'.board.openContext command.entityId other.position.current command.operation
    command.commandId command.metadata _ = opened
  obtain ⟨context, board⟩ := opened
  have opened : Shared.Agrees { shared with board } { shared' with board } := ⟨agree.memory, rfl⟩
  rcases E.dispatch command.operation other.state context command.payload with
    error | crash | activity
  · exact (upTo.conclude encodes opened _ _).preceded _ _ _ _
  · exact ⟨upTo, abandon opened _, .crashed crash⟩
  · exact ⟨upTo, opened, .calling _⟩

theorem receiveCommand (encodes : E.StatesEncode) (upTo : UpToSnapshot t s)
    (agree : shared.Agrees shared') (command : Command) :
    (t.receiveCommand shared command).UpToSnapshot (s.receiveCommand shared' command) := by
  obtain ⟨woken, revived⟩ := upTo.revive
  unfold Session.receiveCommand
  rw [upTo.identity]
  split
  · generalize t.revive = first at *
    generalize s.revive = second at *
    obtain ⟨t', notices, life⟩ := first
    obtain ⟨s', notices', other⟩ := second
    rcases revived with ⟨crash, rfl, rfl⟩ | ⟨life, other, rfl, rfl, lives⟩
    · exact ⟨woken, agree, .crashed crash⟩
    · exact (woken.launch encodes agree command lives).preceded _ _ _ _
  · rw [upTo.identityOrBlank]
    exact upTo.violate agree _ _

theorem begin (encodes : E.StatesEncode) (upTo : UpToSnapshot t s) (agree : shared.Agrees shared')
    (message : Inbound) : (t.begin shared message).UpToSnapshot (s.begin shared' message) := by
  have awake := upTo.with_phase .active
  unfold Session.begin
  rw [upTo.phase]
  cases s.phase with
  | terminated =>
      cases message with
      | command command => exact ⟨upTo, agree, .answered (.alike (.same _))⟩
      | _ => exact ⟨upTo, agree, .quiet⟩
  | awaitingInit =>
      cases message with
      | init init => exact upTo.receiveInit agree init
      | _ => exact upTo.violate agree _ _
  | replaying =>
      cases message with
      | init init => exact upTo.violate agree _ none
      | event record => exact upTo.receiveEvent agree record
      | command command => exact awake.receiveCommand encodes agree command
      | snapshotRequest request => exact awake.receiveSnapshotRequest agree request
  | active =>
      cases message with
      | init init => exact upTo.violate agree _ none
      | event record => exact upTo.violate agree _ none
      | command command => exact awake.receiveCommand encodes agree command
      | snapshotRequest request => exact awake.receiveSnapshotRequest agree request

theorem advance (agree : shared.Agrees shared') (call : Call E) :
    (Session.advance shared call).1 = (Session.advance shared' call).1 ∧
      (Session.advance shared call).2.Agrees (Session.advance shared' call).2 := by
  unfold Session.advance
  rw [agree.memory, agree.board]
  exact ⟨rfl, rfl, rfl⟩

theorem await (ticket : Ticket) (patience : Nat) (activity : Activity E.Memory E.State E.Event)
    (agree : shared.Agrees shared') :
    (Session.await ticket patience activity shared).1 =
        (Session.await ticket patience activity shared').1 ∧
      (Session.await ticket patience activity shared).2.Agrees
        (Session.await ticket patience activity shared').2 := by
  induction patience generalizing activity shared shared' with
  | zero => exact ⟨rfl, agree⟩
  | succ patience ih =>
      obtain ⟨same, later⟩ := advance agree ⟨ticket, activity⟩
      unfold Session.await
      generalize Session.advance shared _ = first at *
      generalize Session.advance shared' _ = second at *
      obtain ⟨progress, after⟩ := first
      obtain ⟨progress', after'⟩ := second
      obtain rfl : progress = progress' := same
      cases progress with
      | ended ending => exact ⟨rfl, later⟩
      | sleeping span rest => exact ih rest later
      | hanging => exact ⟨rfl, later⟩

theorem pursue (encodes : E.StatesEncode) (upTo : UpToSnapshot t s) (agree : shared.Agrees shared')
    (call : Call E) (patience : Nat) :
    (t.pursue shared call patience).UpToSnapshot (s.pursue shared' call patience) := by
  obtain ⟨same, later⟩ := await call.ticket patience call.activity agree
  unfold Session.pursue
  generalize Session.await call.ticket patience call.activity shared = first at *
  generalize Session.await call.ticket patience call.activity shared' = second at *
  obtain ⟨ending, after⟩ := first
  obtain ⟨ending', after'⟩ := second
  obtain rfl : ending = ending' := same
  cases ending with
  | some ending => exact upTo.conclude encodes later call.ticket ending
  | none => exact ⟨upTo, abandon later call.ticket, .calling call⟩

theorem serve (encodes : E.StatesEncode) (upTo : UpToSnapshot t s) (agree : shared.Agrees shared')
    (turn : Turn) : (t.serve shared turn).UpToSnapshot (s.serve shared' turn) := by
  have begun := upTo.begin encodes agree turn.message
  unfold Session.serve carry
  generalize t.begin shared turn.message = first at *
  generalize s.begin shared' turn.message = second at *
  obtain ⟨t', after, notices, calls, response⟩ := first
  obtain ⟨s', after', notices', calls', response'⟩ := second
  obtain ⟨session, later, response⟩ := begun
  cases response with
  | quiet => exact ⟨session, later, .quiet⟩
  | answered upToSnapshot => exact ⟨session, later, .answered upToSnapshot⟩
  | crashed crash => exact ⟨session, later, .crashed crash⟩
  | calling call => exact (pursue encodes session later call turn.patience).preceded _ _ _ _

/-- No answer but for its snapshot tells the two sessions apart. -/
theorem converse (encodes : E.StatesEncode) (upTo : UpToSnapshot t s)
    (agree : shared.Agrees shared')
    (turns : List Turn) :
    UpToSnapshot (t.converse shared turns).session (s.converse shared' turns).session ∧
      List.Forall₂ Exchange.UpToSnapshot (t.converse shared turns).exchanges
        (s.converse shared' turns).exchanges := by
  induction turns generalizing t s shared shared' with
  | nil => exact ⟨upTo, .nil⟩
  | cons turn rest ih =>
      obtain ⟨session, later, response⟩ := upTo.serve encodes agree turn
      obtain ⟨last, others⟩ := ih session later
      exact ⟨last, .cons ⟨rfl, response.ending⟩ others⟩

theorem state? (upTo : UpToSnapshot t s) : t.state? = s.state? := by
  unfold Session.state?
  have lives := upTo.lives
  generalize t.incarnation = first at *
  generalize s.incarnation = second at *
  cases lives with
  | none => rfl
  | some lives => exact congrArg some lives.state

theorem sequenceNumber? (upTo : UpToSnapshot t s) : t.sequenceNumber? = s.sequenceNumber? := by
  unfold Session.sequenceNumber?
  have lives := upTo.lives
  generalize t.incarnation = first at *
  generalize s.incarnation = second at *
  cases lives with
  | none => rfl
  | some lives => exact congrArg some lives.current

end UpToSnapshot

/-- Two new channels that differ only in their policies go the same way, whatever messages
come, as long as every state that an event leads to can be encoded. -/
theorem converse_policies (encodes : E.StatesEncode) (o : Options) (p q : SnapshotPolicy)
    (agree : shared.Agrees shared') (turns : List Turn) :
    let first := (fresh { o with policy := p } : Session E).converse shared turns
    let second := (fresh { o with policy := q } : Session E).converse shared' turns
    first.session.phase = second.session.phase ∧
      first.session.state? = second.session.state? ∧
      first.session.sequenceNumber? = second.session.sequenceNumber? ∧
      first.session.deleted = second.session.deleted ∧
      List.Forall₂ Exchange.UpToSnapshot first.exchanges second.exchanges := by
  intro first second
  have new : UpToSnapshot (fresh { o with policy := p } : Session E)
      (fresh { o with policy := q }) :=
    ⟨⟨rfl, rfl, rfl⟩, rfl, rfl, .none, rfl⟩
  obtain ⟨upTo, upToSnapshot⟩ := new.converse encodes agree turns
  exact ⟨upTo.phase, upTo.state?, upTo.sequenceNumber?, upTo.deleted, upToSnapshot⟩

/-- A counter that takes a snapshot after each event goes the way of one that never does. -/
theorem converse_policies_visit :
    let often : SnapshotPolicy := .every 1 (by decide)
    let channel (policy : SnapshotPolicy) :=
      (fresh { Options.default with policy } : Session Samples.Counter.entity).converse
        Samples.Counter.host Samples.Counter.visit
    (channel often).session.lastSnapshot? ≠ (channel .never).session.lastSnapshot? ∧
      (channel often).session.sequenceNumber? = (channel .never).session.sequenceNumber? ∧
      List.Forall₂ Exchange.UpToSnapshot (channel often).exchanges (channel .never).exchanges := by
  intro often channel
  have encodes : Samples.Counter.entity.StatesEncode := fun _ _ _ _ => ⟨_, rfl⟩
  obtain ⟨-, -, number, -, upToSnapshot⟩ := @converse_policies Samples.Counter.entity
    Samples.Counter.host Samples.Counter.host encodes .default often .never ⟨rfl, rfl⟩
    Samples.Counter.visit
  exact ⟨by decide, number, upToSnapshot⟩

end Session

namespace Samples.Script

/-- The channel begins with a state that does not encode, and a command persists an event. -/
def sealedVisit : List Turn :=
  [⟨.init ⟨"c-1", some ⟨0, .array [.string "!fail"]⟩⟩, 0⟩,
    ⟨.command (.plain 1 "c-1" "do" (some (.object
      [("effect", .array [.array [.string "persist", .array [.string "x"]],
        .array [.string "then_reply", .string "done"]])]))), 1⟩]

end Samples.Script

/-- Here a policy decides whether the event is persisted. -/
theorem Session.converse_policies_unencodable :
    let E := Samples.Script.entity "script" (.eventSourced false)
    let channel (policy : SnapshotPolicy) :=
      (fresh { Options.default with policy } : Session E).converse (E.share Uuid.ofNat)
        Samples.Script.sealedVisit
    (channel (.every 1 (by decide))).session.sequenceNumber? = some 0 ∧
      (channel .never).session.sequenceNumber? = some 1 := by
  decide

end EntityEngine
